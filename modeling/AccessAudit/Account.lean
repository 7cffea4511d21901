/-
**Accounts of the system.**

The system lists its accounts line by line, with fields between colons: the name first, the number
third, the home directory sixth. What it tells of a process is a list of lines as well, and one of
them has the number of the account that started it.

* `homeOf?`: the home directory of the account with a number;
* `numberIn?`: the number of the account in what is told of a process.
-/

namespace AccessAudit.Account

/-- The home directory in the line of an account, if the account has this number. -/
def homeInLine? (number line : String) : Option String :=
  match line.splitOn ":" with
  | _ :: _ :: found :: _ :: _ :: home :: _ =>
    if found = number ∧ home ≠ "" then some home else none
  | _ => none

/-- The home directory of the account with this number, by the list of accounts. -/
def homeOf? (accounts number : String) : Option String :=
  (accounts.splitOn "\n").findSome? (homeInLine? number)

/-- The number of the account that started a process, by what the system tells of the process. -/
def numberIn? (status : String) : Option String :=
  (status.splitOn "\n").findSome? fun line =>
    match line.splitOn "\t" with
    | "Uid:" :: number :: _ => some number
    | _ => none

end AccessAudit.Account
