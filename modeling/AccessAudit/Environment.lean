/-
**Environment variables.**

A run sees the environment as a function of the name. A variable that is set to nothing is set all
the same, and it is for each reader to say whether that counts.
-/

namespace AccessAudit

/-- The value of each variable that is set. -/
structure Environment where
  get? : String → Option String

namespace Environment

/-- The environment of these variables; of a repeated name the first one counts. -/
def ofList (entries : List (String × String)) : Environment where
  get? := fun name => entries.lookup name

/-- Whether a variable is set, to whatever value. -/
def isSet (environment : Environment) (name : String) : Bool :=
  (environment.get? name).isSome

/-- The value of a variable that is set to something. -/
def filled? (environment : Environment) (name : String) : Option String :=
  (environment.get? name).filter fun value => !value.isEmpty

end Environment

end AccessAudit
