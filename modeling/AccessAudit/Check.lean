/-
**Checking a requirement against a snapshot.**

Each domain of the requirement is judged by the rules of the same domain. The control domain goes
first and the data domain follows; what cannot be judged in one of them fails the whole check, and
it does so also where nothing is required, since the rules are made and looked at all the same.

* `checkDomain`: the rules of one domain are made and the required actions judged by them;
* `check`: both domains, with the events on the way;
* `PermissionCheck.passed`, `PermissionCheck.failures`: the outcome and its messages.
-/
import AccessAudit.Failure
import AccessAudit.Verdict

namespace AccessAudit

/-- Why a check could not be carried out. -/
inductive CheckError where
  /-- A record lacks a field. -/
  | incomplete (gap : Gap)
  /-- An action or a pattern is malformed. -/
  | malformed (error : TokenError)
  deriving DecidableEq, Repr

namespace CheckError

/-- The words for the cause alone. -/
def cause : CheckError → String
  | incomplete gap => gap.message
  | malformed error => error.message

/-- The words for the error, which include those for its cause. -/
def message : CheckError → String
  | incomplete gap => "rule snapshot rejected: " ++ gap.message
  | malformed error => "invalid evaluator input: " ++ error.message

/-- The error with its cause as a second part. -/
def failure (error : CheckError) : Failure where
  account := error.message
  causes := [error.cause]

end CheckError

/-- The verdicts of both domains. -/
structure PermissionCheck where
  control : Verdict
  data : Verdict
  deriving DecidableEq, Repr

namespace PermissionCheck

/-- A check passes when both verdicts are clean. -/
def passed (check : PermissionCheck) : Bool :=
  check.control.isClean && check.data.isClean

/-- The messages of the control domain, then those of the data domain. -/
def failures (check : PermissionCheck) : List String :=
  check.control.failures .control ++ check.data.failures .data

end PermissionCheck

/-- Judge the required actions of one domain by the rules of a snapshot. -/
def checkDomain (domain : Domain) (requirement : Requirement) (snapshot : Snapshot) :
    Except (Logged CheckError) (Logged Verdict) :=
  match snapshot.rules? domain with
  | .error gap => .error { value := .incomplete gap }
  | .ok rules =>
    match evaluate domain rules (requirement.inDomain domain) with
    | .error refused => .error { value := .malformed refused, events := refused.events }
    | .ok judged => .ok judged

/-- Judge a requirement by a snapshot. The data domain is looked at when the control domain has its
verdict. -/
def check (requirement : Requirement) (snapshot : Snapshot) :
    Logged (Except CheckError PermissionCheck) :=
  match checkDomain .control requirement snapshot with
  | .error refused => { value := .error refused, events := refused.events }
  | .ok control =>
    match checkDomain .data requirement snapshot with
    | .error refused => { value := .error refused, events := control.events ++ refused.events }
    | .ok data =>
      { value := .ok { control := control.value, data := data.value }
        events := control.events ++ data.events }

end AccessAudit
