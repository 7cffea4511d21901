/-
**Well-formed actions and patterns.**

Before any rule is applied, every required action and every pattern is looked at once. A required
action is concrete: it is not empty and holds no wildcard. A pattern is not empty and holds at most
one wildcard.

* `Origin`: the list in which a text was found;
* `TokenError`, `TokenError.message`: what is wrong with a text, and the words for it;
* `checkCandidate`, `checkPattern`, `checkPatterns`: the two rules.
-/
import AccessAudit.Pattern
import AccessAudit.Text.Quoted

namespace AccessAudit

/-- The list in which an action or a pattern was found. -/
inductive Origin where
  | candidateAction
  | grantAction
  | grantException
  | denialAction
  | denialException
  deriving DecidableEq, Repr

/-- What messages call a text from the list. -/
def Origin.label : Origin → String
  | candidateAction => "candidate action"
  | grantAction => "grant action"
  | grantException => "grant not-action"
  | denialAction => "denial action"
  | denialException => "denial not-action"

/-- What is wrong with an action or a pattern. -/
inductive TokenError where
  /-- The text is empty. -/
  | empty (origin : Origin)
  /-- A required action is not concrete. -/
  | wildcardInCandidate (action : String)
  /-- A pattern holds two wildcards or more. -/
  | tooManyWildcards (origin : Origin) (pattern : String)
  deriving DecidableEq, Repr

/-- The words for a malformed text. -/
def TokenError.message : TokenError → String
  | empty origin => origin.label ++ " must not be empty"
  | wildcardInCandidate action =>
    "candidate action " ++ Text.quoted action ++ " must not contain a wildcard"
  | tooManyWildcards origin pattern =>
    origin.label ++ " " ++ Text.quoted pattern ++ " contains more than one wildcard"

/-- A required action is not empty and holds no wildcard. -/
def checkCandidate (action : String) : Except TokenError Unit :=
  if action.isEmpty then .error (.empty .candidateAction)
  else if Pattern.hasWildcard action then .error (.wildcardInCandidate action)
  else .ok ()

/-- A pattern is not empty and holds at most one wildcard. -/
def checkPattern (origin : Origin) (pattern : String) : Except TokenError Unit :=
  if pattern.isEmpty then .error (.empty origin)
  else if Pattern.wildcardCount pattern > 1 then .error (.tooManyWildcards origin pattern)
  else .ok ()

/-- Every pattern of a list is well formed; the first that is not is the error. -/
def checkPatterns (origin : Origin) (patterns : List String) : Except TokenError Unit :=
  patterns.forM (checkPattern origin)

end AccessAudit
