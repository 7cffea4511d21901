/-
**Comparing an action with a pattern.**

Whoever writes rules can try one pattern on one action. Both have to be well formed, as they have
to be where rules are applied, and the answer is the one that a grant with this pattern would give.

* `comparison`: whether the pattern covers the action, with a note that says so.
-/
import AccessAudit.Terminal
import AccessAudit.Token

namespace AccessAudit

/-- The words for a pattern that covers an action, and for one that does not. -/
def comparisonMessage (action pattern : String) (covered : Bool) : String :=
  if covered then pattern ++ " matches " ++ action
  else pattern ++ " does not match " ++ action

/-- Whether a pattern covers an action. The action is looked at before the pattern. -/
def comparison (terminal : Terminal) (action pattern : String) :
    Except TokenError (Shown Bool) := do
  checkCandidate action
  checkPattern .grantAction pattern
  let covered := Pattern.covers pattern action
  return {
    value := covered
    output :=
      [terminal.note (if covered then .success else .info)
        (comparisonMessage action pattern covered)] }

end AccessAudit
