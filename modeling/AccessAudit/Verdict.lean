/-
**The verdict on a batch of required actions.**

Each required action is judged twice, and the two judgements do not touch each other. The denials
are all looked at, and the last one that covers the action is the one it is denied by; the grants
are looked at until one covers the action. An action may therefore be denied, without a grant,
both, or neither.

* `checkInput`: every action and every pattern is well formed, looked at in a fixed order;
* `review`: the two judgements on one action, with the events that tell of them;
* `Verdict`: the outcome, which holds each action once at most, in ascending order;
* `Verdict.ofEntries`: the outcome that entries in any order add up to;
* `evaluate`: the verdict on a batch, or the first malformed text, with the events on the way;
* `Verdict.failures`: the messages of a verdict.
-/
import AccessAudit.LogEvent
import AccessAudit.Rule
import AccessAudit.Text.Ordered
import AccessAudit.Token

namespace AccessAudit

/-- What became of a batch of required actions in one domain. -/
@[ext]
structure Verdict where
  /-- The denied actions, each with the identifier of the denial. -/
  denied : List (String × String)
  /-- The actions that no grant covers. -/
  unpermitted : List String
  denied_ascending : (denied.map Prod.fst).Pairwise (· < ·)
  unpermitted_ascending : unpermitted.Pairwise (· < ·)
  deriving DecidableEq, Repr

namespace Verdict

/-- The verdict that denials and actions without a grant add up to, in whatever order they come. Of
two denials of an action the later one counts. -/
def ofEntries (denied : List (String × String)) (unpermitted : List String) : Verdict where
  denied := Text.sortedEntries denied
  unpermitted := Text.sortedTexts unpermitted
  denied_ascending := Text.keys_sortedEntries_ascending denied
  unpermitted_ascending := Text.sortedTexts_ascending unpermitted

/-- Nothing is denied and everything is granted. -/
def isClean (verdict : Verdict) : Bool :=
  verdict.denied.isEmpty && verdict.unpermitted.isEmpty

/-- The identifier of the denial that blocks an action. -/
def deniedBy? (verdict : Verdict) (action : String) : Option String :=
  verdict.denied.lookup action

/-- Whether no grant covers an action of the batch. -/
def isUnpermitted (verdict : Verdict) (action : String) : Bool :=
  verdict.unpermitted.contains action

end Verdict

/-! ### Well-formed input -/

/-- The patterns of a grant, the exceptions last. -/
def checkGrant (grant : Coverage) : Except TokenError Unit := do
  checkPatterns .grantAction grant.actions
  checkPatterns .grantException grant.exceptions

/-- The patterns of a denial, the exceptions last. -/
def checkDenial (denial : Denial) : Except TokenError Unit := do
  checkPatterns .denialAction denial.coverage.actions
  checkPatterns .denialException denial.coverage.exceptions

/-- Every action and every pattern is well formed: the actions first, then the grants, then the
denials. The first that is not is the error. -/
def checkInput (rules : RuleSet) (candidates : List String) : Except TokenError Unit := do
  candidates.forM checkCandidate
  rules.grants.forM checkGrant
  rules.denials.forM checkDenial

/-! ### The judgement on one action -/

/-- A denial covers an action by a pattern. -/
def denialEvent (action : String) (denial : Denial) (pattern : String) : LogEvent where
  level := .debug
  message := "Deny rule match"
  fields :=
    [("action", .plain action), ("pattern", .plain pattern),
      ("deny_assignment", .plain denial.id)]

/-- A grant covers an action by a pattern. -/
def grantEvent (action pattern : String) : LogEvent where
  level := .debug
  message := "Grant match"
  fields := [("action", .plain action), ("pattern", .plain pattern)]

/-- What the rules say about one action. -/
structure Review where
  action : String
  /-- The denials that cover the action, each with the pattern it does so by. -/
  strikes : List (Denial × String)
  /-- The pattern by which the first grant covers the action. -/
  grantedVia? : Option String
  deriving DecidableEq, Repr

namespace Review

/-- The identifier of the last denial that covers the action. -/
def deniedBy? (review : Review) : Option String :=
  review.strikes.getLast?.map fun (denial, _) => denial.id

/-- Whether a grant covers the action. -/
def isGranted (review : Review) : Bool :=
  review.grantedVia?.isSome

/-- One event for each denial that covers the action, then one for the grant. -/
def events (review : Review) : List LogEvent :=
  review.strikes.map (fun (denial, pattern) => denialEvent review.action denial pattern) ++
    review.grantedVia?.toList.map (grantEvent review.action)

end Review

/-- Judge one action: all denials, and the grants up to the first that covers it. -/
def review (rules : RuleSet) (action : String) : Review where
  action := action
  strikes := rules.denials.filterMap fun denial =>
    (denial.coverage.via? action).map fun pattern => (denial, pattern)
  grantedVia? := rules.grants.findSome? (·.via? action)

/-! ### The verdict on a batch -/

/-- The verdict that the reviews of a batch add up to. -/
def Verdict.ofReviews (reviews : List Review) : Verdict :=
  .ofEntries
    (reviews.filterMap fun review => review.deniedBy?.map fun id => (review.action, id))
    ((reviews.filter fun review => !review.isGranted).map Review.action)

/-- The event that closes the evaluation of a batch. -/
def summaryEvent (domain : Domain) (candidates : List String) (verdict : Verdict) : LogEvent where
  level := .debug
  message := "Evaluated permissions"
  fields :=
    [("domain", .name domain.label), ("candidates", .count candidates.length),
      ("denied", .count verdict.denied.length),
      ("unpermitted", .count verdict.unpermitted.length)]

/-- Judge a batch of required actions by the rules of their domain. Input that is not well formed
is refused before any action is judged. -/
def evaluate (domain : Domain) (rules : RuleSet) (candidates : List String) :
    Except (Logged TokenError) (Logged Verdict) :=
  match checkInput rules candidates with
  | .error error => .error { value := error }
  | .ok () =>
    let reviews := candidates.map (review rules)
    let verdict := Verdict.ofReviews reviews
    .ok {
      value := verdict
      events := reviews.flatMap Review.events ++ [summaryEvent domain candidates verdict] }

/-! ### Messages -/

/-- The words for a denied action. -/
def deniedMessage (domain : Domain) (action id : String) : String :=
  domain.label ++ " " ++ action ++ " denied by deny assignment " ++ id ++ "."

/-- The words for an action that no grant covers. -/
def unpermittedMessage (domain : Domain) (action : String) : String :=
  domain.label ++ " " ++ action ++ " unpermitted because no role assignment permits it."

/-- The messages of a verdict: the denied actions first, then those without a grant. -/
def Verdict.failures (domain : Domain) (verdict : Verdict) : List String :=
  verdict.denied.map (fun (action, id) => deniedMessage domain action id) ++
    verdict.unpermitted.map (unpermittedMessage domain)

end AccessAudit
