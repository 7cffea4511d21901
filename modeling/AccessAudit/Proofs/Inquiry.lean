/-
**The questions on the way to a verdict.**

A verdict is found by asking, over and over, whether a pattern names an action. Which question comes
next depends on the answers so far: the exceptions of a rule are asked up to the first that names
the action, its patterns only if no exception did, and the grants up to the first that covers the
action. Here a verdict is written as an inquiry, which puts its questions to whoever answers them.
Answered as patterns are read it is the verdict itself. And whatever the answers are, no question is
put with an action that is not concrete or a pattern that is malformed, since all texts are looked
at before the first question.

* `Inquiry`, `Inquiry.run`, `Inquiry.questions`: an inquiry, what comes of it, and what it asks;
* `Inquiry.OnlyAsks`: what holds of its questions whatever the answers are;
* `Inquiry.evaluate`: the verdict on a batch as an inquiry;
* `Inquiry.run_evaluate`: it is the verdict on the batch;
* `Inquiry.onlyAsks_evaluate`: all its questions are well formed.
-/
import AccessAudit.Proofs.Tokens

namespace AccessAudit

/-- Whether a pattern names an action. -/
structure Question where
  pattern : String
  action : String
  deriving DecidableEq, Repr

/-- The action is concrete and the pattern well formed. -/
def Question.IsWellFormed (question : Question) : Prop :=
  IsConcrete question.action ∧ IsPattern question.pattern

/-- Something that is found by asking questions, each after the answers to those before. -/
inductive Inquiry (α : Type) where
  | done (value : α)
  | ask (question : Question) (next : Bool → Inquiry α)

namespace Inquiry

variable {α β : Type}

/-- One inquiry after another. -/
def bind (first : Inquiry α) (next : α → Inquiry β) : Inquiry β :=
  match first with
  | done value => next value
  | ask question later => ask question fun answer => (later answer).bind next

instance : Monad Inquiry where
  pure := done
  bind := bind

/-- What comes of an inquiry when its questions are answered in a certain way. -/
def run (answer : String → String → Bool) : Inquiry α → α
  | done value => value
  | ask question next => (next (answer question.pattern question.action)).run answer

/-- The questions that are put when they are answered in a certain way, in order. -/
def questions (answer : String → String → Bool) : Inquiry α → List Question
  | done _ => []
  | ask question next =>
    question :: (next (answer question.pattern question.action)).questions answer

/-- Whatever the answers are, something holds of every question. -/
inductive OnlyAsks (holds : Question → Prop) : Inquiry α → Prop
  | done (value : α) : OnlyAsks holds (.done value)
  | ask {question : Question} {next : Bool → Inquiry α} (here : holds question)
      (later : ∀ answer, OnlyAsks holds (next answer)) : OnlyAsks holds (.ask question next)

section Laws

variable {answer : String → String → Bool} {holds : Question → Prop}

@[simp]
theorem run_pure (value : α) : (pure value : Inquiry α).run answer = value := rfl

@[simp]
theorem run_bind (first : Inquiry α) (next : α → Inquiry β) :
    (first >>= next).run answer = (next (first.run answer)).run answer := by
  induction first with
  | done value => rfl
  | ask question later ih => exact ih _

theorem OnlyAsks.pure (value : α) : OnlyAsks holds (Pure.pure value : Inquiry α) := .done value

theorem OnlyAsks.bind {first : Inquiry α} {next : α → Inquiry β} (asks : first.OnlyAsks holds)
    (rest : ∀ value, (next value).OnlyAsks holds) : (first >>= next).OnlyAsks holds := by
  induction asks with
  | done value => exact rest value
  | ask here later ih => exact .ask here ih

theorem OnlyAsks.of_mem {inquiry : Inquiry α} (asks : inquiry.OnlyAsks holds) :
    ∀ question ∈ inquiry.questions answer, holds question := by
  induction asks with
  | done value => exact fun _ member => by cases member
  | ask here later ih =>
    intro question member
    rcases List.mem_cons.mp member with rfl | member
    · exact here
    · exact ih _ question member

end Laws

/-! ### Inquiries about the items of a list -/

/-- An inquiry about each item, one after the other. -/
def each (about : α → Inquiry β) : List α → Inquiry (List β)
  | [] => return []
  | item :: rest => do
    let first ← about item
    let others ← each about rest
    return first :: others

/-- Inquiries about the items up to the first that finds something. -/
def firstFound (about : α → Inquiry (Option β)) : List α → Inquiry (Option β)
  | [] => return none
  | item :: rest => do
    match ← about item with
    | some found => return some found
    | none => firstFound about rest

section Lists

variable {answer : String → String → Bool} {holds : Question → Prop}

@[simp]
theorem run_each (about : α → Inquiry β) (items : List α) :
    (each about items).run answer = items.map fun item => (about item).run answer := by
  induction items with
  | nil => rfl
  | cons item rest ih => simp only [each, run_bind, run_pure, ih, List.map_cons]

@[simp]
theorem run_firstFound (about : α → Inquiry (Option β)) (items : List α) :
    (firstFound about items).run answer =
      items.findSome? fun item => (about item).run answer := by
  induction items with
  | nil => rfl
  | cons item rest ih =>
    rw [firstFound, run_bind, List.findSome?_cons]
    cases (about item).run answer with
    | none => exact ih
    | some found => rfl

theorem onlyAsks_each {about : α → Inquiry β} {items : List α}
    (asks : ∀ item ∈ items, (about item).OnlyAsks holds) : (each about items).OnlyAsks holds := by
  induction items with
  | nil => exact .pure _
  | cons item rest ih =>
    obtain ⟨here, later⟩ := List.forall_mem_cons.mp asks
    exact here.bind fun first => (ih later).bind fun others => .pure _

theorem onlyAsks_firstFound {about : α → Inquiry (Option β)} {items : List α}
    (asks : ∀ item ∈ items, (about item).OnlyAsks holds) :
    (firstFound about items).OnlyAsks holds := by
  induction items with
  | nil => exact .pure _
  | cons item rest ih =>
    obtain ⟨here, later⟩ := List.forall_mem_cons.mp asks
    refine here.bind fun found => ?_
    cases found with
    | none => exact ih later
    | some found => exact .pure _

end Lists

/-! ### The verdict as an inquiry -/

/-- Ask whether the pattern names the action, and keep the pattern if it does. -/
def matching (action pattern : String) : Inquiry (Option String) :=
  .ask { pattern, action } fun named => .done (if named then some pattern else none)

/-- Look for the first pattern that names the action. -/
def firstCovering (patterns : List String) (action : String) : Inquiry (Option String) :=
  firstFound (matching action) patterns

/-- Look for the pattern by which a rule covers the action, the exceptions first. -/
def via (coverage : Coverage) (action : String) : Inquiry (Option String) := do
  let excepted ← firstCovering coverage.exceptions action
  if excepted.isSome then return none else firstCovering coverage.actions action

/-- Judge one action: all denials, and the grants up to the first that covers it. -/
def review (rules : RuleSet) (action : String) : Inquiry Review := do
  let strikes ← each (fun denial : Denial => do
    let pattern ← via denial.coverage action
    return pattern.map fun pattern => (denial, pattern)) rules.denials
  let grantedVia? ← firstFound (via · action) rules.grants
  return { action, strikes := strikes.filterMap id, grantedVia? }

/-- Judge a batch, unless something in it is malformed. -/
def evaluate (domain : Domain) (rules : RuleSet) (candidates : List String) :
    Inquiry (Except (Logged TokenError) (Logged Verdict)) :=
  match checkInput rules candidates with
  | .error error => return .error { value := error }
  | .ok () => do
    let reviews ← each (review rules) candidates
    let verdict := Verdict.ofReviews reviews
    return .ok {
      value := verdict
      events := reviews.flatMap Review.events ++ [summaryEvent domain candidates verdict] }

/-! ### It is the verdict -/

theorem run_firstCovering (patterns : List String) (action : String) :
    (firstCovering patterns action).run Pattern.covers =
      Pattern.firstCovering? patterns action := by
  unfold firstCovering Pattern.firstCovering?
  rw [run_firstFound, List.find?_eq_findSome?_guard]
  rfl

theorem run_via (coverage : Coverage) (action : String) :
    (via coverage action).run Pattern.covers = coverage.via? action := by
  have excepted : Pattern.coversAny coverage.exceptions action =
      (Pattern.firstCovering? coverage.exceptions action).isSome := by
    unfold Pattern.coversAny Pattern.firstCovering?
    rw [Bool.eq_iff_iff, List.any_eq_true, List.find?_isSome]
  unfold via Coverage.via?
  rw [run_bind, run_firstCovering, excepted]
  split
  · rfl
  · exact run_firstCovering _ _

theorem run_review (rules : RuleSet) (action : String) :
    (review rules action).run Pattern.covers = AccessAudit.review rules action := by
  unfold review AccessAudit.review
  simp only [run_bind, run_pure, run_each, run_firstFound, run_via, List.filterMap_map]
  rfl

/-- **Answered as patterns are read, the inquiry gives the verdict on the batch.** -/
theorem run_evaluate (domain : Domain) (rules : RuleSet) (candidates : List String) :
    (evaluate domain rules candidates).run Pattern.covers =
      AccessAudit.evaluate domain rules candidates := by
  unfold evaluate AccessAudit.evaluate
  cases checkInput rules candidates with
  | error error => rfl
  | ok _ => simp only [run_bind, run_pure, run_each, run_review]

/-! ### All questions are well formed -/

theorem onlyAsks_firstCovering {patterns : List String} {action : String}
    (concrete : IsConcrete action) (formed : ∀ pattern ∈ patterns, IsPattern pattern) :
    (firstCovering patterns action).OnlyAsks Question.IsWellFormed :=
  onlyAsks_firstFound fun pattern listed =>
    .ask ⟨concrete, formed pattern listed⟩ fun _ => .done _

theorem onlyAsks_via {coverage : Coverage} {action : String} (concrete : IsConcrete action)
    (formed : coverage.IsWellFormed) : (via coverage action).OnlyAsks Question.IsWellFormed := by
  refine (onlyAsks_firstCovering concrete formed.2).bind fun excepted => ?_
  split
  · exact .pure _
  · exact onlyAsks_firstCovering concrete formed.1

theorem onlyAsks_review {rules : RuleSet} {action : String} (concrete : IsConcrete action)
    (grants : ∀ grant ∈ rules.grants, grant.IsWellFormed)
    (denials : ∀ denial ∈ rules.denials, denial.coverage.IsWellFormed) :
    (review rules action).OnlyAsks Question.IsWellFormed := by
  have denying := onlyAsks_each fun denial held =>
    (onlyAsks_via concrete (denials denial held)).bind fun pattern =>
      OnlyAsks.pure (pattern.map fun pattern => (denial, pattern))
  have granting := onlyAsks_firstFound fun grant held => onlyAsks_via concrete (grants grant held)
  exact denying.bind fun strikes => granting.bind fun grantedVia? => .pure _

/-- **Whatever the answers are, every question is put with a concrete action and a well-formed
pattern.** -/
theorem onlyAsks_evaluate (domain : Domain) (rules : RuleSet) (candidates : List String) :
    (evaluate domain rules candidates).OnlyAsks Question.IsWellFormed := by
  unfold evaluate
  cases accepted : checkInput rules candidates with
  | error error => exact .pure _
  | ok _ =>
    rw [checkInput_eq_settled, settled_eq_ok_iff, defects_eq_nil_iff] at accepted
    obtain ⟨⟨concrete, grants, denials⟩, -⟩ := accepted
    refine (onlyAsks_each fun action asked => ?_).bind fun reviews => .pure _
    exact onlyAsks_review (concrete action asked) grants denials

end Inquiry

end AccessAudit
