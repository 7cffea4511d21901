/-
**Well-formed actions and patterns, and what is wrong with the others.**

A required action is concrete when it is not empty and holds no wildcard; a pattern is well formed
when it is not empty and holds at most one. The malformed texts of a batch are listed here in the
order in which they would be met: the required actions, then the grants and then the denials, each
of them with its patterns before its exceptions. The input is accepted exactly when the list is
empty, and otherwise its first entry is told.

* `IsConcrete`, `IsPattern`, `Coverage.IsWellFormed`: what is well formed;
* `RuleSet.defects`: everything malformed, in order;
* `defects_eq_nil_iff`: when nothing is;
* `TokenError.IsOfCandidate`: errors about required actions;
* `checkInput_eq_settled`, `evaluate_eq_settled`: the verdict, or the first malformed text;
* `evaluate_eq_ok_iff`, `evaluate_eq_error_iff`: when there is a verdict, and what is told if not.
-/
import AccessAudit.Proofs.FirstDefect
import AccessAudit.Verdict

namespace AccessAudit

/-! ### What is well formed -/

/-- The text names one action: it is not empty and holds no wildcard. -/
def IsConcrete (action : String) : Prop :=
  action ≠ "" ∧ '*' ∉ action.toList

/-- The text is a pattern: it is not empty and holds at most one wildcard. -/
def IsPattern (pattern : String) : Prop :=
  pattern ≠ "" ∧ pattern.toList.count '*' ≤ 1

/-- Patterns and exceptions are patterns. -/
def Coverage.IsWellFormed (coverage : Coverage) : Prop :=
  (∀ pattern ∈ coverage.actions, IsPattern pattern) ∧
    ∀ pattern ∈ coverage.exceptions, IsPattern pattern

instance (action : String) : Decidable (IsConcrete action) :=
  inferInstanceAs (Decidable (_ ∧ _))

instance (pattern : String) : Decidable (IsPattern pattern) :=
  inferInstanceAs (Decidable (_ ∧ _))

/-! ### Everything malformed, in order -/

/-- What is wrong with a required action. -/
def candidateDefects (action : String) : List TokenError :=
  if action = "" then [.empty .candidateAction]
  else if '*' ∈ action.toList then [.wildcardInCandidate action]
  else []

/-- What is wrong with a pattern. -/
def patternDefects (origin : Origin) (pattern : String) : List TokenError :=
  if pattern = "" then [.empty origin]
  else if 1 < pattern.toList.count '*' then [.tooManyWildcards origin pattern]
  else []

/-- What is wrong with a rule, its patterns before its exceptions. -/
def Coverage.defects (ofPatterns ofExceptions : Origin) (coverage : Coverage) :
    List TokenError :=
  coverage.actions.flatMap (patternDefects ofPatterns) ++
    coverage.exceptions.flatMap (patternDefects ofExceptions)

/-- What is wrong with a batch: the required actions, then the grants, then the denials. -/
def RuleSet.defects (rules : RuleSet) (candidates : List String) : List TokenError :=
  candidates.flatMap candidateDefects ++
    rules.grants.flatMap (Coverage.defects .grantAction .grantException) ++
    rules.denials.flatMap fun denial =>
      denial.coverage.defects .denialAction .denialException

theorem candidateDefects_eq_nil_iff (action : String) :
    candidateDefects action = [] ↔ IsConcrete action := by
  unfold candidateDefects IsConcrete
  by_cases empty : action = ""
  · simp [empty]
  · by_cases starred : '*' ∈ action.toList
    · simp [empty, starred]
    · simp [empty, starred]

theorem patternDefects_eq_nil_iff (origin : Origin) (pattern : String) :
    patternDefects origin pattern = [] ↔ IsPattern pattern := by
  unfold patternDefects IsPattern
  by_cases empty : pattern = ""
  · simp [empty]
  · by_cases many : 1 < pattern.toList.count '*'
    · simp [empty, many]
    · simp [empty, many, Nat.not_lt.mp many]

theorem Coverage.defects_eq_nil_iff (ofPatterns ofExceptions : Origin) (coverage : Coverage) :
    coverage.defects ofPatterns ofExceptions = [] ↔ coverage.IsWellFormed := by
  unfold Coverage.defects Coverage.IsWellFormed
  simp only [List.append_eq_nil_iff, List.flatMap_eq_nil_iff, patternDefects_eq_nil_iff]

/-- **Nothing is malformed exactly when the required actions are concrete and the rules well
formed.** -/
theorem defects_eq_nil_iff (rules : RuleSet) (candidates : List String) :
    rules.defects candidates = [] ↔
      (∀ action ∈ candidates, IsConcrete action) ∧
        (∀ grant ∈ rules.grants, grant.IsWellFormed) ∧
          ∀ denial ∈ rules.denials, denial.coverage.IsWellFormed := by
  unfold RuleSet.defects
  simp only [List.append_eq_nil_iff, List.flatMap_eq_nil_iff, candidateDefects_eq_nil_iff,
    Coverage.defects_eq_nil_iff, and_assoc]

/-! ### What an error is about -/

/-- The error is about a required action and not about a pattern. -/
def TokenError.IsOfCandidate : TokenError → Prop
  | .empty origin => origin = .candidateAction
  | .wildcardInCandidate _ => True
  | .tooManyWildcards .. => False

theorem isOfCandidate_of_mem_candidateDefects {action : String} {error : TokenError}
    (wrong : error ∈ candidateDefects action) : error.IsOfCandidate := by
  unfold candidateDefects at wrong
  split at wrong
  · rw [List.mem_singleton.mp wrong]
    rfl
  · split at wrong
    · rw [List.mem_singleton.mp wrong]
      trivial
    · exact absurd wrong List.not_mem_nil

theorem not_isOfCandidate_of_mem_patternDefects {origin : Origin} {pattern : String}
    {error : TokenError} (elsewhere : origin ≠ .candidateAction)
    (wrong : error ∈ patternDefects origin pattern) : ¬ error.IsOfCandidate := by
  unfold patternDefects at wrong
  split at wrong
  · rw [List.mem_singleton.mp wrong]
    exact elsewhere
  · split at wrong
    · rw [List.mem_singleton.mp wrong]
      exact id
    · exact absurd wrong List.not_mem_nil

/-! ### The verdict, or the first malformed text -/

theorem checkCandidate_eq_settled (action : String) :
    checkCandidate action = settled (candidateDefects action) () := by
  unfold checkCandidate candidateDefects Pattern.hasWildcard Pattern.wildcard
  by_cases empty : action = ""
  · simp [empty, settled]
  · by_cases starred : '*' ∈ action.toList
    · simp [empty, starred, settled]
    · simp [empty, starred, settled]

theorem checkPattern_eq_settled (origin : Origin) (pattern : String) :
    checkPattern origin pattern = settled (patternDefects origin pattern) () := by
  unfold checkPattern patternDefects Pattern.wildcardCount Pattern.wildcard
  by_cases empty : pattern = ""
  · simp [empty, settled]
  · by_cases many : 1 < pattern.toList.count '*'
    · simp [empty, many, settled]
    · simp [empty, many, settled]

theorem checkPatterns_eq_settled (origin : Origin) (patterns : List String) :
    checkPatterns origin patterns = settled (patterns.flatMap (patternDefects origin)) () := by
  rw [← forM_settled]
  exact congrArg patterns.forM (funext (checkPattern_eq_settled origin))

theorem checkGrant_eq_settled (grant : Coverage) :
    checkGrant grant = settled (grant.defects .grantAction .grantException) () := by
  unfold checkGrant
  rw [checkPatterns_eq_settled, checkPatterns_eq_settled, settled_bind]
  rfl

theorem checkDenial_eq_settled (denial : Denial) :
    checkDenial denial =
      settled (denial.coverage.defects .denialAction .denialException) () := by
  unfold checkDenial
  rw [checkPatterns_eq_settled, checkPatterns_eq_settled, settled_bind]
  rfl

/-- **The input is accepted, or the first malformed text is told.** -/
theorem checkInput_eq_settled (rules : RuleSet) (candidates : List String) :
    checkInput rules candidates = settled (rules.defects candidates) () := by
  have actions := congrArg candidates.forM (funext checkCandidate_eq_settled)
  have grants := congrArg rules.grants.forM (funext checkGrant_eq_settled)
  have denials := congrArg rules.denials.forM (funext checkDenial_eq_settled)
  unfold checkInput
  rw [actions, grants, denials, forM_settled, forM_settled, forM_settled]
  simp only [settled_bind]
  rw [← List.append_assoc]
  rfl

/-- The verdict on a batch by rules that are taken as they are. -/
def verdictBy (rules : RuleSet) (candidates : List String) : Verdict :=
  Verdict.ofReviews (candidates.map (review rules))

/-- The events of the verdict on a batch. -/
def verdictEvents (domain : Domain) (rules : RuleSet) (candidates : List String) :
    List LogEvent :=
  (candidates.map (review rules)).flatMap Review.events ++
    [summaryEvent domain candidates (verdictBy rules candidates)]

/-- **A batch gets its verdict, or the first malformed text is told.** Up to there no event is. -/
theorem evaluate_eq_settled (domain : Domain) (rules : RuleSet) (candidates : List String) :
    evaluate domain rules candidates =
      settled ((rules.defects candidates).map fun error => { value := error })
        { value := verdictBy rules candidates
          events := verdictEvents domain rules candidates } := by
  unfold evaluate
  rw [checkInput_eq_settled]
  cases rules.defects candidates with
  | nil => rfl
  | cons first rest => rfl

theorem evaluate_eq_ok_iff {domain : Domain} {rules : RuleSet} {candidates : List String}
    (logged : Logged Verdict) :
    evaluate domain rules candidates = .ok logged ↔
      rules.defects candidates = [] ∧
        { value := verdictBy rules candidates
          events := verdictEvents domain rules candidates } = logged := by
  rw [evaluate_eq_settled, settled_eq_ok_iff, List.map_eq_nil_iff]

/-- What is wrong is told without an event: the first of it is, and nothing before. -/
theorem settled_silent_eq_error_iff {ε α : Type} (defects : List ε) (value : α)
    (refused : Logged ε) :
    settled (defects.map fun error => ({ value := error } : Logged ε)) value = .error refused ↔
      defects.head? = some refused.value ∧ refused.events = [] := by
  obtain ⟨error, events⟩ := refused
  rw [settled_eq_error_iff, List.head?_map, Option.map_eq_some_iff]
  constructor
  · rintro ⟨first, told, ⟨⟩⟩
    exact ⟨told, rfl⟩
  · rintro ⟨told, rfl⟩
    exact ⟨error, told, rfl⟩

/-- A batch is refused for its first malformed text, and before that nothing is told. -/
theorem evaluate_eq_error_iff {domain : Domain} {rules : RuleSet} {candidates : List String}
    (refused : Logged TokenError) :
    evaluate domain rules candidates = .error refused ↔
      (rules.defects candidates).head? = some refused.value ∧ refused.events = [] := by
  rw [evaluate_eq_settled, settled_silent_eq_error_iff]

theorem evaluate_of_accepted {rules : RuleSet} {candidates : List String} (domain : Domain)
    (accepted : rules.defects candidates = []) :
    evaluate domain rules candidates =
      .ok { value := verdictBy rules candidates
            events := verdictEvents domain rules candidates } :=
  (evaluate_eq_ok_iff _).mpr ⟨accepted, rfl⟩

end AccessAudit
