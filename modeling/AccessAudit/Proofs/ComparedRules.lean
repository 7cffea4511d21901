/-
**Comparing an action with a pattern tells what rules do.**

Whoever looks for the reason of a verdict compares the action with one pattern after the other. That
is sound only if a comparison and a verdict look at texts in the same way, the malformed ones
included. They do: a comparison refuses exactly what a verdict by one grant of the pattern refuses,
for the same reason, and otherwise its answer is the verdict of that grant, and of one denial of the
pattern as well. In a batch that was accepted every comparison has an answer, and the answers alone
settle what the rules grant and deny.

* `answer`: the answer of a comparison, or why there is none;
* `answer_eq_settled`, `answer_eq_ok_iff`: when there is one, and which;
* `Coverage.Answered`: what comparisons with the patterns of a rule say of an action;
* `comparison_tells_what_rules_do`: verdicts in terms of comparisons.
-/
import AccessAudit.Comparison
import AccessAudit.Proofs.ExactVerdict

namespace AccessAudit

/-! ### The answer of a comparison -/

/-- The answer of a comparison without the note on it, or why there is none. -/
def answer (terminal : Terminal) (action pattern : String) : Except TokenError Bool :=
  (comparison terminal action pattern).map Shown.value

section Answer

variable (terminal : Terminal) (action pattern : String)

/-- **There is an answer unless the action or the pattern is malformed.** -/
theorem answer_eq_settled :
    answer terminal action pattern =
      settled (candidateDefects action ++ patternDefects .grantAction pattern)
        (Pattern.covers pattern action) := by
  unfold answer comparison
  rw [checkCandidate_eq_settled, checkPattern_eq_settled]
  simp only [settled_bind_pure, settled_bind, settled_map]

theorem answer_eq_ok_iff (covered : Bool) :
    answer terminal action pattern = .ok covered ↔
      IsConcrete action ∧ IsPattern pattern ∧ Pattern.covers pattern action = covered := by
  rw [answer_eq_settled, settled_eq_ok_iff, List.append_eq_nil_iff, candidateDefects_eq_nil_iff,
    patternDefects_eq_nil_iff, and_assoc]

variable {action pattern}

theorem answer_of_wellFormed (concrete : IsConcrete action) (formed : IsPattern pattern) :
    answer terminal action pattern = .ok (Pattern.covers pattern action) :=
  (answer_eq_ok_iff terminal action pattern _).mpr ⟨concrete, formed, rfl⟩

end Answer

/-! ### What the answers say of rules -/

/-- The answer is yes for one of the patterns and for none of the exceptions. -/
def Coverage.Answered (terminal : Terminal) (coverage : Coverage) (action : String) : Prop :=
  (∃ pattern ∈ coverage.actions, answer terminal action pattern = .ok true) ∧
    ∀ pattern ∈ coverage.exceptions, answer terminal action pattern ≠ .ok true

/-- Comparisons with well-formed patterns say what the rule covers. -/
theorem Coverage.answered_iff_covers (terminal : Terminal) {coverage : Coverage} {action : String}
    (concrete : IsConcrete action) (formed : coverage.IsWellFormed) :
    coverage.Answered terminal action ↔ coverage.Covers action := by
  obtain ⟨patterns, exceptions⟩ := formed
  have yes : ∀ pattern, IsPattern pattern →
      (answer terminal action pattern = .ok true ↔ Pattern.covers pattern action) := by
    intro pattern wellFormed
    rw [answer_of_wellFormed terminal concrete wellFormed]
    exact ⟨Except.ok.inj, congrArg Except.ok⟩
  unfold Coverage.Answered Coverage.Covers
  refine and_congr ?_ ?_
  · refine exists_congr fun pattern => and_congr_right fun listed => ?_
    exact yes pattern (patterns pattern listed)
  · refine forall₂_congr fun pattern listed => not_congr ?_
    exact yes pattern (exceptions pattern listed)

/-- The rules that hold one grant of one pattern. -/
def RuleSet.granting (pattern : String) : RuleSet where
  grants := [{ actions := [pattern] }]

/-- The rules that hold one denial of one pattern. -/
def RuleSet.denying (id pattern : String) : RuleSet where
  denials := [{ id, coverage := { actions := [pattern] } }]

/-- All patterns and exceptions of the rules. -/
def RuleSet.patterns (rules : RuleSet) : List String :=
  (rules.grants ++ rules.denials.map Denial.coverage).flatMap fun coverage =>
    coverage.actions ++ coverage.exceptions

section Batch

variable {domain : Domain} {rules : RuleSet} {candidates : List String} {action : String}

theorem defects_granting (action pattern : String) :
    (RuleSet.granting pattern).defects [action] =
      candidateDefects action ++ patternDefects .grantAction pattern := by
  simp [RuleSet.granting, RuleSet.defects, Coverage.defects]

theorem defects_denying_eq_nil_iff (id action pattern : String) :
    (RuleSet.denying id pattern).defects [action] = [] ↔
      IsConcrete action ∧ IsPattern pattern := by
  rw [defects_eq_nil_iff]
  simp [RuleSet.denying, Coverage.IsWellFormed]

theorem wellFormed_of_accepted (accepted : rules.defects candidates = [])
    (asked : action ∈ candidates) :
    IsConcrete action ∧ (∀ grant ∈ rules.grants, grant.IsWellFormed) ∧
      ∀ denial ∈ rules.denials, denial.coverage.IsWellFormed := by
  obtain ⟨concrete, grants, denials⟩ := (defects_eq_nil_iff rules candidates).mp accepted
  exact ⟨concrete action asked, grants, denials⟩

theorem isPattern_of_accepted (accepted : rules.defects candidates = []) :
    ∀ pattern ∈ rules.patterns, IsPattern pattern := by
  obtain ⟨-, grants, denials⟩ := (defects_eq_nil_iff rules candidates).mp accepted
  have formed : ∀ coverage ∈ rules.grants ++ rules.denials.map Denial.coverage,
      coverage.IsWellFormed :=
    List.forall_mem_append.mpr ⟨grants, List.forall_mem_map.mpr denials⟩
  intro pattern listed
  obtain ⟨coverage, held, inside⟩ := List.mem_flatMap.mp listed
  obtain ⟨patterns, exceptions⟩ := formed coverage held
  rcases List.mem_append.mp inside with own | excepted
  · exact patterns pattern own
  · exact exceptions pattern excepted

/-- **In an accepted batch, an action is granted exactly when the answers say so of some grant.** -/
theorem not_mem_unpermitted_iff_answered (terminal : Terminal)
    (accepted : rules.defects candidates = []) (asked : action ∈ candidates) :
    action ∉ (verdictBy rules candidates).unpermitted ↔
      ∃ grant ∈ rules.grants, grant.Answered terminal action := by
  obtain ⟨concrete, grants, -⟩ := wellFormed_of_accepted accepted asked
  rw [mem_unpermitted_iff, and_iff_right asked, not_not, review_isGranted_iff]
  refine exists_congr fun grant => and_congr_right fun held => ?_
  exact (grant.answered_iff_covers terminal concrete (grants grant held)).symm

/-- **In an accepted batch, an action is denied exactly when the answers say so of some denial.** -/
theorem mem_denied_iff_answered (terminal : Terminal) (accepted : rules.defects candidates = [])
    (asked : action ∈ candidates) :
    action ∈ (verdictBy rules candidates).denied.map Prod.fst ↔
      ∃ denial ∈ rules.denials, denial.coverage.Answered terminal action := by
  obtain ⟨concrete, -, denials⟩ := wellFormed_of_accepted accepted asked
  rw [mem_denied_keys_iff, and_iff_right asked, review_isDenied_iff]
  refine exists_congr fun denial => and_congr_right fun held => ?_
  exact (denial.coverage.answered_iff_covers terminal concrete (denials denial held)).symm

end Batch

/-! ### Verdicts in terms of comparisons -/

/-- **A comparison is refused exactly as a verdict by one grant of the pattern is, and otherwise its
answer is what that grant and a denial of the pattern make of the action. In every accepted batch
all comparisons have an answer, and the answers settle which actions are granted and which are
denied.** -/
theorem comparison_tells_what_rules_do (terminal : Terminal) (domain : Domain) :
    (∀ action pattern error,
      answer terminal action pattern = .error error ↔
        evaluate domain (.granting pattern) [action] = .error { value := error }) ∧
    (∀ action pattern covered, answer terminal action pattern = .ok covered →
      (∃ granted, evaluate domain (.granting pattern) [action] = .ok granted ∧
        (covered = true ↔ action ∉ granted.value.unpermitted)) ∧
      ∀ id, ∃ denied, evaluate domain (.denying id pattern) [action] = .ok denied ∧
        (covered = true ↔ action ∈ denied.value.denied.map Prod.fst)) ∧
    ∀ rules candidates logged, evaluate domain rules candidates = .ok logged →
      ∀ action ∈ candidates,
        (∀ pattern ∈ rules.patterns, ∃ covered, answer terminal action pattern = .ok covered) ∧
        (action ∉ logged.value.unpermitted ↔
          ∃ grant ∈ rules.grants, grant.Answered terminal action) ∧
        (action ∈ logged.value.denied.map Prod.fst ↔
          ∃ denial ∈ rules.denials, denial.coverage.Answered terminal action) := by
  refine ⟨fun action pattern error => ?_, fun action pattern covered answered => ?_, ?_⟩
  · rw [answer_eq_settled, settled_eq_error_iff, evaluate_eq_error_iff, defects_granting,
      and_iff_left rfl]
  · obtain ⟨concrete, formed, told⟩ := (answer_eq_ok_iff ..).mp answered
    have yes : covered = true ↔ answer terminal action pattern = .ok true := by
      rw [answered]
      exact ⟨congrArg Except.ok, Except.ok.inj⟩
    have asked : action ∈ [action] := List.mem_singleton.mpr rfl
    have granting : (RuleSet.granting pattern).defects [action] = [] := by
      rw [defects_granting, List.append_eq_nil_iff, candidateDefects_eq_nil_iff,
        patternDefects_eq_nil_iff]
      exact ⟨concrete, formed⟩
    refine ⟨⟨_, evaluate_of_accepted domain granting, ?_⟩, fun id => ?_⟩
    · rw [yes, not_mem_unpermitted_iff_answered terminal granting asked]
      simp [RuleSet.granting, Coverage.Answered]
    · have denying := (defects_denying_eq_nil_iff id action pattern).mpr ⟨concrete, formed⟩
      refine ⟨_, evaluate_of_accepted domain denying, ?_⟩
      rw [yes, mem_denied_iff_answered terminal denying asked]
      simp [RuleSet.denying, Coverage.Answered]
  · intro rules candidates logged evaluated action asked
    obtain ⟨accepted, rfl⟩ := (evaluate_eq_ok_iff logged).mp evaluated
    obtain ⟨concrete, -, -⟩ := wellFormed_of_accepted accepted asked
    refine ⟨fun pattern listed => ?_, ?_, ?_⟩
    · have formed := isPattern_of_accepted accepted pattern listed
      exact ⟨_, answer_of_wellFormed terminal concrete formed⟩
    · exact not_mem_unpermitted_iff_answered terminal accepted asked
    · exact mem_denied_iff_answered terminal accepted asked

/-! ### Comparisons on the vault -/

/-- On the vault the comparisons find the denial of one action and no grant of another. A comparison
with two things wrong tells what the verdict tells. -/
theorem vault_comparisons_tell_verdict :
    let rules := vaultSnapshot.rulesIn .control
    answer {} "" "**" = .error (.empty .candidateAction) ∧
    evaluate .control (.granting "**") [""] = .error { value := .empty .candidateAction } ∧
    answer {} "Vault/read" "Vault/*" = .ok true ∧
    (∃ granted, evaluate .control (.granting "Vault/*") ["Vault/read"] = .ok granted ∧
      "Vault/read" ∉ granted.value.unpermitted) ∧
    (∃ denial ∈ rules.denials, denial.coverage.Answered {} "Vault/purge") ∧
    ¬ ∃ grant ∈ rules.grants, grant.Answered {} "Vault/write" := by
  intro rules
  obtain ⟨refused, answered, batch⟩ := comparison_tells_what_rules_do {} .control
  have empty : answer {} "" "**" = .error (.empty .candidateAction) := rfl
  have covered : answer {} "Vault/read" "Vault/*" = .ok true := rfl
  have accepted : rules.defects vaultRequirement.actions = [] := rfl
  have verdict : verdictBy rules vaultRequirement.actions = vaultOutcome.control := by
    decide +kernel
  have evaluated := evaluate_of_accepted .control accepted
  obtain ⟨⟨granted, permitted, told⟩, -⟩ := answered _ _ _ covered
  refine ⟨empty, (refused _ _ _).mp empty, covered, ⟨granted, permitted, told.mp rfl⟩, ?_, ?_⟩
  · obtain ⟨-, -, denied⟩ := batch _ _ _ evaluated "Vault/purge" (by decide)
    rw [← denied, verdict]
    decide
  · obtain ⟨-, granted, -⟩ := batch _ _ _ evaluated "Vault/write" (by decide)
    rw [← granted, not_not, verdict]
    decide

end AccessAudit
