/-
**Batches laid end to end.**

What is required may be judged in one batch or in several, by the same rules. It makes no
difference: the whole batch is accepted exactly when each part is, and then it is denied what one of
the parts is denied and left without a grant what one of the parts is. An action that stands in
both parts has the same judgement in both, since a judgement depends on the rules and the action
alone, so the two verdicts never contradict each other.

Where a part is refused the whole is refused as well. All required actions are looked at before any
rule is, so a malformed action of the first part comes first, and whatever else is wrong with the
first part comes behind the actions of the second one.

* `Verdict.union`, `Verdict.Agrees`: two verdicts put together, and that they do not contradict;
* `mem_denied_union_iff`, `mem_unpermitted_union_iff`: what the union holds;
* `verdictBy_append`: the verdict on a whole batch is the union of those on its parts;
* `head?_defects_append_iff`: what is told where a part is refused;
* `batches_may_be_laid_end_to_end`: all of it for the evaluation of a batch.
-/
import AccessAudit.Proofs.ExactVerdict

namespace AccessAudit

/-! ### Two verdicts put together -/

namespace Verdict

/-- All that one of two verdicts holds. -/
def union (first second : Verdict) : Verdict :=
  ofEntries (first.denied ++ second.denied) (first.unpermitted ++ second.unpermitted)

/-- Where each of two verdicts denies an action, they do so by the same denial. -/
def Agrees (first second : Verdict) : Prop :=
  ∀ action id id', (action, id) ∈ first.denied → (action, id') ∈ second.denied → id = id'

end Verdict

section Union

variable {first second : Verdict}

/-- **Of verdicts that agree, the union denies what one of them denies.** -/
theorem mem_denied_union_iff (agree : first.Agrees second) (action id : String) :
    (action, id) ∈ (first.union second).denied ↔
      (action, id) ∈ first.denied ∨ (action, id) ∈ second.denied := by
  have alone : ∀ verdict : Verdict, verdict.Agrees verdict := by
    intro verdict key value value' inside inside'
    rw [Verdict.mem_denied_iff_deniedBy?] at inside inside'
    exact Option.some.inj (inside.symm.trans inside')
  show (action, id) ∈ Text.sortedEntries (first.denied ++ second.denied) ↔ _
  rw [Text.mem_sortedEntries_of_functional, List.mem_append]
  intro key value value' inside inside'
  rcases List.mem_append.mp inside with left | right
  · rcases List.mem_append.mp inside' with left' | right'
    · exact alone first key value value' left left'
    · exact agree key value value' left right'
  · rcases List.mem_append.mp inside' with left' | right'
    · exact (agree key value' value left' right).symm
    · exact alone second key value value' right right'

/-- **The union leaves without a grant what one of the verdicts leaves without a grant.** -/
theorem mem_unpermitted_union_iff (action : String) :
    action ∈ (first.union second).unpermitted ↔
      action ∈ first.unpermitted ∨ action ∈ second.unpermitted := by
  show action ∈ Text.sortedTexts (first.unpermitted ++ second.unpermitted) ↔ _
  rw [Text.mem_sortedTexts, List.mem_append]

end Union

/-! ### The verdict on a whole batch -/

section Batches

variable (rules : RuleSet) (candidates candidates' : List String)

/-- Verdicts by the same rules never contradict each other. -/
theorem agrees_verdictBy :
    (verdictBy rules candidates).Agrees (verdictBy rules candidates') := by
  intro action id id' denied denied'
  obtain ⟨-, told⟩ := (mem_denied_iff rules candidates action id).mp denied
  obtain ⟨-, told'⟩ := (mem_denied_iff rules candidates' action id').mp denied'
  exact Option.some.inj (told.symm.trans told')

/-- **The verdict on a whole batch is the union of the verdicts on its parts.** -/
theorem verdictBy_append :
    verdictBy rules (candidates ++ candidates') =
      (verdictBy rules candidates).union (verdictBy rules candidates') := by
  refine Verdict.eq_of_standing (fun action => ?_) fun action => ?_
  · ext id
    rw [← Verdict.mem_denied_iff_deniedBy?, ← Verdict.mem_denied_iff_deniedBy?,
      mem_denied_union_iff (agrees_verdictBy rules candidates candidates'), mem_denied_iff,
      mem_denied_iff, mem_denied_iff, List.mem_append, or_and_right]
  · rw [mem_unpermitted_union_iff, mem_unpermitted_iff, mem_unpermitted_iff, mem_unpermitted_iff,
      List.mem_append, or_and_right]

/-! ### What is wrong with a whole batch -/

/-- What is wrong with the rules comes behind what is wrong with the required actions. -/
theorem defects_eq_append :
    rules.defects candidates = candidates.flatMap candidateDefects ++ rules.defects [] := by
  unfold RuleSet.defects
  rw [List.flatMap_nil, List.nil_append, List.append_assoc]

theorem not_isOfCandidate_of_mem_coverage {ofPatterns ofExceptions : Origin}
    (patterns : ofPatterns ≠ .candidateAction) (exceptions : ofExceptions ≠ .candidateAction)
    {coverage : Coverage} {error : TokenError}
    (wrong : error ∈ coverage.defects ofPatterns ofExceptions) : ¬ error.IsOfCandidate := by
  rcases List.mem_append.mp wrong with own | excepted
  · obtain ⟨pattern, -, told⟩ := List.mem_flatMap.mp own
    exact not_isOfCandidate_of_mem_patternDefects patterns told
  · obtain ⟨pattern, -, told⟩ := List.mem_flatMap.mp excepted
    exact not_isOfCandidate_of_mem_patternDefects exceptions told

/-- What is wrong with the rules is not about a required action. -/
theorem not_isOfCandidate_of_mem_defects_nil {error : TokenError}
    (wrong : error ∈ rules.defects []) : ¬ error.IsOfCandidate := by
  rcases List.mem_append.mp wrong with granting | denying
  · obtain ⟨grant, -, told⟩ := List.mem_flatMap.mp granting
    exact not_isOfCandidate_of_mem_coverage (by decide) (by decide) told
  · obtain ⟨denial, -, told⟩ := List.mem_flatMap.mp denying
    exact not_isOfCandidate_of_mem_coverage (by decide) (by decide) told

/-- **Nothing is wrong with a whole batch exactly when nothing is wrong with its parts.** -/
theorem defects_append_eq_nil_iff :
    rules.defects (candidates ++ candidates') = [] ↔
      rules.defects candidates = [] ∧ rules.defects candidates' = [] := by
  rw [defects_eq_append, defects_eq_append rules candidates, defects_eq_append rules candidates',
    List.flatMap_append]
  simp only [List.append_eq_nil_iff]
  tauto

/-- **What is told of a whole batch is what is told of its first part, if that is about a required
action, and otherwise what is told of its second part.** -/
theorem head?_defects_append_iff (error : TokenError) :
    (rules.defects (candidates ++ candidates')).head? = some error ↔
      ((rules.defects candidates).head? = some error ∧ error.IsOfCandidate) ∨
        ((∀ other, (rules.defects candidates).head? = some other → ¬ other.IsOfCandidate) ∧
          (rules.defects candidates').head? = some error) := by
  rw [defects_eq_append, defects_eq_append rules candidates, defects_eq_append rules candidates',
    List.flatMap_append, List.append_assoc]
  cases malformed : candidates.flatMap candidateDefects with
  | nil =>
    -- only the rules can be at fault in the first part, and then they are in the second one too
    have ofRules : ∀ other, (rules.defects []).head? = some other → ¬ other.IsOfCandidate :=
      fun other first => not_isOfCandidate_of_mem_defects_nil rules (List.mem_of_head? first)
    rw [List.nil_append, List.nil_append]
    constructor
    · exact fun told => .inr ⟨ofRules, told⟩
    · rintro (⟨told, concerned⟩ | ⟨-, told⟩)
      · exact absurd concerned (ofRules error told)
      · exact told
  | cons first rest =>
    obtain ⟨action, -, wrong⟩ := List.mem_flatMap.mp (malformed ▸ List.mem_cons_self)
    have concerned := isOfCandidate_of_mem_candidateDefects wrong
    rw [List.cons_append, List.cons_append, List.head?_cons, List.head?_cons]
    constructor
    · rintro ⟨⟩
      exact .inl ⟨rfl, concerned⟩
    · rintro (⟨told, -⟩ | ⟨spared, -⟩)
      · exact told
      · exact absurd concerned (spared first rfl)

end Batches

/-! ### The evaluation of a whole batch -/

/-- **A batch is accepted exactly when both of its parts are, and then its verdict is the union of
those on the parts, which do not contradict each other. If it is refused, it is for the reason that
the first part is refused for, in case that is about a required action, and otherwise for that of
the second part.** -/
theorem batches_may_be_laid_end_to_end (domain : Domain) (rules : RuleSet)
    (candidates candidates' : List String) :
    ((∃ whole, evaluate domain rules (candidates ++ candidates') = .ok whole) ↔
      (∃ first, evaluate domain rules candidates = .ok first) ∧
        ∃ second, evaluate domain rules candidates' = .ok second) ∧
    (∀ whole first second, evaluate domain rules (candidates ++ candidates') = .ok whole →
      evaluate domain rules candidates = .ok first →
      evaluate domain rules candidates' = .ok second →
        whole.value = first.value.union second.value ∧
        (∀ action id, (action, id) ∈ whole.value.denied ↔
          (action, id) ∈ first.value.denied ∨ (action, id) ∈ second.value.denied) ∧
        (∀ action id id', (action, id) ∈ first.value.denied →
          (action, id') ∈ second.value.denied → id = id') ∧
        ∀ action, action ∈ whole.value.unpermitted ↔
          action ∈ first.value.unpermitted ∨ action ∈ second.value.unpermitted) ∧
    ∀ refused, evaluate domain rules (candidates ++ candidates') = .error refused ↔
      (evaluate domain rules candidates = .error refused ∧ refused.value.IsOfCandidate) ∨
        ((∀ other, evaluate domain rules candidates = .error other →
            ¬ other.value.IsOfCandidate) ∧
          evaluate domain rules candidates' = .error refused) := by
  refine ⟨?_, fun whole first second judged judged' judged'' => ?_, fun refused => ?_⟩
  · simp only [evaluate_eq_ok_iff, exists_and_left, exists_eq', and_true]
    exact defects_append_eq_nil_iff rules candidates candidates'
  · obtain ⟨-, rfl⟩ := (evaluate_eq_ok_iff whole).mp judged
    obtain ⟨-, rfl⟩ := (evaluate_eq_ok_iff first).mp judged'
    obtain ⟨-, rfl⟩ := (evaluate_eq_ok_iff second).mp judged''
    have agree := agrees_verdictBy rules candidates candidates'
    refine ⟨verdictBy_append rules candidates candidates', fun action id => ?_, agree,
      fun action => ?_⟩
    · simp only [verdictBy_append]
      exact mem_denied_union_iff agree action id
    · simp only [verdictBy_append]
      exact mem_unpermitted_union_iff action
  · have told := head?_defects_append_iff rules candidates candidates' refused.value
    have ofOthers : (∀ other, evaluate domain rules candidates = .error other →
          ¬ other.value.IsOfCandidate) ↔
        ∀ error, (rules.defects candidates).head? = some error → ¬ error.IsOfCandidate := by
      simp only [evaluate_eq_error_iff]
      exact ⟨fun each error first => each { value := error } ⟨first, rfl⟩,
        fun each other first => each other.value first.1⟩
    rw [ofOthers, evaluate_eq_error_iff, evaluate_eq_error_iff, evaluate_eq_error_iff, told]
    tauto

/-! ### The vault in two batches -/

/-- One action stands in both parts. With a malformed exception in the rules, the first part alone
is refused for it, and the whole for the empty action of the second part. -/
theorem vault_verdict_of_two_batches :
    let rules := vaultSnapshot.rulesIn .control
    let bent : RuleSet := { rules with grants := [{ exceptions := ["**"] }] }
    (∃ whole first second,
      evaluate .control rules vaultRequirement.actions = .ok whole ∧
      evaluate .control rules ["Vault/read", "Vault/purge"] = .ok first ∧
      evaluate .control rules ["Vault/delete", "Vault/read", "Vault/write"] = .ok second ∧
      whole.value = first.value.union second.value ∧
      ("Vault/purge", "late") ∈ whole.value.denied ∧ "Vault/write" ∈ whole.value.unpermitted) ∧
    evaluate .control bent ["Vault/read"] =
      .error { value := .tooManyWildcards .grantException "**" } ∧
    evaluate .control bent ["Vault/read", "", "*"] =
      .error { value := .empty .candidateAction } := by
  intro rules bent
  obtain ⟨accepted, joined, -⟩ := batches_may_be_laid_end_to_end .control rules
    ["Vault/read", "Vault/purge"] ["Vault/delete", "Vault/read", "Vault/write"]
  obtain ⟨-, -, refused⟩ :=
    batches_may_be_laid_end_to_end .control bent ["Vault/read"] ["", "*"]
  have first := evaluate_of_accepted .control
    (show rules.defects ["Vault/read", "Vault/purge"] = [] from rfl)
  have second := evaluate_of_accepted .control
    (show rules.defects ["Vault/delete", "Vault/read", "Vault/write"] = [] from rfl)
  obtain ⟨whole, judged⟩ := accepted.mpr ⟨⟨_, first⟩, ⟨_, second⟩⟩
  obtain ⟨union, denied, -, unpermitted⟩ := joined _ _ _ judged first second
  have ofRules : evaluate .control bent ["Vault/read"] =
      .error { value := .tooManyWildcards .grantException "**" } := rfl
  refine ⟨⟨whole, _, _, judged, first, second, union, (denied _ _).mpr (.inl ?_),
    (unpermitted _).mpr (.inr ?_)⟩, ofRules, ?_⟩
  · decide +kernel
  · decide +kernel
  · refine (refused _).mpr (.inr ⟨fun other told => ?_, rfl⟩)
    rw [ofRules] at told
    cases told
    exact id

end AccessAudit
