/-
**The exact verdict on a requirement.**

A verdict is put together from the reviews of the required actions, which may come in any order and
more than once. What comes out depends on each action by itself: it is denied when it is required
and its review denies it, under the identifier of that review, and unpermitted when it is required
and its review does not grant it. Both collections are ascending, so each action is in them at most
once, and nothing else is in them.

For a check that is carried out the reviews say what the records say. An action is therefore denied
exactly when it is required and a block of some deny assignment covers it, under the identifier of
the deny assignment with the last such block; and it is unpermitted exactly when it is required and
no block of a role assignment covers it.

* `Verdict.eq_of_standing`: a verdict is known by what it says of each action;
* `mem_denied_iff`, `mem_unpermitted_iff`: a verdict by any rules;
* `verdict_eq_verdictIn`: the verdicts of a check that is carried out;
* `passed_iff_permitted`: a check passes when every required action is granted and none denied;
* `verdict_says_what_records_say`: the verdicts in terms of the records.
-/
import AccessAudit.Proofs.Acceptance
import AccessAudit.Proofs.Ordered

namespace AccessAudit

/-! ### What a verdict holds -/

namespace Verdict

/-- A verdict denies an action by the one denial that is found for it. -/
theorem mem_denied_iff_deniedBy? (verdict : Verdict) (action id : String) :
    (action, id) ∈ verdict.denied ↔ verdict.deniedBy? action = some id :=
  Text.mem_iff_lookup verdict.denied_ascending action id

/-- **A verdict is known by what it says of each action.** -/
theorem eq_of_standing {verdict verdict' : Verdict}
    (denied : ∀ action, verdict.deniedBy? action = verdict'.deniedBy? action)
    (unpermitted : ∀ action, action ∈ verdict.unpermitted ↔ action ∈ verdict'.unpermitted) :
    verdict = verdict' :=
  Verdict.ext (Text.entries_ext verdict.denied_ascending verdict'.denied_ascending denied)
    (Text.texts_ext verdict.unpermitted_ascending verdict'.unpermitted_ascending unpermitted)

/-- A verdict adds up to itself. -/
theorem ofEntries_of_verdict (verdict : Verdict) :
    ofEntries verdict.denied verdict.unpermitted = verdict :=
  Verdict.ext (Text.sortedEntries_of_ascending verdict.denied_ascending)
    (Text.sortedTexts_of_ascending verdict.unpermitted_ascending)

end Verdict

/-! ### The verdict by any rules -/

section Rules

variable (rules : RuleSet) (candidates : List String)

/-- The denial found under an action is that of its review. -/
theorem deniedBy?_verdictBy (action : String) :
    (verdictBy rules candidates).deniedBy? action =
      if action ∈ candidates then (review rules action).deniedBy? else none := by
  unfold verdictBy Verdict.ofReviews Verdict.ofEntries Verdict.deniedBy?
  rw [Text.lookup_sortedEntries, List.filterMap_map, ← List.filterMap_reverse]
  have graph := Text.lookup_graph (fun key => (review rules key).deniedBy?) candidates.reverse
    action
  simp only [List.mem_reverse] at graph
  exact graph

/-- **What is denied, and by which denial.** -/
theorem mem_denied_iff (action id : String) :
    (action, id) ∈ (verdictBy rules candidates).denied ↔
      action ∈ candidates ∧ (review rules action).deniedBy? = some id := by
  rw [(verdictBy rules candidates).mem_denied_iff_deniedBy?, deniedBy?_verdictBy]
  by_cases asked : action ∈ candidates
  · simp [asked]
  · simp [asked]

/-- **Which actions are denied.** -/
theorem mem_denied_keys_iff (action : String) :
    action ∈ (verdictBy rules candidates).denied.map Prod.fst ↔
      action ∈ candidates ∧ (review rules action).deniedBy?.isSome := by
  simp only [List.mem_map, Prod.exists, exists_and_right, exists_eq_right, mem_denied_iff,
    Option.isSome_iff_exists, exists_and_left]

/-- **What is unpermitted.** -/
theorem mem_unpermitted_iff (action : String) :
    action ∈ (verdictBy rules candidates).unpermitted ↔
      action ∈ candidates ∧ ¬ (review rules action).isGranted := by
  unfold verdictBy Verdict.ofReviews Verdict.ofEntries
  rw [Text.mem_sortedTexts]
  simp only [List.mem_map, List.mem_filter, Bool.not_eq_true', Bool.not_eq_true]
  constructor
  · rintro ⟨_, ⟨⟨candidate, asked, rfl⟩, refused⟩, rfl⟩
    exact ⟨asked, refused⟩
  · rintro ⟨asked, refused⟩
    exact ⟨review rules action, ⟨⟨action, asked, rfl⟩, refused⟩, rfl⟩

/-- **What makes a verdict clean.** -/
theorem isClean_verdictBy_iff :
    (verdictBy rules candidates).isClean ↔
      ∀ action ∈ candidates, (review rules action).isGranted ∧
        ¬ (review rules action).deniedBy?.isSome := by
  unfold Verdict.isClean
  rw [Bool.and_eq_true, List.isEmpty_iff, List.isEmpty_iff, ← @List.map_eq_nil_iff _ _ Prod.fst,
    List.eq_nil_iff_forall_not_mem, List.eq_nil_iff_forall_not_mem, ← forall_and]
  refine forall_congr' fun action => ?_
  rw [mem_denied_keys_iff, mem_unpermitted_iff]
  constructor
  · rintro ⟨spared, permitted⟩ asked
    exact ⟨not_not.mp fun refused => permitted ⟨asked, refused⟩,
      fun struck => spared ⟨asked, struck⟩⟩
  · intro each
    exact ⟨fun struck => (each struck.1).2 struck.2, fun refused => refused.2 (each refused.1).1⟩

end Rules

/-! ### The verdicts of a check -/

/-- The verdict of a domain. -/
def PermissionCheck.verdict (outcome : PermissionCheck) : Domain → Verdict
  | .control => outcome.control
  | .data => outcome.data

variable {requirement : Requirement} {snapshot : Snapshot} {outcome : PermissionCheck}

theorem verdict_eq_verdictIn (carriedOut : (check requirement snapshot).value = .ok outcome)
    (domain : Domain) : outcome.verdict domain = verdictIn domain requirement snapshot := by
  obtain ⟨_, rfl⟩ := (check_value_eq_ok_iff requirement snapshot outcome).mp carriedOut
  cases domain <;> rfl

theorem acceptable_of_check (carriedOut : (check requirement snapshot).value = .ok outcome) :
    Acceptable requirement snapshot :=
  ((check_value_eq_ok_iff requirement snapshot outcome).mp carriedOut).1

/-- **A check passes exactly when the records grant every required action, in both domains, and deny
none.** -/
theorem passed_iff_permitted (carriedOut : (check requirement snapshot).value = .ok outcome) :
    outcome.passed ↔ ∀ domain, ∀ action ∈ requirement.inDomain domain,
      snapshot.Grants domain action ∧ ¬ snapshot.Denies domain action := by
  have clean : ∀ domain, (outcome.verdict domain).isClean ↔
      ∀ action ∈ requirement.inDomain domain,
        snapshot.Grants domain action ∧ ¬ snapshot.Denies domain action := by
    intro domain
    rw [verdict_eq_verdictIn carriedOut]
    unfold verdictIn
    simp only [isClean_verdictBy_iff, rulesIn_isGranted_iff, rulesIn_isDenied_iff]
  unfold PermissionCheck.passed
  rw [Bool.and_eq_true, Domain.forall_iff, ← clean .control, ← clean .data]
  rfl

/-- **The verdict of a domain says what the records say of the required actions, and nothing
else.** -/
theorem verdict_says_what_records_say
    (carriedOut : (check requirement snapshot).value = .ok outcome) (domain : Domain) :
    ((outcome.verdict domain).denied.map Prod.fst).Pairwise (· < ·) ∧
    (outcome.verdict domain).unpermitted.Pairwise (· < ·) ∧
    ∀ action,
      (action ∈ (outcome.verdict domain).denied.map Prod.fst ↔
        action ∈ requirement.inDomain domain ∧ snapshot.Denies domain action) ∧
      (∀ id, (action, id) ∈ (outcome.verdict domain).denied ↔
        action ∈ requirement.inDomain domain ∧ snapshot.LastDenial domain action id) ∧
      (action ∈ (outcome.verdict domain).unpermitted ↔
        action ∈ requirement.inDomain domain ∧ ¬ snapshot.Grants domain action) := by
  have identified := (acceptable_of_check carriedOut).identified
  rw [verdict_eq_verdictIn carriedOut]
  unfold verdictIn
  refine ⟨Verdict.denied_ascending _, Verdict.unpermitted_ascending _,
    fun action => ⟨?_, fun id => ?_, ?_⟩⟩
  · rw [mem_denied_keys_iff, rulesIn_isDenied_iff]
  · rw [mem_denied_iff, rulesIn_deniedBy?_eq_some_iff snapshot identified]
  · rw [mem_unpermitted_iff, rulesIn_isGranted_iff]

/-! ### A vault -/

/-- Four actions on a vault, one of them twice, and one on the secrets in it. -/
def vaultRequirement : Requirement where
  actions := ["Vault/read", "Vault/purge", "Vault/delete", "Vault/read", "Vault/write"]
  dataActions := ["Vault/secrets/get"]

/-- The role grants all of them but two. Of those it grants, one is denied twice. -/
def vaultSnapshot : Snapshot where
  roleAssignments := [
    { permissions := some [
        { actions := some ["Vault/*"]
          notActions := some ["Vault/delete", "*/write"]
          dataActions := some ["Vault/*/get"]
          notDataActions := some [] }] }]
  denyAssignments := [
    { id := some "early"
      permissions := some [
        { actions := some ["*"]
          notActions := some ["*/read", "*/write"]
          dataActions := some ["*"]
          notDataActions := some ["Vault/secrets/*"] }] },
    { id := some "late"
      permissions := some [
        { actions := some ["*/purge"]
          notActions := some []
          dataActions := some []
          notDataActions := some [] }] }]

def vaultOutcome : PermissionCheck where
  control := .ofEntries [("Vault/delete", "early"), ("Vault/purge", "late")]
    ["Vault/delete", "Vault/write"]
  data := .ofEntries [] []

/-- What the verdict on the vault says of its records. -/
theorem vault_records_say_what_verdict_says :
    (check vaultRequirement vaultSnapshot).value = .ok vaultOutcome ∧
    vaultSnapshot.LastDenial .control "Vault/purge" "late" ∧
    vaultSnapshot.Denies .control "Vault/delete" ∧
    ¬ vaultSnapshot.Grants .control "Vault/delete" ∧
    vaultSnapshot.Grants .data "Vault/secrets/get" := by
  have carriedOut : (check vaultRequirement vaultSnapshot).value = .ok vaultOutcome := rfl
  obtain ⟨_, _, control⟩ := verdict_says_what_records_say carriedOut .control
  obtain ⟨_, _, data⟩ := verdict_says_what_records_say carriedOut .data
  refine ⟨carriedOut, ?_, ?_, ?_, ?_⟩
  · exact (((control "Vault/purge").2.1 "late").mp (by decide)).2
  · exact ((control "Vault/delete").1.mp (by decide)).2
  · exact ((control "Vault/delete").2.2.mp (by decide)).2
  · by_contra refused
    exact absurd ((data "Vault/secrets/get").2.2.mpr ⟨by decide, refused⟩) (by decide)

end AccessAudit
