/-
**Which way an edit moves the verdict.**

Each edit moves the verdict one way only. More grants leave fewer actions unpermitted and more
denials deny more; an exception more does the opposite. The other half of the verdict stays as it
is, identifiers included. Where one pattern is put in, what it does not name keeps its standing,
and so does everything in the other domain.

The identifier under which an action is denied is the one thing that can change without the action
going in or out: an edit may make another record the last to deny it. So for denials the statements
speak of the denied actions, and of identifiers only where nothing was put in that names the action.

* `Effect.Moves`: what the way of an edit means for two verdicts;
* `effect_moves`: an edit moves the verdict of each domain the way it goes;
* `spared_standing_eq`: what an edit spares keeps its standing;
* `edit_moves_verdict_one_way`: a check before an edit and after it.
-/
import AccessAudit.Proofs.Edits
import AccessAudit.Proofs.ExactVerdict

namespace AccessAudit

/-- What the way means for the verdict before and the one after. -/
def Effect.Moves (before after : Verdict) : Effect → Prop
  | grantsMore => after.unpermitted ⊆ before.unpermitted ∧ after.denied = before.denied
  | grantsLess => before.unpermitted ⊆ after.unpermitted ∧ after.denied = before.denied
  | deniesMore => before.denied.map Prod.fst ⊆ after.denied.map Prod.fst ∧
      after.unpermitted = before.unpermitted
  | deniesLess => after.denied.map Prod.fst ⊆ before.denied.map Prod.fst ∧
      after.unpermitted = before.unpermitted
  | requiresMore => before.unpermitted ⊆ after.unpermitted ∧ before.denied ⊆ after.denied

/-! ### The verdict after an edit -/

section Verdict

variable {requirement requirement' : Requirement} {snapshot snapshot' : Snapshot} {domain : Domain}

theorem isUnpermitted_verdictIn_iff (action : String) :
    (verdictIn domain requirement snapshot).isUnpermitted action ↔
      action ∈ requirement.inDomain domain ∧ ¬ snapshot.Grants domain action := by
  unfold Verdict.isUnpermitted verdictIn
  rw [List.contains_iff_mem, mem_unpermitted_iff, rulesIn_isGranted_iff]

/-- With more asked for and less granted, more is unpermitted. -/
theorem unpermitted_subset_of_grants
    (asked : requirement.inDomain domain ⊆ requirement'.inDomain domain)
    (granted : ∀ action, snapshot'.Grants domain action → snapshot.Grants domain action) :
    (verdictIn domain requirement snapshot).unpermitted ⊆
      (verdictIn domain requirement' snapshot').unpermitted := by
  intro action inside
  unfold verdictIn at inside ⊢
  rw [mem_unpermitted_iff, rulesIn_isGranted_iff] at inside ⊢
  exact ⟨asked inside.1, fun permitted => inside.2 (granted action permitted)⟩

/-- With more asked for and more denied by the records, more is denied. -/
theorem denied_keys_subset_of_denies
    (asked : requirement.inDomain domain ⊆ requirement'.inDomain domain)
    (denied : ∀ action, snapshot.Denies domain action → snapshot'.Denies domain action) :
    (verdictIn domain requirement snapshot).denied.map Prod.fst ⊆
      (verdictIn domain requirement' snapshot').denied.map Prod.fst := by
  intro action inside
  unfold verdictIn at inside ⊢
  rw [mem_denied_keys_iff, rulesIn_isDenied_iff] at inside ⊢
  exact ⟨asked inside.1, denied action inside.2⟩

/-- The same role assignments leave the same unpermitted. -/
theorem unpermitted_eq_of_roleAssignments (records : snapshot'.roleAssignments =
    snapshot.roleAssignments) : (verdictIn domain requirement snapshot').unpermitted =
      (verdictIn domain requirement snapshot).unpermitted := by
  have same : ∀ action, snapshot'.Grants domain action ↔ snapshot.Grants domain action := by
    intro action
    unfold Snapshot.Grants
    rw [records]
  have asked := List.Subset.refl (requirement.inDomain domain)
  refine Text.texts_ext (Verdict.unpermitted_ascending _) (Verdict.unpermitted_ascending _)
    fun action => ?_
  exact ⟨fun inside => unpermitted_subset_of_grants asked (fun action => (same action).mpr) inside,
    fun inside => unpermitted_subset_of_grants asked (fun action => (same action).mp) inside⟩

/-- The same deny assignments deny the same under the same identifiers. -/
theorem denied_eq_of_denyAssignments (records : snapshot'.denyAssignments =
    snapshot.denyAssignments) : (verdictIn domain requirement snapshot').denied =
      (verdictIn domain requirement snapshot).denied := by
  have same : ∀ action, (review (snapshot'.rulesIn domain) action).deniedBy? =
      (review (snapshot.rulesIn domain) action).deniedBy? := by
    intro action
    rw [review_deniedBy?_eq, review_deniedBy?_eq]
    unfold Snapshot.rulesIn
    rw [records]
  refine Text.entries_ext (Verdict.denied_ascending _) (Verdict.denied_ascending _)
    fun action => ?_
  show (verdictIn domain requirement snapshot').deniedBy? action =
    (verdictIn domain requirement snapshot).deniedBy? action
  unfold verdictIn
  rw [deniedBy?_verdictBy, deniedBy?_verdictBy, same]

/-- With more asked for, more is denied, and what was denied under the same identifiers. -/
theorem denied_subset_of_asked
    (asked : requirement.inDomain domain ⊆ requirement'.inDomain domain) :
    (verdictIn domain requirement snapshot).denied ⊆
      (verdictIn domain requirement' snapshot).denied := by
  rintro ⟨action, id⟩ inside
  unfold verdictIn at inside ⊢
  rw [mem_denied_iff] at inside ⊢
  exact ⟨asked inside.1, inside.2⟩

/-- A verdict is known by the standing of each action. -/
theorem verdictIn_eq_of_standing (standing : ∀ action,
    (verdictIn domain requirement' snapshot').deniedBy? action =
        (verdictIn domain requirement snapshot).deniedBy? action ∧
      (verdictIn domain requirement' snapshot').isUnpermitted action =
        (verdictIn domain requirement snapshot).isUnpermitted action) :
    verdictIn domain requirement' snapshot' = verdictIn domain requirement snapshot := by
  refine Verdict.eq_of_standing (fun action => (standing action).1) fun action => ?_
  have same := (standing action).2
  unfold Verdict.isUnpermitted at same
  rwa [Bool.eq_iff_iff, List.contains_iff_mem, List.contains_iff_mem] at same

end Verdict

section Edited

variable (edit : Edit) (requirement : Requirement) (snapshot : Snapshot)

/-- **An edit moves the verdict of each domain the way it has.** -/
theorem effect_moves (domain : Domain) :
    edit.effect.Moves (verdictIn domain requirement snapshot)
      (verdictIn domain (edit.requirement requirement) (edit.snapshot snapshot)) := by
  have changes := effect_changes edit snapshot
  have asked := List.Subset.refl (requirement.inDomain domain)
  cases effect : edit.effect with
  | grantsMore =>
    rw [effect] at changes
    obtain ⟨granted, records⟩ := changes
    rw [requirement_eq_of_effect edit requirement (by simp [effect])]
    exact ⟨unpermitted_subset_of_grants asked (granted domain),
      denied_eq_of_denyAssignments records⟩
  | grantsLess =>
    rw [effect] at changes
    obtain ⟨granted, records⟩ := changes
    rw [requirement_eq_of_effect edit requirement (by simp [effect])]
    exact ⟨unpermitted_subset_of_grants asked (granted domain),
      denied_eq_of_denyAssignments records⟩
  | deniesMore =>
    rw [effect] at changes
    obtain ⟨denied, records⟩ := changes
    rw [requirement_eq_of_effect edit requirement (by simp [effect])]
    exact ⟨denied_keys_subset_of_denies asked (denied domain),
      unpermitted_eq_of_roleAssignments records⟩
  | deniesLess =>
    rw [effect] at changes
    obtain ⟨denied, records⟩ := changes
    rw [requirement_eq_of_effect edit requirement (by simp [effect])]
    exact ⟨denied_keys_subset_of_denies asked (denied domain),
      unpermitted_eq_of_roleAssignments records⟩
  | requiresMore =>
    rw [effect] at changes
    have records : edit.snapshot snapshot = snapshot := changes
    have more := inDomain_subset_requirement edit requirement domain
    rw [records]
    exact ⟨unpermitted_subset_of_grants more fun _ => id, denied_subset_of_asked more⟩

variable {edit}

/-- **What an edit spares has the same standing in the verdict before and after.** -/
theorem spared_standing_eq {domain : Domain} {action : String}
    (spared : edit.Spares domain action) :
    let before := verdictIn domain requirement snapshot
    let after := verdictIn domain (edit.requirement requirement) (edit.snapshot snapshot)
    after.deniedBy? action = before.deniedBy? action ∧
      after.isUnpermitted action = before.isUnpermitted action := by
  have asked : edit.requirement requirement = requirement := by
    obtain ⟨listed, single, _⟩ := spared
    cases edit with
    | role | inRole | denial | inDenial => rfl
    | required => cases single
  rw [asked]
  constructor
  · unfold verdictIn
    rw [deniedBy?_verdictBy, deniedBy?_verdictBy, spared_deniedBy?_eq snapshot spared]
  · rw [Bool.eq_iff_iff, isUnpermitted_verdictIn_iff, isUnpermitted_verdictIn_iff,
      spared_grants_iff snapshot spared]

end Edited

/-- A verdict that was clean is so after more is granted. -/
theorem isClean_of_grantsMore {before after : Verdict}
    (moves : Effect.grantsMore.Moves before after) (clean : before.isClean) : after.isClean := by
  obtain ⟨fewer, same⟩ := moves
  unfold Verdict.isClean at clean ⊢
  rw [Bool.and_eq_true, List.isEmpty_iff, List.isEmpty_iff] at clean ⊢
  refine ⟨same.trans clean.1, List.subset_nil.mp ?_⟩
  rw [← clean.2]
  exact fewer

/-- A verdict that is clean after more is denied was so before. -/
theorem isClean_of_deniesMore {before after : Verdict}
    (moves : Effect.deniesMore.Moves before after) (clean : after.isClean) : before.isClean := by
  obtain ⟨more, same⟩ := moves
  unfold Verdict.isClean at clean ⊢
  rw [Bool.and_eq_true, List.isEmpty_iff, List.isEmpty_iff] at clean ⊢
  rw [clean.1, List.map_nil, List.subset_nil, List.map_eq_nil_iff] at more
  exact ⟨more, same.symm.trans clean.2⟩

/-! ### The check after an edit -/

theorem passed_iff_forall_isClean (outcome : PermissionCheck) :
    outcome.passed ↔ ∀ domain, (outcome.verdict domain).isClean := by
  unfold PermissionCheck.passed
  rw [Bool.and_eq_true, Domain.forall_iff]
  rfl

section Check

variable {requirement : Requirement} {snapshot : Snapshot} {outcome outcome' : PermissionCheck}

/-- **Of two checks that are carried out, before an edit and after it, the verdicts of both domains
move the way the edit has. Where a single pattern is put in, the other domain keeps its verdict, and
an action that the pattern does not name keeps its standing, identifier included. More grants never
make a check fail that passed, and more denials never make one pass that failed.** -/
theorem edit_moves_verdict_one_way (edit : Edit)
    (carriedOut : (check requirement snapshot).value = .ok outcome)
    (carriedOut' :
      (check (edit.requirement requirement) (edit.snapshot snapshot)).value = .ok outcome') :
    (∀ domain, edit.effect.Moves (outcome.verdict domain) (outcome'.verdict domain)) ∧
    (∀ listed pattern, edit.pattern? = some (listed, pattern) →
      (∀ domain, domain ≠ listed → outcome'.verdict domain = outcome.verdict domain) ∧
      ∀ action, ¬ Pattern.covers pattern action →
        (outcome'.verdict listed).deniedBy? action = (outcome.verdict listed).deniedBy? action ∧
        (outcome'.verdict listed).isUnpermitted action =
          (outcome.verdict listed).isUnpermitted action) ∧
    (edit.effect = .grantsMore → outcome.passed → outcome'.passed) ∧
    (edit.effect = .deniesMore → outcome'.passed → outcome.passed) := by
  have moves : ∀ domain,
      edit.effect.Moves (outcome.verdict domain) (outcome'.verdict domain) := by
    intro domain
    rw [verdict_eq_verdictIn carriedOut, verdict_eq_verdictIn carriedOut']
    exact effect_moves edit requirement snapshot domain
  refine ⟨moves, fun listed pattern single => ⟨fun domain other => ?_, fun action foreign => ?_⟩,
    fun effect passed => ?_, fun effect passed => ?_⟩
  · have spared : ∀ action, edit.Spares domain action := fun action =>
      ⟨(listed, pattern), single, fun same => absurd same other⟩
    rw [verdict_eq_verdictIn carriedOut, verdict_eq_verdictIn carriedOut']
    exact verdictIn_eq_of_standing fun action =>
      spared_standing_eq requirement snapshot (spared action)
  · rw [verdict_eq_verdictIn carriedOut, verdict_eq_verdictIn carriedOut']
    exact spared_standing_eq requirement snapshot ⟨(listed, pattern), single, fun _ => foreign⟩
  · rw [passed_iff_forall_isClean] at passed ⊢
    exact fun domain => isClean_of_grantsMore (effect ▸ moves domain) (passed domain)
  · rw [passed_iff_forall_isClean] at passed ⊢
    exact fun domain => isClean_of_deniesMore (effect ▸ moves domain) (passed domain)

end Check

/-! ### The vault, edited -/

/-- A role more, which grants the deletion that the other role leaves out. -/
def deletingRole : Edit :=
  .role 1 { permissions := some [
    { actions := some ["*/delete"]
      notActions := some []
      dataActions := some []
      notDataActions := some [] }] }

/-- Only one action is left without a grant. -/
def deletableOutcome : PermissionCheck :=
  { vaultOutcome with
    control := .ofEntries vaultOutcome.control.denied ["Vault/write"] }

/-- An exception more in the record that denied the purge last. -/
def sparingPurge : Edit :=
  .inDenial 1 (.pattern 0 .exceptions .control 0 "*/purge")

/-- The purge is now denied by the record before. -/
def purgeableOutcome : PermissionCheck :=
  { vaultOutcome with
    control := .ofEntries [("Vault/delete", "early"), ("Vault/purge", "early")]
      vaultOutcome.control.unpermitted }

/-- What the two edits do to the verdict on the vault, and what they leave as it is. -/
theorem vault_edits_move_verdict_one_way :
    deletableOutcome.control.unpermitted ⊆ vaultOutcome.control.unpermitted ∧
    deletableOutcome.control.denied = vaultOutcome.control.denied ∧
    purgeableOutcome.control.denied.map Prod.fst ⊆ vaultOutcome.control.denied.map Prod.fst ∧
    purgeableOutcome.control.deniedBy? "Vault/delete" =
      vaultOutcome.control.deniedBy? "Vault/delete" ∧
    purgeableOutcome.data = vaultOutcome.data := by
  have vault : (check vaultRequirement vaultSnapshot).value = .ok vaultOutcome := rfl
  have deletable : (check (deletingRole.requirement vaultRequirement)
      (deletingRole.snapshot vaultSnapshot)).value = .ok deletableOutcome := rfl
  have purgeable : (check (sparingPurge.requirement vaultRequirement)
      (sparingPurge.snapshot vaultSnapshot)).value = .ok purgeableOutcome := rfl
  obtain ⟨granted, _⟩ := edit_moves_verdict_one_way deletingRole vault deletable
  obtain ⟨denied, single, _⟩ := edit_moves_verdict_one_way sparingPurge vault purgeable
  obtain ⟨fewer, same⟩ := granted .control
  obtain ⟨spared, standing⟩ := single .control "*/purge" rfl
  exact ⟨fewer, same, (denied .control).1, (standing "Vault/delete" (by decide)).1,
    spared .data (by decide)⟩

end AccessAudit
