/-
**What a verdict depends on.**

A block counts by its extent, the set of its patterns and the set of its exceptions in a domain.
What is granted depends on the extents of the role assignments alone, as a set, and what is denied
on the extents of the deny assignments alone, as a set: neither their order nor their number
matters, nor which record a block is in, nor what the other domain lists. Only the identifier under
which an action is denied depends on more, on the owners of the blocks and on the order these come
in, since there the last block decides.

* `Extent`, `Coverage.extent`: what of a block counts;
* `Snapshot.grantExtents`, `Snapshot.denyExtents`: the extents of a domain, as sets;
* `Snapshot.ownedExtents`: those of the deny assignments in order, each with its owner;
* `grants_iff`, `denies_iff`, `rulesIn_deniedBy?_eq`: the records are read through their extents;
* `verdict_depends_only_on_extents`: two checks with the same extents have the same verdict.
-/
import AccessAudit.Proofs.ExactVerdict
import Mathlib.Data.Finset.Dedup

namespace AccessAudit

/-! ### Extents -/

/-- What a block is about in a domain, without order and repetition. -/
@[ext]
structure Extent where
  patterns : Finset String
  exceptions : Finset String

-- A derived instance would cast along equalities of sets, and those do not compute.
instance : DecidableEq Extent :=
  fun _ _ => decidable_of_iff' _ Extent.ext_iff

/-- One of the patterns names the action, and none of the exceptions does. -/
def Extent.Covers (extent : Extent) (action : String) : Prop :=
  (∃ pattern ∈ extent.patterns, Pattern.covers pattern action) ∧
    ∀ pattern ∈ extent.exceptions, ¬ Pattern.covers pattern action

instance (extent : Extent) (action : String) : Decidable (extent.Covers action) :=
  inferInstanceAs (Decidable (_ ∧ _))

/-- The extent of a coverage. -/
def Coverage.extent (coverage : Coverage) : Extent where
  patterns := coverage.actions.toFinset
  exceptions := coverage.exceptions.toFinset

/-- What a coverage covers is a matter of its extent. -/
theorem Coverage.covers_extent_iff (coverage : Coverage) (action : String) :
    coverage.extent.Covers action ↔ coverage.Covers action := by
  unfold Extent.Covers Coverage.Covers Coverage.extent
  simp only [List.mem_toFinset]

namespace Snapshot

/-- The extents of all blocks of role assignments. -/
def grantExtents (snapshot : Snapshot) (domain : Domain) : Finset Extent :=
  (snapshot.roleAssignments.flatMap fun assignment =>
    assignment.blocks.map fun block => (block.coverage domain).extent).toFinset

/-- The extents of all blocks of deny assignments. -/
def denyExtents (snapshot : Snapshot) (domain : Domain) : Finset Extent :=
  (snapshot.denyAssignments.flatMap fun assignment =>
    assignment.blocks.map fun block => (block.coverage domain).extent).toFinset

/-- The extents of all blocks of deny assignments in order, each with the identifier of its
owner. -/
def ownedExtents (snapshot : Snapshot) (domain : Domain) : List (Option String × Extent) :=
  snapshot.denyAssignments.flatMap fun assignment =>
    assignment.blocks.map fun block => (assignment.id, (block.coverage domain).extent)

end Snapshot

/-! ### The records are read through their extents -/

/-- What the records grant is a matter of the extents of the role assignments. -/
theorem grants_iff (snapshot : Snapshot) (domain : Domain) (action : String) :
    snapshot.Grants domain action ↔
      ∃ extent ∈ snapshot.grantExtents domain, extent.Covers action := by
  unfold Snapshot.Grants Snapshot.grantExtents
  simp only [List.mem_toFinset]
  rw [exists_mem_flatMap_map_iff]
  simp only [Coverage.covers_extent_iff]

/-- What the records deny is a matter of the extents of the deny assignments. -/
theorem denies_iff (snapshot : Snapshot) (domain : Domain) (action : String) :
    snapshot.Denies domain action ↔
      ∃ extent ∈ snapshot.denyExtents domain, extent.Covers action := by
  unfold Snapshot.Denies Snapshot.denyExtents
  simp only [List.mem_toFinset]
  rw [exists_mem_flatMap_map_iff]
  simp only [Coverage.covers_extent_iff]

/-- By the rules of a snapshot an action is denied by the owner of the last extent to cover it. -/
theorem rulesIn_deniedBy?_eq (snapshot : Snapshot) (domain : Domain) (action : String) :
    (review (snapshot.rulesIn domain) action).deniedBy? =
      (snapshot.ownedExtents domain).reverse.findSome? fun (owner, extent) =>
        if extent.Covers action then some (owner.getD "") else none := by
  rw [review_deniedBy?_eq]
  unfold Snapshot.rulesIn Snapshot.ownedExtents
  simp only
  rw [List.reverse_flatMap, List.reverse_flatMap, findSome?_flatMap, findSome?_flatMap]
  refine congrArg (List.findSome? · _) (funext fun assignment => ?_)
  unfold DenyAssignment.denials
  simp only [Function.comp_apply]
  rw [← List.map_reverse, ← List.map_reverse, List.findSome?_map, List.findSome?_map]
  refine congrArg (List.findSome? · _) (funext fun block => ?_)
  show (if (block.coverage domain).Covers action then some (assignment.id.getD "") else none) =
    if (block.coverage domain).extent.Covers action then some (assignment.id.getD "") else none
  simp only [Coverage.covers_extent_iff]

/-! ### Two checks -/

section TwoChecks

variable {requirement requirement' : Requirement} {snapshot snapshot' : Snapshot}
  {outcome outcome' : PermissionCheck}

section SameRequired

variable {domain : Domain}
  (required : ∀ action,
    action ∈ requirement.inDomain domain ↔ action ∈ requirement'.inDomain domain)

include required

theorem unpermitted_eq_of_grantExtents_eq
    (grants : snapshot.grantExtents domain = snapshot'.grantExtents domain) :
    (verdictIn domain requirement snapshot).unpermitted =
      (verdictIn domain requirement' snapshot').unpermitted := by
  unfold verdictIn
  refine Text.texts_ext (Verdict.unpermitted_ascending _) (Verdict.unpermitted_ascending _)
    fun action => ?_
  rw [mem_unpermitted_iff, mem_unpermitted_iff, rulesIn_isGranted_iff, rulesIn_isGranted_iff,
    grants_iff, grants_iff, grants, required]

theorem denied_keys_eq_of_denyExtents_eq
    (denials : snapshot.denyExtents domain = snapshot'.denyExtents domain) :
    (verdictIn domain requirement snapshot).denied.map Prod.fst =
      (verdictIn domain requirement' snapshot').denied.map Prod.fst := by
  unfold verdictIn
  refine Text.texts_ext (Verdict.denied_ascending _) (Verdict.denied_ascending _)
    fun action => ?_
  rw [mem_denied_keys_iff, mem_denied_keys_iff, rulesIn_isDenied_iff, rulesIn_isDenied_iff,
    denies_iff, denies_iff, denials, required]

theorem denied_eq_of_ownedExtents_eq
    (owned : snapshot.ownedExtents domain = snapshot'.ownedExtents domain) :
    (verdictIn domain requirement snapshot).denied =
      (verdictIn domain requirement' snapshot').denied := by
  refine Text.entries_ext (Verdict.denied_ascending _) (Verdict.denied_ascending _)
    fun action => ?_
  show (verdictIn domain requirement snapshot).deniedBy? action =
    (verdictIn domain requirement' snapshot').deniedBy? action
  unfold verdictIn
  rw [deniedBy?_verdictBy, deniedBy?_verdictBy, rulesIn_deniedBy?_eq, rulesIn_deniedBy?_eq, owned]
  simp only [required]

end SameRequired

/-- A check passes or not by its two verdicts, whatever the identifiers in them. -/
theorem passed_eq_of_verdicts
    (same : ∀ domain, (outcome.verdict domain).unpermitted = (outcome'.verdict domain).unpermitted ∧
      (outcome.verdict domain).denied.map Prod.fst =
        (outcome'.verdict domain).denied.map Prod.fst) :
    outcome.passed = outcome'.passed := by
  have clean : ∀ domain, (outcome.verdict domain).isClean = (outcome'.verdict domain).isClean := by
    intro domain
    obtain ⟨unpermitted, denied⟩ := same domain
    have unstruck := congrArg List.isEmpty denied
    rw [List.isEmpty_map, List.isEmpty_map] at unstruck
    unfold Verdict.isClean
    rw [unpermitted, unstruck]
  exact congrArg₂ (· && ·) (clean .control) (clean .data)

/-- **Two checks that are carried out, of requirements with the same actions in a domain, have the
same unpermitted actions there when the role assignments have the same extents, the same denied
actions when the deny assignments have the same extents, and these under the same identifiers when
the extents come from the same owners in the same order. They pass alike when in both domains both
kinds of record have the same extents.** -/
theorem verdict_depends_only_on_extents
    (carriedOut : (check requirement snapshot).value = .ok outcome)
    (carriedOut' : (check requirement' snapshot').value = .ok outcome') :
    (∀ domain, (∀ action, action ∈ requirement.inDomain domain ↔
        action ∈ requirement'.inDomain domain) →
      (snapshot.grantExtents domain = snapshot'.grantExtents domain →
        (outcome.verdict domain).unpermitted = (outcome'.verdict domain).unpermitted) ∧
      (snapshot.denyExtents domain = snapshot'.denyExtents domain →
        (outcome.verdict domain).denied.map Prod.fst =
          (outcome'.verdict domain).denied.map Prod.fst) ∧
      (snapshot.ownedExtents domain = snapshot'.ownedExtents domain →
        (outcome.verdict domain).denied = (outcome'.verdict domain).denied)) ∧
    ((∀ domain, (∀ action, action ∈ requirement.inDomain domain ↔
        action ∈ requirement'.inDomain domain) ∧
      snapshot.grantExtents domain = snapshot'.grantExtents domain ∧
      snapshot.denyExtents domain = snapshot'.denyExtents domain) →
      outcome.passed = outcome'.passed) := by
  simp only [verdict_eq_verdictIn carriedOut, verdict_eq_verdictIn carriedOut']
  refine ⟨fun domain required => ⟨?_, ?_, ?_⟩, fun same => passed_eq_of_verdicts fun domain => ?_⟩
  · exact unpermitted_eq_of_grantExtents_eq required
  · exact denied_keys_eq_of_denyExtents_eq required
  · exact denied_eq_of_ownedExtents_eq required
  · obtain ⟨required, grants, denials⟩ := same domain
    rw [verdict_eq_verdictIn carriedOut, verdict_eq_verdictIn carriedOut']
    exact ⟨unpermitted_eq_of_grantExtents_eq required grants,
      denied_keys_eq_of_denyExtents_eq required denials⟩

end TwoChecks

/-! ### The vault, rearranged -/

/-- The actions on the vault in another order, others of them twice. -/
def rearrangedRequirement : Requirement where
  actions := ["Vault/write", "Vault/delete", "Vault/purge", "Vault/write", "Vault/read"]
  dataActions := ["Vault/secrets/get", "Vault/secrets/get"]

/-- The records of the vault with patterns in another order, the granting block in two records and
the first denying block twice in its own. -/
def rearrangedSnapshot : Snapshot where
  roleAssignments := [
    { permissions := some [] },
    { permissions := some [
        { actions := some ["Vault/*", "Vault/*"]
          notActions := some ["*/write", "Vault/delete"]
          dataActions := some ["Vault/*/get"]
          notDataActions := some [] }] },
    { permissions := some [
        { actions := some ["Vault/*"]
          notActions := some ["*/write", "Vault/delete", "*/write"]
          dataActions := some ["Vault/*/get"]
          notDataActions := some [] }] }]
  denyAssignments := [
    { id := some "late"
      permissions := some [
        { actions := some ["*/purge"]
          notActions := some []
          dataActions := some []
          notDataActions := some [] }] },
    { id := some "early"
      permissions := some [
        { actions := some ["*", "*"]
          notActions := some ["*/write", "*/read"]
          dataActions := some ["*"]
          notDataActions := some ["Vault/secrets/*"] },
        { actions := some ["*"]
          notActions := some ["*/read", "*/write"]
          dataActions := some ["*"]
          notDataActions := some ["Vault/secrets/*"] }] }]

/-- The same actions are denied, but now all by the record that comes last. -/
def rearrangedOutcome : PermissionCheck where
  control := .ofEntries [("Vault/delete", "early"), ("Vault/purge", "early")]
    ["Vault/delete", "Vault/write"]
  data := .ofEntries [] []

/-- The rearranged vault without its roles. -/
def rolelessSnapshot : Snapshot :=
  { rearrangedSnapshot with roleAssignments := [] }

def rolelessOutcome : PermissionCheck where
  control := .ofEntries rearrangedOutcome.control.denied
    ["Vault/delete", "Vault/purge", "Vault/read", "Vault/write"]
  data := .ofEntries [] ["Vault/secrets/get"]

/-- What the rearrangement leaves as it is, and what is left without the roles. -/
theorem vault_verdict_survives_rearrangement :
    vaultOutcome.control.unpermitted = rearrangedOutcome.control.unpermitted ∧
    vaultOutcome.control.denied.map Prod.fst = rearrangedOutcome.control.denied.map Prod.fst ∧
    vaultOutcome.passed = rearrangedOutcome.passed ∧
    rearrangedOutcome.control.denied = rolelessOutcome.control.denied := by
  have vault : (check vaultRequirement vaultSnapshot).value = .ok vaultOutcome := rfl
  have rearranged :
      (check rearrangedRequirement rearrangedSnapshot).value = .ok rearrangedOutcome := rfl
  have roleless : (check rearrangedRequirement rolelessSnapshot).value = .ok rolelessOutcome := rfl
  have required : ∀ domain action, action ∈ vaultRequirement.inDomain domain ↔
      action ∈ rearrangedRequirement.inDomain domain := by
    intro domain
    cases domain <;> exact List.toFinset.ext_iff.mp (by decide)
  have grants : ∀ domain,
      vaultSnapshot.grantExtents domain = rearrangedSnapshot.grantExtents domain := by
    intro domain
    cases domain <;> decide
  have denials : ∀ domain,
      vaultSnapshot.denyExtents domain = rearrangedSnapshot.denyExtents domain := by
    intro domain
    cases domain <;> decide
  obtain ⟨alike, alikePassed⟩ := verdict_depends_only_on_extents vault rearranged
  obtain ⟨unpermitted, keys, _⟩ := alike .control (required .control)
  obtain ⟨_, _, denied⟩ :=
    (verdict_depends_only_on_extents rearranged roleless).1 .control fun _ => Iff.rfl
  refine ⟨unpermitted (grants .control), keys (denials .control), ?_, denied rfl⟩
  exact alikePassed fun domain => ⟨required domain, grants domain, denials domain⟩

end AccessAudit
