/-
**The gaps of the records, and the rules made of them.**

A record may lack any of its fields, and every rule needs some of them. The gaps of the records of
one domain are listed here in the order in which they would be met: record after record, and within
a record the identifier, then the blocks as a whole, then each block with its patterns before its
exceptions. Rules are made of the records exactly when there is no gap, and then one for each block;
otherwise the first gap of the list is told. The lists of the other domain are never looked at.

* `blockGaps`, `RoleAssignment.gaps`, `DenyAssignment.gaps`: every gap of a record;
* `roleGaps_eq_nil_iff`, `denyGaps_eq_nil_iff`: when there is none;
* `grantsOf?_eq_settled`, `denialsOf?_eq_settled`, `rules?_eq_settled`: the rules, or the first gap.
-/
import AccessAudit.Proofs.Coverage
import AccessAudit.Proofs.FirstDefect

namespace AccessAudit

/-! ### Every gap, in order -/

/-- The gap of a field that is missing. -/
def missing {α : Type} (record field : String) : Option α → List Gap
  | some _ => []
  | none => [{ record, field }]

/-- The lists that a block lacks in a domain. -/
def PermissionBlock.gaps (domain : Domain) (label : String) (block : PermissionBlock) :
    List Gap :=
  missing label domain.actionsField (block.actionsIn domain) ++
    missing label domain.exceptionsField (block.exceptionsIn domain)

/-- What the blocks of a record lack, each block under its index; or the blocks are missing. -/
def blockGaps (domain : Domain) (label : String) (permissions : Option (List PermissionBlock)) :
    List Gap :=
  missing label "permissions" permissions ++
    (permissions.getD []).zipIdx.flatMap fun (block, index) =>
      block.gaps domain (label ++ " permission[" ++ toString index ++ "]")

/-- What a role assignment lacks. -/
def RoleAssignment.gaps (domain : Domain) (index : Nat) (assignment : RoleAssignment) : List Gap :=
  blockGaps domain (assignment.label index) assignment.permissions

/-- What a deny assignment lacks. Without an identifier nothing else of it can be named. -/
def DenyAssignment.gaps (domain : Domain) (index : Nat) (assignment : DenyAssignment) :
    List Gap :=
  match assignment.id with
  | none => [{ record := "deny assignment #" ++ toString index, field := "id" }]
  | some id => blockGaps domain ("deny assignment " ++ id) assignment.permissions

/-- What role assignments lack, record after record. -/
def roleGaps (domain : Domain) (assignments : List RoleAssignment) : List Gap :=
  assignments.zipIdx.flatMap fun (assignment, index) => assignment.gaps domain index

/-- What deny assignments lack, record after record. -/
def denyGaps (domain : Domain) (assignments : List DenyAssignment) : List Gap :=
  assignments.zipIdx.flatMap fun (assignment, index) => assignment.gaps domain index

/-! ### Records without gaps -/

/-- Both lists of a domain are there. -/
def PermissionBlock.CompleteIn (domain : Domain) (block : PermissionBlock) : Prop :=
  (block.actionsIn domain).isSome ∧ (block.exceptionsIn domain).isSome

theorem missing_eq_nil_iff {α : Type} (record field : String) (value? : Option α) :
    missing record field value? = [] ↔ value?.isSome := by
  cases value? <;> simp [missing]

theorem forall_mem_zipIdx_iff {α : Type} (items : List α) (holds : α → Prop) :
    (∀ pair ∈ items.zipIdx, holds pair.1) ↔ ∀ item ∈ items, holds item := by
  rw [← List.forall_mem_map, List.zipIdx_map_fst]

theorem map_zipIdx_fst {α β : Type} (items : List α) (f : α → β) :
    (items.zipIdx.map fun pair => f pair.1) = items.map f := by
  rw [← Function.comp_def f Prod.fst, ← List.map_map, List.zipIdx_map_fst]

theorem PermissionBlock.gaps_eq_nil_iff (domain : Domain) (label : String)
    (block : PermissionBlock) : block.gaps domain label = [] ↔ block.CompleteIn domain := by
  unfold PermissionBlock.gaps PermissionBlock.CompleteIn
  rw [List.append_eq_nil_iff, missing_eq_nil_iff, missing_eq_nil_iff]

theorem blockGaps_eq_nil_iff (domain : Domain) (label : String)
    (permissions : Option (List PermissionBlock)) :
    blockGaps domain label permissions = [] ↔
      permissions.isSome ∧ ∀ block ∈ permissions.getD [], block.CompleteIn domain := by
  unfold blockGaps
  rw [List.append_eq_nil_iff, missing_eq_nil_iff, List.flatMap_eq_nil_iff]
  simp only [PermissionBlock.gaps_eq_nil_iff]
  rw [forall_mem_zipIdx_iff _ (PermissionBlock.CompleteIn domain)]

/-- Role assignments have no gap when each has its blocks and these have their lists. -/
theorem roleGaps_eq_nil_iff (domain : Domain) (assignments : List RoleAssignment) :
    roleGaps domain assignments = [] ↔ ∀ assignment ∈ assignments,
      assignment.permissions.isSome ∧ ∀ block ∈ assignment.blocks, block.CompleteIn domain := by
  unfold roleGaps
  rw [List.flatMap_eq_nil_iff]
  simp only [RoleAssignment.gaps, blockGaps_eq_nil_iff]
  exact forall_mem_zipIdx_iff assignments fun assignment =>
    assignment.permissions.isSome ∧ ∀ block ∈ assignment.blocks, block.CompleteIn domain

theorem DenyAssignment.gaps_eq_nil_iff (domain : Domain) (index : Nat)
    (assignment : DenyAssignment) : assignment.gaps domain index = [] ↔
      assignment.id.isSome ∧ assignment.permissions.isSome ∧
        ∀ block ∈ assignment.blocks, block.CompleteIn domain := by
  unfold DenyAssignment.gaps
  cases assignment.id with
  | none => simp
  | some id =>
    simp only [Option.isSome_some, true_and]
    exact blockGaps_eq_nil_iff domain _ _

/-- Deny assignments have no gap when each has its identifier and its blocks and these have their
lists. -/
theorem denyGaps_eq_nil_iff (domain : Domain) (assignments : List DenyAssignment) :
    denyGaps domain assignments = [] ↔ ∀ assignment ∈ assignments,
      assignment.id.isSome ∧ assignment.permissions.isSome ∧
        ∀ block ∈ assignment.blocks, block.CompleteIn domain := by
  unfold denyGaps
  rw [List.flatMap_eq_nil_iff]
  simp only [DenyAssignment.gaps_eq_nil_iff]
  exact forall_mem_zipIdx_iff assignments fun assignment => assignment.id.isSome ∧
    assignment.permissions.isSome ∧ ∀ block ∈ assignment.blocks, block.CompleteIn domain

/-! ### Rules, or the first gap -/

theorem coverage?_eq_settled (domain : Domain) (label : String) (block : PermissionBlock) :
    block.coverage? domain label = settled (block.gaps domain label) (block.coverage domain) := by
  unfold PermissionBlock.coverage? PermissionBlock.gaps PermissionBlock.coverage
  cases block.actionsIn domain with
  | none => rfl
  | some actions => cases block.exceptionsIn domain <;> rfl

theorem coverages?_eq_settled (domain : Domain) (label : String)
    (permissions : Option (List PermissionBlock)) :
    coverages? domain label permissions = settled (blockGaps domain label permissions)
      ((permissions.getD []).map (PermissionBlock.coverage domain)) := by
  cases permissions with
  | none => rfl
  | some blocks =>
    have labelled : coverages? domain label (some blocks) = blocks.zipIdx.mapM fun pair =>
        pair.1.coverage? domain (label ++ " permission[" ++ toString pair.2 ++ "]") := rfl
    rw [labelled]
    simp only [coverage?_eq_settled]
    rw [mapM_settled, map_zipIdx_fst _ (PermissionBlock.coverage domain)]
    rfl

/-- **The grants of role assignments: one for each block, or the first gap.** -/
theorem grantsOf?_eq_settled (domain : Domain) (assignments : List RoleAssignment) :
    grantsOf? domain assignments = settled (roleGaps domain assignments)
      (assignments.flatMap fun assignment =>
        assignment.blocks.map (PermissionBlock.coverage domain)) := by
  have indexed : grantsOf? domain assignments =
      (assignments.zipIdx.mapM fun pair => coverages? domain (pair.1.label pair.2)
        pair.1.permissions) >>= fun grants => pure grants.flatten := rfl
  rw [indexed]
  simp only [coverages?_eq_settled]
  rw [mapM_settled, settled_bind_pure, map_zipIdx_fst assignments fun assignment =>
    (assignment.permissions.getD []).map (PermissionBlock.coverage domain), ← List.flatMap_def]
  rfl

theorem denials?_eq_settled (domain : Domain) (index : Nat) (assignment : DenyAssignment) :
    assignment.denials? domain index =
      settled (assignment.gaps domain index) (assignment.denials domain) := by
  unfold DenyAssignment.denials? DenyAssignment.gaps DenyAssignment.denials DenyAssignment.blocks
  cases assignment.id with
  | none => rfl
  | some id =>
    have named : (required ("deny assignment #" ++ toString index) "id" (some id)) = .ok id := rfl
    simp only [coverages?_eq_settled, settled_bind_pure, named, List.map_map]
    rfl

/-- **The denials of deny assignments: one for each block, or the first gap.** -/
theorem denialsOf?_eq_settled (domain : Domain) (assignments : List DenyAssignment) :
    denialsOf? domain assignments = settled (denyGaps domain assignments)
      (assignments.flatMap (DenyAssignment.denials domain)) := by
  have indexed : denialsOf? domain assignments =
      (assignments.zipIdx.mapM fun pair => pair.1.denials? domain pair.2) >>=
        fun denials => pure denials.flatten := rfl
  rw [indexed]
  simp only [denials?_eq_settled]
  rw [mapM_settled, settled_bind_pure, map_zipIdx_fst assignments (DenyAssignment.denials domain),
    ← List.flatMap_def]
  rfl

/-- **The rules of a snapshot: one for each block, or the first gap, those of role assignments
first.** -/
theorem rules?_eq_settled (domain : Domain) (snapshot : Snapshot) :
    snapshot.rules? domain =
      settled (roleGaps domain snapshot.roleAssignments ++
        denyGaps domain snapshot.denyAssignments) (snapshot.rulesIn domain) := by
  unfold Snapshot.rules?
  rw [grantsOf?_eq_settled, denialsOf?_eq_settled]
  simp only [settled_bind_pure]
  rw [settled_bind]
  rfl

end AccessAudit
