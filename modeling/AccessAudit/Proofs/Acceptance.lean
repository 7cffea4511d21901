/-
**Which checks are carried out, and why the others are not.**

A check is carried out exactly when nothing at all is wrong with the snapshot and the requirement:
every record is complete, in both domains, every text of every list is a pattern, and every required
action is concrete. What is required makes no difference to that; a domain in which nothing is
required is looked at like the other one.

What is wrong is met in a fixed order, and the first of it is the error: in the control domain the
gaps of the role assignments, those of the deny assignments, and then the malformed texts; after
that the same in the data domain.

* `Acceptable`: nothing is wrong with a requirement and a snapshot;
* `defectsIn`: everything that is wrong in one domain, in order;
* `check_value_eq_settled`: a check gives the verdicts of both domains, or the first defect;
* `check_accepted_iff_acceptable`: which checks are carried out, and the error of the others.
-/
import AccessAudit.Check
import AccessAudit.Proofs.Gaps
import AccessAudit.Proofs.Tokens

namespace AccessAudit

/-! ### What is asked of a snapshot and a requirement -/

/-- The blocks of all records. -/
def Snapshot.blocks (snapshot : Snapshot) : List PermissionBlock :=
  snapshot.roleAssignments.flatMap RoleAssignment.blocks ++
    snapshot.denyAssignments.flatMap DenyAssignment.blocks

namespace PermissionBlock

/-- All four lists are there. -/
def IsComplete (block : PermissionBlock) : Prop :=
  block.actions.isSome ∧ block.notActions.isSome ∧ block.dataActions.isSome ∧
    block.notDataActions.isSome

/-- The texts of all four lists. -/
def texts (block : PermissionBlock) : List String :=
  block.actions.getD [] ++ block.notActions.getD [] ++ block.dataActions.getD [] ++
    block.notDataActions.getD []

end PermissionBlock

/-- Nothing is wrong with a requirement and a snapshot, in either domain. -/
structure Acceptable (requirement : Requirement) (snapshot : Snapshot) : Prop where
  /-- Every role assignment has its blocks. -/
  roles : ∀ assignment ∈ snapshot.roleAssignments, assignment.permissions.isSome
  /-- Every deny assignment has its blocks. -/
  denials : ∀ assignment ∈ snapshot.denyAssignments, assignment.permissions.isSome
  /-- Every deny assignment has an identifier. -/
  identified : ∀ assignment ∈ snapshot.denyAssignments, assignment.id.isSome
  /-- Every block has all of its lists. -/
  complete : ∀ block ∈ snapshot.blocks, block.IsComplete
  /-- Every text of every list is a pattern. -/
  patterns : ∀ block ∈ snapshot.blocks, ∀ pattern ∈ block.texts, IsPattern pattern
  /-- Every required action is concrete. -/
  concrete : ∀ action ∈ requirement.actions ++ requirement.dataActions, IsConcrete action

/-- Nothing is wrong with a requirement and a snapshot as far as one domain goes. -/
structure AcceptableIn (domain : Domain) (requirement : Requirement) (snapshot : Snapshot) :
    Prop where
  roles : ∀ assignment ∈ snapshot.roleAssignments, assignment.permissions.isSome
  denials : ∀ assignment ∈ snapshot.denyAssignments, assignment.permissions.isSome
  identified : ∀ assignment ∈ snapshot.denyAssignments, assignment.id.isSome
  complete : ∀ block ∈ snapshot.blocks, block.CompleteIn domain
  patterns : ∀ block ∈ snapshot.blocks, (block.coverage domain).IsWellFormed
  concrete : ∀ action ∈ requirement.inDomain domain, IsConcrete action

/-! ### Everything that is wrong, in order -/

/-- Everything that is wrong in a domain: the gaps of the role assignments, the gaps of the deny
assignments, and the malformed texts. -/
def defectsIn (domain : Domain) (requirement : Requirement) (snapshot : Snapshot) :
    List CheckError :=
  (roleGaps domain snapshot.roleAssignments).map .incomplete ++
    (denyGaps domain snapshot.denyAssignments).map .incomplete ++
    ((snapshot.rulesIn domain).defects (requirement.inDomain domain)).map .malformed

/-- The verdict of a domain. -/
def verdictIn (domain : Domain) (requirement : Requirement) (snapshot : Snapshot) : Verdict :=
  verdictBy (snapshot.rulesIn domain) (requirement.inDomain domain)

theorem checkDomain_eq_settled (domain : Domain) (requirement : Requirement)
    (snapshot : Snapshot) :
    checkDomain domain requirement snapshot =
      settled ((defectsIn domain requirement snapshot).map fun error => { value := error })
        { value := verdictIn domain requirement snapshot
          events := verdictEvents domain (snapshot.rulesIn domain)
            (requirement.inDomain domain) } := by
  unfold checkDomain defectsIn
  rw [rules?_eq_settled, ← List.map_append]
  cases roleGaps domain snapshot.roleAssignments ++ denyGaps domain snapshot.denyAssignments with
  | nil =>
    simp only [settled_nil, evaluate_eq_settled]
    cases (snapshot.rulesIn domain).defects (requirement.inDomain domain) <;> rfl
  | cons gap rest => rfl

/-- A domain is refused for its first defect, and before that nothing is told. -/
theorem checkDomain_eq_error_iff {domain : Domain} {requirement : Requirement}
    {snapshot : Snapshot} (refused : Logged CheckError) :
    checkDomain domain requirement snapshot = .error refused ↔
      (defectsIn domain requirement snapshot).head? = some refused.value ∧
        refused.events = [] := by
  rw [checkDomain_eq_settled, settled_silent_eq_error_iff]

/-- **A check gives the verdicts of both domains, or the first defect, those of the control domain
first.** -/
theorem check_value_eq_settled (requirement : Requirement) (snapshot : Snapshot) :
    (check requirement snapshot).value =
      settled (defectsIn .control requirement snapshot ++ defectsIn .data requirement snapshot)
        { control := verdictIn .control requirement snapshot
          data := verdictIn .data requirement snapshot } := by
  unfold check
  rw [checkDomain_eq_settled, checkDomain_eq_settled]
  cases defectsIn .control requirement snapshot with
  | nil => cases defectsIn .data requirement snapshot <;> rfl
  | cons defect rest => rfl

/-! ### Nothing is wrong -/

theorem PermissionBlock.isComplete_iff (block : PermissionBlock) :
    block.IsComplete ↔ ∀ domain, block.CompleteIn domain := by
  rw [Domain.forall_iff]
  exact and_assoc.symm

theorem PermissionBlock.forall_texts_iff (block : PermissionBlock) (holds : String → Prop) :
    (∀ text ∈ block.texts, holds text) ↔
      ∀ domain, (∀ text ∈ (block.coverage domain).actions, holds text) ∧
        ∀ text ∈ (block.coverage domain).exceptions, holds text := by
  rw [Domain.forall_iff]
  unfold PermissionBlock.texts
  rw [List.forall_mem_append, List.forall_mem_append, List.forall_mem_append, and_assoc]
  rfl

theorem Snapshot.forall_blocks_iff (snapshot : Snapshot) (holds : PermissionBlock → Prop) :
    (∀ block ∈ snapshot.blocks, holds block) ↔
      (∀ assignment ∈ snapshot.roleAssignments, ∀ block ∈ assignment.blocks, holds block) ∧
        ∀ assignment ∈ snapshot.denyAssignments, ∀ block ∈ assignment.blocks, holds block := by
  unfold Snapshot.blocks
  simp only [List.forall_mem_append, List.forall_mem_flatMap]

theorem forall_required_iff (requirement : Requirement) (holds : String → Prop) :
    (∀ action ∈ requirement.actions ++ requirement.dataActions, holds action) ↔
      ∀ domain, ∀ action ∈ requirement.inDomain domain, holds action := by
  rw [List.forall_mem_append, Domain.forall_iff]
  rfl

/-- Nothing is wrong in a domain when its lists are there and its texts well formed. -/
theorem defectsIn_eq_nil_iff (domain : Domain) (requirement : Requirement)
    (snapshot : Snapshot) :
    defectsIn domain requirement snapshot = [] ↔ AcceptableIn domain requirement snapshot := by
  unfold defectsIn
  simp only [List.append_eq_nil_iff, List.map_eq_nil_iff, roleGaps_eq_nil_iff,
    denyGaps_eq_nil_iff, defects_eq_nil_iff, Snapshot.rulesIn, DenyAssignment.denials,
    List.forall_mem_flatMap, List.forall_mem_map]
  constructor
  · rintro ⟨⟨roles, denials⟩, concrete, granting, denying⟩
    exact {
      roles := fun assignment member => (roles assignment member).1
      denials := fun assignment member => (denials assignment member).2.1
      identified := fun assignment member => (denials assignment member).1
      complete := (snapshot.forall_blocks_iff _).mpr
        ⟨fun assignment member => (roles assignment member).2,
          fun assignment member => (denials assignment member).2.2⟩
      patterns := (snapshot.forall_blocks_iff _).mpr ⟨granting, denying⟩
      concrete := concrete }
  · intro accepted
    obtain ⟨roleBlocks, denyBlocks⟩ := (snapshot.forall_blocks_iff _).mp accepted.complete
    obtain ⟨granting, denying⟩ := (snapshot.forall_blocks_iff _).mp accepted.patterns
    refine ⟨⟨fun assignment member => ?_, fun assignment member => ?_⟩,
      accepted.concrete, granting, denying⟩
    · exact ⟨accepted.roles assignment member, roleBlocks assignment member⟩
    · exact ⟨accepted.identified assignment member, accepted.denials assignment member,
        denyBlocks assignment member⟩

/-- Nothing is wrong when nothing is wrong in either domain. -/
theorem acceptable_iff (requirement : Requirement) (snapshot : Snapshot) :
    Acceptable requirement snapshot ↔ ∀ domain, AcceptableIn domain requirement snapshot := by
  constructor
  · intro accepted domain
    exact {
      roles := accepted.roles
      denials := accepted.denials
      identified := accepted.identified
      complete := fun block member =>
        block.isComplete_iff.mp (accepted.complete block member) domain
      patterns := fun block member =>
        (block.forall_texts_iff IsPattern).mp (accepted.patterns block member) domain
      concrete := (forall_required_iff requirement IsConcrete).mp accepted.concrete domain }
  · intro each
    exact {
      roles := (each .control).roles
      denials := (each .control).denials
      identified := (each .control).identified
      complete := fun block member =>
        block.isComplete_iff.mpr fun domain => (each domain).complete block member
      patterns := fun block member =>
        (block.forall_texts_iff IsPattern).mpr fun domain => (each domain).patterns block member
      concrete := (forall_required_iff requirement IsConcrete).mpr fun domain =>
        (each domain).concrete }

theorem defects_eq_nil_iff_acceptable (requirement : Requirement) (snapshot : Snapshot) :
    defectsIn .control requirement snapshot ++ defectsIn .data requirement snapshot = [] ↔
      Acceptable requirement snapshot := by
  rw [List.append_eq_nil_iff, defectsIn_eq_nil_iff, defectsIn_eq_nil_iff, acceptable_iff,
    Domain.forall_iff]

/-- What a check gives when it is carried out. -/
theorem check_value_eq_ok_iff (requirement : Requirement) (snapshot : Snapshot)
    (outcome : PermissionCheck) :
    (check requirement snapshot).value = .ok outcome ↔
      Acceptable requirement snapshot ∧
        { control := verdictIn .control requirement snapshot
          data := verdictIn .data requirement snapshot } = outcome := by
  rw [check_value_eq_settled, settled_eq_ok_iff, defects_eq_nil_iff_acceptable]

/-- **A check is carried out exactly when nothing is wrong; otherwise the error is the first
defect, in the control domain and then in the data domain: gaps of role assignments, gaps of deny
assignments, malformed texts.** -/
theorem check_accepted_iff_acceptable (requirement : Requirement) (snapshot : Snapshot) :
    ((∃ outcome, (check requirement snapshot).value = .ok outcome) ↔
      Acceptable requirement snapshot) ∧
    ∀ error, (check requirement snapshot).value = .error error ↔
      (defectsIn .control requirement snapshot ++
        defectsIn .data requirement snapshot).head? = some error := by
  constructor
  · simp only [check_value_eq_ok_iff]
    exact ⟨fun ⟨_, accepted, _⟩ => accepted, fun accepted => ⟨_, accepted, rfl⟩⟩
  · intro error
    rw [check_value_eq_settled, settled_eq_error_iff]

end AccessAudit
