/-
**Snapshots that have lost a key.**

An export that is cut short leaves a document in which a key is missing. Nearly every key of the
rules is asked for: a record without its blocks, a deny assignment without its identifier and a
block without one of its lists are incomplete, however deep they stand, and no check is carried out
on an incomplete snapshot; without the role assignments nothing is granted. So whatever the document
said before, nothing that is required passes afterwards.

The deny assignments as a whole are the one exception. A document without them is read as one that
has none, and a check may pass that was denied before.

* `Json.LosesKey`, `KeyLost`: an object loses a key, and one of those that are asked for;
* `Requirement.PassesOn`: a document is read and the check against it passes;
* `not_passesOn_of_keyLost`: no check passes on a document that has lost such a key;
* `ofJson?_of_losesDenials`: what a document without its deny assignments is read as.
-/
import AccessAudit.Proofs.ExactVerdict
import AccessAudit.Proofs.RecordRoundTrip

namespace AccessAudit

/-! ### Lost keys -/

namespace Json

/-- An object loses a key, with whatever it holds under it. -/
inductive LosesKey (key : String) : Json → Json → Prop
  | object {members : List (String × Json)} :
      LosesKey key (object members) (object (members.filter fun member => member.1 != key))

section Losing

variable {key other : String} {names : List String} {json json' : Json}
  {members fields : List (String × Json)}

theorem not_mem_of_losesKey (lost : LosesKey key json json')
    (fit : fieldsOf? names json' = some fields) : key ∉ fields.map Prod.fst := by
  cases lost with
  | object =>
    obtain rfl := Option.some.inj fit
    rw [List.mem_map]
    rintro ⟨member, kept, rfl⟩
    simp at kept

/-- What was held under a lost key, null or not, reads as missing. -/
theorem not_isSome_of_losesKey {α : Type} {read? : Json → Option α} {found? : Option α}
    (lost : LosesKey key json json') (fit : fieldsOf? names json' = some fields)
    (read : optionalField? read? key fields = some found?) : ¬ found?.isSome := by
  rw [optionalField?_of_absent (not_mem_of_losesKey lost fit)] at read
  rw [← Option.some.inj read]
  exact Bool.false_ne_true

/-- The other keys are found as before. -/
theorem field?_filter_of_ne (apart : other ≠ key) (members : List (String × Json)) :
    field? other (members.filter fun member => member.1 != key) = field? other members := by
  unfold field?
  rw [List.filter_filter]
  congr 1
  refine List.filter_congr fun member _ => ?_
  by_cases same : member.1 = other
  · simp [same, apart]
  · simp [same]

end Losing

end Json

/-- The keys that a check asks for. -/
def RecordKind.asked : RecordKind → List String
  | block => ["actions", "notActions", "dataActions", "notDataActions"]
  | roleAssignment => ["permissions"]
  | denyAssignment => ["id", "permissions"]
  | snapshot => ["roleAssignments"]
  | requirement | logging | check | config => []

/-- A record loses a key that a check asks for. -/
def KeyLost (kind : RecordKind) (json json' : Json) : Prop :=
  ∃ key ∈ kind.asked, Json.LosesKey key json json'

/-! ### Incomplete records -/

/-- The assignment has its blocks, and they have their lists. -/
def RoleAssignment.IsComplete (assignment : RoleAssignment) : Prop :=
  assignment.permissions.isSome ∧ ∀ block ∈ assignment.blocks, block.IsComplete

/-- The assignment has its identifier and its blocks, and they have their lists. -/
def DenyAssignment.IsComplete (assignment : DenyAssignment) : Prop :=
  assignment.id.isSome ∧ assignment.permissions.isSome ∧
    ∀ block ∈ assignment.blocks, block.IsComplete

namespace Acceptable

variable {requirement : Requirement} {snapshot : Snapshot}

theorem role_isComplete (accepted : Acceptable requirement snapshot) {assignment : RoleAssignment}
    (member : assignment ∈ snapshot.roleAssignments) : assignment.IsComplete :=
  ⟨accepted.roles assignment member,
    ((snapshot.forall_blocks_iff _).mp accepted.complete).1 assignment member⟩

theorem denial_isComplete (accepted : Acceptable requirement snapshot)
    {assignment : DenyAssignment} (member : assignment ∈ snapshot.denyAssignments) :
    assignment.IsComplete :=
  ⟨accepted.identified assignment member, accepted.denials assignment member,
    ((snapshot.forall_blocks_iff _).mp accepted.complete).2 assignment member⟩

end Acceptable

section Incomplete

variable {json json' : Json}

theorem PermissionBlock.not_isComplete_of_keyLost {block : PermissionBlock}
    (edited : EditedAt KeyLost .block json json') (read : ofJson? json' = some block) :
    ¬ block.IsComplete := by
  obtain ⟨fields, fit, actions, notActions, dataActions, notDataActions⟩ :=
    ofJson?_eq_some_iff.mp read
  cases edited with
  | own edited =>
    obtain ⟨key, asked, lost⟩ := edited
    rintro ⟨hasActions, hasNotActions, hasDataActions, hasNotDataActions⟩
    simp only [RecordKind.asked, List.mem_cons, List.not_mem_nil, or_false] at asked
    rcases asked with rfl | rfl | rfl | rfl
    · exact Json.not_isSome_of_losesKey lost fit actions hasActions
    · exact Json.not_isSome_of_losesKey lost fit notActions hasNotActions
    · exact Json.not_isSome_of_losesKey lost fit dataActions hasDataActions
    · exact Json.not_isSome_of_losesKey lost fit notDataActions hasNotDataActions

theorem RoleAssignment.not_isComplete_of_keyLost {assignment : RoleAssignment}
    (edited : EditedAt KeyLost .roleAssignment json json')
    (read : ofJson? json' = some assignment) : ¬ assignment.IsComplete := by
  obtain ⟨fields, fit, _, _, _, permissions⟩ := ofJson?_eq_some_iff.mp read
  rintro ⟨hasPermissions, complete⟩
  cases edited with
  | own edited =>
    obtain ⟨key, asked, lost⟩ := edited
    obtain rfl := List.mem_singleton.mp asked
    exact Json.not_isSome_of_losesKey lost fit permissions hasPermissions
  | roleBlock edited =>
    obtain ⟨block, inside, incomplete⟩ := Json.exists_mem_of_optionalField? edited fit permissions
      fun _ _ _ change read => PermissionBlock.not_isComplete_of_keyLost change read
    exact incomplete (complete block inside)

theorem DenyAssignment.not_isComplete_of_keyLost {assignment : DenyAssignment}
    (edited : EditedAt KeyLost .denyAssignment json json')
    (read : ofJson? json' = some assignment) : ¬ assignment.IsComplete := by
  obtain ⟨fields, fit, id, _, permissions⟩ := ofJson?_eq_some_iff.mp read
  rintro ⟨hasId, hasPermissions, complete⟩
  cases edited with
  | own edited =>
    obtain ⟨key, asked, lost⟩ := edited
    rcases List.mem_pair.mp asked with rfl | rfl
    · exact Json.not_isSome_of_losesKey lost fit id hasId
    · exact Json.not_isSome_of_losesKey lost fit permissions hasPermissions
  | denyBlock edited =>
    obtain ⟨block, inside, incomplete⟩ := Json.exists_mem_of_optionalField? edited fit permissions
      fun _ _ _ change read => PermissionBlock.not_isComplete_of_keyLost change read
    exact incomplete (complete block inside)

end Incomplete

/-! ### Checks against what is left -/

/-- The document is read as a snapshot, and the check against it passes. -/
def Requirement.PassesOn (requirement : Requirement) (json : Json) : Prop :=
  ∃ snapshot outcome, Snapshot.ofJson? json = some snapshot ∧
    (check requirement snapshot).value = .ok outcome ∧ outcome.passed

section Passing

variable {requirement : Requirement} {json json' : Json} {snapshot : Snapshot}

/-- When a check passes, every required action is granted. -/
theorem Requirement.PassesOn.grants (passes : requirement.PassesOn json)
    (read : Snapshot.ofJson? json = some snapshot) :
    Acceptable requirement snapshot ∧
      ∀ domain, ∀ action ∈ requirement.inDomain domain, snapshot.Grants domain action := by
  obtain ⟨other, outcome, read', carriedOut, passed⟩ := passes
  obtain rfl := Option.some.inj (read'.symm.trans read)
  exact ⟨acceptable_of_check carriedOut, fun domain action asked =>
    ((passed_iff_permitted carriedOut).mp passed domain action asked).1⟩

/-- Some action is required in one of the domains. -/
theorem exists_inDomain_of_ne_nil
    (requires : requirement.actions ++ requirement.dataActions ≠ []) :
    ∃ domain action, action ∈ requirement.inDomain domain := by
  obtain ⟨action, asked⟩ := List.exists_mem_of_ne_nil _ requires
  rcases List.mem_append.mp asked with asked | asked
  · exact ⟨.control, action, asked⟩
  · exact ⟨.data, action, asked⟩

/-- **Nothing that is required passes on a document that has lost a key that is asked for.** -/
theorem not_passesOn_of_keyLost
    (requires : requirement.actions ++ requirement.dataActions ≠ [])
    (edited : EditedAt KeyLost .snapshot json json') : ¬ requirement.PassesOn json' := by
  intro passes
  have ⟨snapshot, _, read, _⟩ := passes
  obtain ⟨accepted, granted⟩ := passes.grants read
  obtain ⟨fields, fit, roles, denials⟩ := Snapshot.ofJson?_eq_some_iff.mp read
  cases edited with
  | own edited =>
    obtain ⟨key, asked, lost⟩ := edited
    obtain rfl := List.mem_singleton.mp asked
    rw [Json.listField?_of_absent (Json.not_mem_of_losesKey lost fit)] at roles
    -- this document is not refused: what fails is the first action that is required
    obtain ⟨domain, action, asked⟩ := exists_inDomain_of_ne_nil requires
    obtain ⟨assignment, inside, _⟩ := granted domain action asked
    rw [← Option.some.inj roles] at inside
    cases inside
  | roleAssignment edited =>
    obtain ⟨assignment, inside, incomplete⟩ := Json.exists_mem_of_listField? edited fit roles
      fun _ _ _ change read => RoleAssignment.not_isComplete_of_keyLost change read
    exact incomplete (accepted.role_isComplete inside)
  | denyAssignment edited =>
    obtain ⟨assignment, inside, incomplete⟩ := Json.exists_mem_of_listField? edited fit denials
      fun _ _ _ change read => DenyAssignment.not_isComplete_of_keyLost change read
    exact incomplete (accepted.denial_isComplete inside)

/-- **A document without its deny assignments is read as one that has none.** -/
theorem ofJson?_of_losesDenials (read : Snapshot.ofJson? json = some snapshot)
    (lost : Json.LosesKey "denyAssignments" json json') :
    Snapshot.ofJson? json' = some { snapshot with denyAssignments := [] } := by
  obtain ⟨fields, fit, roles, _⟩ := Snapshot.ofJson?_eq_some_iff.mp read
  have denials : ∀ fields', Json.fieldsOf? RecordKind.snapshot.fields json' = some fields' →
      Json.listField? (Json.listOf? DenyAssignment.ofJson?) "denyAssignments" fields' = some [] :=
    fun _ fit' => Json.listField?_of_absent (Json.not_mem_of_losesKey lost fit')
  cases lost with
  | object =>
    obtain rfl := Option.some.inj fit
    refine Snapshot.ofJson?_eq_some_iff.mpr ⟨_, rfl, ?_, denials _ rfl⟩
    rw [Json.listField?_eq, Json.field?_filter_of_ne (by decide), ← Json.listField?_eq, roles]

/-- **Losing a key never makes a check pass, unless it is that of the deny assignments.** On a
document that has lost any other key, at whatever depth, nothing that is required passes. Without
its deny assignments a document is read as the same snapshot with none, and what passes then is
granted by what the document held before. -/
theorem lost_keys_pass_nothing_but_denied
    (requires : requirement.actions ++ requirement.dataActions ≠ [])
    (read : Snapshot.ofJson? json = some snapshot) :
    (∀ json', EditedAt KeyLost .snapshot json json' → ¬ requirement.PassesOn json') ∧
    ∀ json', Json.LosesKey "denyAssignments" json json' →
      Snapshot.ofJson? json' = some { snapshot with denyAssignments := [] } ∧
      (requirement.PassesOn json' →
        ∀ domain, ∀ action ∈ requirement.inDomain domain, snapshot.Grants domain action) := by
  refine ⟨fun json' edited => not_passesOn_of_keyLost requires edited, fun json' lost => ?_⟩
  have read' := ofJson?_of_losesDenials read lost
  exact ⟨read', fun passes => (passes.grants read').2⟩

end Passing

/-! ### A lock -/

def everyAction : PermissionBlock where
  actions := some ["*"]
  notActions := some []
  dataActions := some []
  notDataActions := some []

/-- Whatever the role grants is denied by a lock. -/
def lockedSnapshot : Snapshot where
  roleAssignments := [{ permissions := some [everyAction] }]
  denyAssignments := [{ id := some "lock", permissions := some [everyAction] }]

def readRequirement : Requirement where
  actions := ["Vault/read"]

/-- The role of the locked snapshot, in JSON. -/
def rolesJson : Json :=
  .array (lockedSnapshot.roleAssignments.map RoleAssignment.toJson)

/-- The locked snapshot in JSON, its lock without an identifier. -/
def namelessLockJson : Json :=
  .object [("roleAssignments", rolesJson),
    ("denyAssignments", .array [.object [("permissions", .array [everyAction.toJson])]])]

/-- The locked snapshot in JSON, its lock lost. -/
def unlockedJson : Json :=
  .object [("roleAssignments", rolesJson)]

/-- With the identifier of the lock lost, nothing passes. -/
theorem nameless_lock_passes_nothing :
    readRequirement.actions ++ readRequirement.dataActions ≠ [] ∧
      Snapshot.ofJson? lockedSnapshot.toJson = some lockedSnapshot ∧
      EditedAt KeyLost .snapshot lockedSnapshot.toJson namelessLockJson ∧
      ¬ readRequirement.PassesOn namelessLockJson := by
  have requires : readRequirement.actions ++ readRequirement.dataActions ≠ [] := nofun
  have read := Snapshot.ofJson?_toJson lockedSnapshot
  have lost : KeyLost .denyAssignment
      (.object [("id", .string "lock"), ("permissions", .array [everyAction.toJson])])
      (.object [("permissions", .array [everyAction.toJson])]) :=
    ⟨"id", by decide, .object⟩
  have edited : EditedAt KeyLost .snapshot lockedSnapshot.toJson namelessLockJson :=
    .denyAssignment <| @Json.FieldChanged.member RecordKind.snapshot.fields "denyAssignments" _
      [("roleAssignments", rolesJson)] [] _ _ (@Json.ItemChanged.item _ [] [] _ _ (.own lost))
  exact ⟨requires, read, edited,
    (lost_keys_pass_nothing_but_denied requires read).1 _ edited⟩

/-- **With the lock lost altogether, what it denied passes.** -/
theorem lost_lock_lets_pass :
    readRequirement.actions ++ readRequirement.dataActions ≠ [] ∧
      Snapshot.ofJson? lockedSnapshot.toJson = some lockedSnapshot ∧
      ¬ readRequirement.PassesOn lockedSnapshot.toJson ∧
      Json.LosesKey "denyAssignments" lockedSnapshot.toJson unlockedJson ∧
      readRequirement.PassesOn unlockedJson := by
  have read := Snapshot.ofJson?_toJson lockedSnapshot
  have lost : Json.LosesKey "denyAssignments" lockedSnapshot.toJson unlockedJson := .object
  have left := ofJson?_of_losesDenials read lost
  refine ⟨nofun, read, ?_, lost, _, _, left, rfl, rfl⟩
  rintro ⟨snapshot, outcome, read', carriedOut, passed⟩
  obtain rfl := Option.some.inj (read.symm.trans read')
  have struck : (check readRequirement lockedSnapshot).value = .ok
      { control := .ofEntries [("Vault/read", "lock")] [], data := .ofEntries [] [] } := rfl
  obtain rfl := Except.ok.inj (struck.symm.trans carriedOut)
  cases passed

end AccessAudit
