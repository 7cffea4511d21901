/-
**Edits of the records.**

Whoever edits the records of a snapshot wants to know what it does to a verdict without looking at
every action again. An edit puts in one thing at one place: a record, a block of one, a pattern of a
block, or a required action. What is put in among the role assignments grants more and what is put
in among the deny assignments denies more, except that a pattern more among the exceptions of a
block takes something of its coverage away. A single pattern changes nothing for an action that it
does not name, nor in the domain it is not listed for.

* `Edit`: one thing put in at one place of the records or of what is required;
* `Effect`, `Edit.effect`: the way an edit goes;
* `Edit.Spares`: what an edit cannot have changed;
* `effect_changes`: what an edit does to what the records say;
* `spared_grants_iff`, `spared_deniedBy?_eq`: what it leaves as it is.
-/
import AccessAudit.Proofs.Coverage
import Mathlib.Data.List.Basic
import Mathlib.Data.List.InsertIdx

namespace AccessAudit

/-! ### Edits -/

/-- The two lists that a block has for each domain. -/
inductive PatternList where
  /-- The patterns that the block is about. -/
  | actions
  /-- The patterns that it leaves out. -/
  | exceptions
  deriving DecidableEq, Repr

/-- A pattern put in at a place of one of the lists. A missing list stays missing, and beyond the
end of a list there is no place. -/
def PermissionBlock.withPattern (list : PatternList) (domain : Domain) (place : Nat)
    (pattern : String) (block : PermissionBlock) : PermissionBlock :=
  let put := Option.map fun patterns : List String => patterns.insertIdx place pattern
  match list, domain with
  | .actions, .control => { block with actions := put block.actions }
  | .exceptions, .control => { block with notActions := put block.notActions }
  | .actions, .data => { block with dataActions := put block.dataActions }
  | .exceptions, .data => { block with notDataActions := put block.notDataActions }

/-- Something put in among the blocks of one record. -/
inductive BlocksEdit where
  /-- A block, at a place among the others. -/
  | block (place : Nat) (block : PermissionBlock)
  /-- A pattern, at a place of a list of the block at an index. -/
  | pattern (index : Nat) (list : PatternList) (domain : Domain) (place : Nat) (pattern : String)
  deriving DecidableEq, Repr

/-- The blocks after the edit. -/
def BlocksEdit.apply : BlocksEdit → List PermissionBlock → List PermissionBlock
  | block place new, blocks => blocks.insertIdx place new
  | pattern index list domain place text, blocks =>
    blocks.modify index (PermissionBlock.withPattern list domain place text)

/-- The record with its blocks edited. -/
def RoleAssignment.edited (edit : BlocksEdit) (assignment : RoleAssignment) : RoleAssignment :=
  { assignment with permissions := assignment.permissions.map edit.apply }

/-- The record with its blocks edited. -/
def DenyAssignment.edited (edit : BlocksEdit) (assignment : DenyAssignment) : DenyAssignment :=
  { assignment with permissions := assignment.permissions.map edit.apply }

/-- Something put in at one place of a snapshot or of a requirement. -/
inductive Edit where
  /-- A role assignment, at a place among the others. -/
  | role (place : Nat) (assignment : RoleAssignment)
  /-- Something in the role assignment at an index. -/
  | inRole (index : Nat) (edit : BlocksEdit)
  /-- A deny assignment, at a place among the others. -/
  | denial (place : Nat) (assignment : DenyAssignment)
  /-- Something in the deny assignment at an index. -/
  | inDenial (index : Nat) (edit : BlocksEdit)
  /-- A required action, at a place among the others of its domain. -/
  | required (domain : Domain) (place : Nat) (action : String)
  deriving DecidableEq, Repr

namespace Edit

/-- The snapshot after the edit. -/
def snapshot : Edit → Snapshot → Snapshot
  | role place assignment, before =>
    { before with roleAssignments := before.roleAssignments.insertIdx place assignment }
  | inRole index edit, before =>
    { before with
      roleAssignments := before.roleAssignments.modify index (RoleAssignment.edited edit) }
  | denial place assignment, before =>
    { before with denyAssignments := before.denyAssignments.insertIdx place assignment }
  | inDenial index edit, before =>
    { before with
      denyAssignments := before.denyAssignments.modify index (DenyAssignment.edited edit) }
  | required .., before => before

/-- The requirement after the edit. -/
def requirement : Edit → Requirement → Requirement
  | required .control place action, before =>
    { before with actions := before.actions.insertIdx place action }
  | required .data place action, before =>
    { before with dataActions := before.dataActions.insertIdx place action }
  | _, before => before

end Edit

/-! ### The way an edit goes -/

/-- The ways an edit can go. -/
inductive Effect where
  | grantsMore
  | grantsLess
  | deniesMore
  | deniesLess
  | requiresMore
  deriving DecidableEq, Repr

/-- The blocks cover less than before: a pattern more is left out. -/
def BlocksEdit.isNarrowing : BlocksEdit → Bool
  | pattern _ .exceptions .. => true
  | _ => false

/-- The way an edit goes. -/
def Edit.effect : Edit → Effect
  | role .. => .grantsMore
  | inRole _ edit => if edit.isNarrowing then .grantsLess else .grantsMore
  | denial .. => .deniesMore
  | inDenial _ edit => if edit.isNarrowing then .deniesLess else .deniesMore
  | required .. => .requiresMore

/-- The pattern that is put in, and the domain it is listed for. -/
def BlocksEdit.pattern? : BlocksEdit → Option (Domain × String)
  | block .. => none
  | pattern _ _ domain _ text => some (domain, text)

/-- The single pattern that is put in, and the domain it is listed for. -/
def Edit.pattern? : Edit → Option (Domain × String)
  | inRole _ edit | inDenial _ edit => edit.pattern?
  | _ => none

/-- A pattern with its domain has nothing to do with an action in a domain. -/
def IsForeign (listed : Domain × String) (domain : Domain) (action : String) : Prop :=
  domain = listed.1 → ¬ Pattern.covers listed.2 action

/-- A single pattern is put in that has nothing to do with the action in the domain. -/
def Edit.Spares (edit : Edit) (domain : Domain) (action : String) : Prop :=
  ∃ listed, edit.pattern? = some listed ∧ IsForeign listed domain action

/-! ### Items put in and items changed -/

section Items

variable {α β : Type}

/-- What is put in leaves the items that were there. -/
theorem exists_mem_insertIdx {holds : α → Prop} {items : List α} (place : Nat) (new : α)
    (held : ∃ item ∈ items, holds item) : ∃ item ∈ items.insertIdx place new, holds item := by
  obtain ⟨item, inside, holding⟩ := held
  exact ⟨item, List.subset_insertIdx items place new inside, holding⟩

/-- A change that keeps a property keeps that some item has it. -/
theorem exists_mem_modify (change : α → α) {holds : α → Prop} {items : List α}
    (held : ∃ item ∈ items, holds item) (kept : ∀ item, holds item → holds (change item))
    (index : Nat) : ∃ item ∈ items.modify index change, holds item := by
  induction items generalizing index with
  | nil => simp at held
  | cons first rest ih =>
    rw [List.exists_mem_cons_iff] at held
    cases index with
    | zero =>
      rw [List.modify_zero_cons, List.exists_mem_cons_iff]
      exact held.imp (kept first) id
    | succ index =>
      rw [List.modify_succ_cons, List.exists_mem_cons_iff]
      exact held.imp id fun later => ih later index

/-- A change that gives a property to no item gives it to none of a list. -/
theorem exists_mem_of_modify {change : α → α} {holds : α → Prop} {items : List α} {index : Nat}
    (held : ∃ item ∈ items.modify index change, holds item)
    (had : ∀ item, holds (change item) → holds item) : ∃ item ∈ items, holds item := by
  induction items generalizing index with
  | nil => simp at held
  | cons first rest ih =>
    rw [List.exists_mem_cons_iff]
    cases index with
    | zero =>
      rw [List.modify_zero_cons, List.exists_mem_cons_iff] at held
      exact held.imp (had first) id
    | succ index =>
      rw [List.modify_succ_cons, List.exists_mem_cons_iff] at held
      exact held.imp id ih

/-- A change that keeps what is read of an item keeps what is read of a list. -/
theorem map_modify_of_kept {change : α → α} {read : α → β}
    (kept : ∀ item, read (change item) = read item) (items : List α) (index : Nat) :
    (items.modify index change).map read = items.map read := by
  induction items generalizing index with
  | nil => rw [List.modify_nil]
  | cons first rest ih =>
    cases index with
    | zero => rw [List.modify_zero_cons, List.map_cons, List.map_cons, kept]
    | succ index => rw [List.modify_succ_cons, List.map_cons, List.map_cons, ih]

end Items

/-! ### One block -/

/-- A list of a block, empty when it is missing, after a pattern was put in. -/
def listWith (place : Nat) (pattern : String) (patterns? : Option (List String)) : List String :=
  (patterns?.map fun patterns => patterns.insertIdx place pattern).getD []

theorem subset_listWith (place : Nat) (pattern : String) (patterns? : Option (List String)) :
    patterns?.getD [] ⊆ listWith place pattern patterns? := by
  cases patterns? with
  | none => exact List.Subset.refl []
  | some patterns => exact List.subset_insertIdx patterns place pattern

theorem listWith_subset (place : Nat) (pattern : String) (patterns? : Option (List String)) :
    listWith place pattern patterns? ⊆ pattern :: patterns?.getD [] := by
  cases patterns? with
  | none => exact List.nil_subset _
  | some patterns => exact List.insertIdx_subset_cons place pattern patterns

theorem coverage_withPattern_actions (domain : Domain) (place : Nat) (pattern : String)
    (block : PermissionBlock) :
    (block.withPattern .actions domain place pattern).coverage domain =
      { actions := listWith place pattern (block.actionsIn domain)
        exceptions := (block.coverage domain).exceptions } := by
  cases domain <;> rfl

theorem coverage_withPattern_exceptions (domain : Domain) (place : Nat) (pattern : String)
    (block : PermissionBlock) :
    (block.withPattern .exceptions domain place pattern).coverage domain =
      { actions := (block.coverage domain).actions
        exceptions := listWith place pattern (block.exceptionsIn domain) } := by
  cases domain <;> rfl

/-- A pattern changes nothing in the domain it is not listed for. -/
theorem coverage_withPattern_of_ne (list : PatternList) {listed domain : Domain}
    (other : domain ≠ listed) (place : Nat) (pattern : String) (block : PermissionBlock) :
    (block.withPattern list listed place pattern).coverage domain = block.coverage domain := by
  cases list <;> cases listed <;> cases domain <;> first | rfl | exact absurd rfl other

section Coverage

variable {coverage coverage' : Coverage} {action : String}

/-- A coverage with more patterns and fewer exceptions covers more. -/
theorem Coverage.Covers.of_subset (covered : coverage.Covers action)
    (patterns : coverage.actions ⊆ coverage'.actions)
    (exceptions : coverage'.exceptions ⊆ coverage.exceptions) : coverage'.Covers action := by
  obtain ⟨⟨pattern, inside, names⟩, spared⟩ := covered
  exact ⟨⟨pattern, patterns inside, names⟩, fun other member => spared other (exceptions member)⟩

/-- A coverage with at most one pattern more, which does not name the action, covers it no more
than before. -/
theorem Coverage.Covers.of_subset_cons {pattern : String} (covered : coverage'.Covers action)
    (foreign : ¬ Pattern.covers pattern action)
    (patterns : coverage'.actions ⊆ pattern :: coverage.actions)
    (exceptions : coverage.exceptions ⊆ pattern :: coverage'.exceptions) :
    coverage.Covers action := by
  obtain ⟨⟨found, inside, names⟩, spared⟩ := covered
  refine ⟨⟨found, ?_, names⟩, fun other member named => ?_⟩
  · refine (List.mem_cons.mp (patterns inside)).resolve_left ?_
    rintro rfl
    exact foreign names
  · rcases List.mem_cons.mp (exceptions member) with rfl | excepted
    · exact foreign named
    · exact spared other excepted named

end Coverage

section Block

variable {listed domain : Domain} {action : String} {block : PermissionBlock}

/-- With one pattern more a block covers what it covered. -/
theorem covers_withPattern_actions (place : Nat) (pattern : String)
    (covered : (block.coverage domain).Covers action) :
    ((block.withPattern .actions listed place pattern).coverage domain).Covers action := by
  by_cases same : domain = listed
  · subst same
    rw [coverage_withPattern_actions]
    exact covered.of_subset (subset_listWith _ _ _) (List.Subset.refl _)
  · rw [coverage_withPattern_of_ne _ same]
    exact covered

/-- With one exception more a block covers nothing that it did not cover. -/
theorem covers_of_withPattern_exceptions (place : Nat) (pattern : String)
    (covered :
      ((block.withPattern .exceptions listed place pattern).coverage domain).Covers action) :
    (block.coverage domain).Covers action := by
  by_cases same : domain = listed
  · subst same
    rw [coverage_withPattern_exceptions] at covered
    exact covered.of_subset (List.Subset.refl _) (subset_listWith _ _ _)
  · rw [coverage_withPattern_of_ne _ same] at covered
    exact covered

/-- A pattern that has nothing to do with an action makes no difference to it. -/
theorem covers_withPattern_iff (list : PatternList) (place : Nat) {pattern : String}
    (foreign : IsForeign (listed, pattern) domain action) :
    ((block.withPattern list listed place pattern).coverage domain).Covers action ↔
      (block.coverage domain).Covers action := by
  by_cases same : domain = listed
  · have unnamed : ¬ Pattern.covers pattern action := foreign same
    subst same
    cases list with
    | actions =>
      refine ⟨fun covered => ?_, covers_withPattern_actions place pattern⟩
      rw [coverage_withPattern_actions] at covered
      exact covered.of_subset_cons unnamed (listWith_subset _ _ _)
        (List.subset_cons_self _ _)
    | exceptions =>
      refine ⟨covers_of_withPattern_exceptions place pattern, fun covered => ?_⟩
      rw [coverage_withPattern_exceptions]
      exact covered.of_subset_cons unnamed (List.subset_cons_self _ _)
        (listWith_subset _ _ _)
  · rw [coverage_withPattern_of_ne _ same]

end Block

/-! ### One record -/

namespace BlocksEdit

variable {edit : BlocksEdit} {domain : Domain} {action : String}
  {permissions : Option (List PermissionBlock)}

/-- The blocks of a record after the edit; where they are missing there are none. -/
def blocksOf (edit : BlocksEdit) (permissions : Option (List PermissionBlock)) :
    List PermissionBlock :=
  (permissions.map edit.apply).getD []

/-- Unless an exception is put in, what the blocks covered is covered still. -/
theorem covered_of_widening (wide : edit.isNarrowing = false)
    (covered : ∃ block ∈ permissions.getD [], (block.coverage domain).Covers action) :
    ∃ block ∈ edit.blocksOf permissions, (block.coverage domain).Covers action := by
  cases permissions with
  | none => exact covered
  | some blocks =>
    cases edit with
    | block place new => exact exists_mem_insertIdx place new covered
    | pattern index list listed place text =>
      cases list with
      | actions =>
        show ∃ block ∈ blocks.modify index _, _
        exact exists_mem_modify _ covered (fun _ => covers_withPattern_actions place text) index
      | exceptions => cases wide

/-- Where an exception is put in, nothing is covered that was not. -/
theorem covered_of_narrowing (narrow : edit.isNarrowing = true)
    (covered : ∃ block ∈ edit.blocksOf permissions, (block.coverage domain).Covers action) :
    ∃ block ∈ permissions.getD [], (block.coverage domain).Covers action := by
  cases permissions with
  | none => exact covered
  | some blocks =>
    cases edit with
    | block place new => cases narrow
    | pattern index list listed place text =>
      cases list with
      | actions => cases narrow
      | exceptions =>
        exact exists_mem_of_modify covered fun _ => covers_of_withPattern_exceptions place text

/-- A pattern that has nothing to do with an action makes no difference to it. -/
theorem covered_blocksOf_iff {listed : Domain × String} (single : edit.pattern? = some listed)
    (foreign : IsForeign listed domain action) :
    (∃ block ∈ edit.blocksOf permissions, (block.coverage domain).Covers action) ↔
      ∃ block ∈ permissions.getD [], (block.coverage domain).Covers action := by
  cases permissions with
  | none => exact Iff.rfl
  | some blocks =>
    cases edit with
    | block place new => cases single
    | pattern index list own place text =>
      cases single
      constructor
      · exact fun covered =>
          exists_mem_of_modify covered fun _ => (covers_withPattern_iff list place foreign).mp
      · exact fun covered => exists_mem_modify _ covered
          (fun _ => (covers_withPattern_iff list place foreign).mpr) index

/-- What a pattern does not change in a block it does not change in a record. -/
theorem map_blocksOf_eq {β : Type} {read : PermissionBlock → β} {listed : Domain × String}
    (single : edit.pattern? = some listed)
    (kept : ∀ list place block,
      read (PermissionBlock.withPattern list listed.1 place listed.2 block) = read block) :
    (edit.blocksOf permissions).map read = (permissions.getD []).map read := by
  cases permissions with
  | none => rfl
  | some blocks =>
    cases edit with
    | block place new => cases single
    | pattern index list own place text =>
      cases single
      exact map_modify_of_kept (kept list place) blocks index

end BlocksEdit

/-! ### What the records say after an edit -/

/-- What the way means for the records before and those after. -/
def Effect.Changes (before after : Snapshot) : Effect → Prop
  | grantsMore => (∀ domain action, before.Grants domain action → after.Grants domain action) ∧
      after.denyAssignments = before.denyAssignments
  | grantsLess => (∀ domain action, after.Grants domain action → before.Grants domain action) ∧
      after.denyAssignments = before.denyAssignments
  | deniesMore => (∀ domain action, before.Denies domain action → after.Denies domain action) ∧
      after.roleAssignments = before.roleAssignments
  | deniesLess => (∀ domain action, after.Denies domain action → before.Denies domain action) ∧
      after.roleAssignments = before.roleAssignments
  | requiresMore => after = before

section Snapshot

variable (edit : Edit) (snapshot : Snapshot) {domain : Domain} {action : String}

/-- **An edit changes what the records say one way, and leaves the records of the other kind.** -/
theorem effect_changes : edit.effect.Changes snapshot (edit.snapshot snapshot) := by
  cases edit with
  | role place assignment =>
    exact ⟨fun domain action => exists_mem_insertIdx place assignment, rfl⟩
  | inRole index change =>
    cases narrow : change.isNarrowing with
    | true =>
      rw [Edit.effect, narrow, if_pos rfl]
      refine ⟨fun domain action granted => ?_, rfl⟩
      exact exists_mem_of_modify granted fun _ => change.covered_of_narrowing narrow
    | false =>
      rw [Edit.effect, narrow, if_neg Bool.false_ne_true]
      refine ⟨fun domain action granted => ?_, rfl⟩
      exact exists_mem_modify (RoleAssignment.edited change) granted
        (fun _ => change.covered_of_widening narrow) index
  | denial place assignment =>
    exact ⟨fun domain action => exists_mem_insertIdx place assignment, rfl⟩
  | inDenial index change =>
    cases narrow : change.isNarrowing with
    | true =>
      rw [Edit.effect, narrow, if_pos rfl]
      refine ⟨fun domain action denied => ?_, rfl⟩
      exact exists_mem_of_modify denied fun _ => change.covered_of_narrowing narrow
    | false =>
      rw [Edit.effect, narrow, if_neg Bool.false_ne_true]
      refine ⟨fun domain action denied => ?_, rfl⟩
      exact exists_mem_modify (DenyAssignment.edited change) denied
        (fun _ => change.covered_of_widening narrow) index
  | required => rfl

/-- An edit asks for everything that was asked for. -/
theorem inDomain_subset_requirement (requirement : Requirement) (domain : Domain) :
    requirement.inDomain domain ⊆ (edit.requirement requirement).inDomain domain := by
  cases edit with
  | role | inRole | denial | inDenial => exact List.Subset.refl _
  | required own place action =>
    cases own <;> cases domain <;>
      first | exact List.Subset.refl _ | exact List.subset_insertIdx _ place action

/-- An edit of the records asks for nothing more. -/
theorem requirement_eq_of_effect (requirement : Requirement)
    (records : edit.effect ≠ .requiresMore) : edit.requirement requirement = requirement := by
  cases edit with
  | role | inRole | denial | inDenial => rfl
  | required => exact absurd rfl records

variable {edit}

/-- What a pattern does not name is granted or not as before. -/
theorem spared_grants_iff (spared : edit.Spares domain action) :
    (edit.snapshot snapshot).Grants domain action ↔ snapshot.Grants domain action := by
  obtain ⟨listed, single, foreign⟩ := spared
  cases edit with
  | role | denial | required => cases single
  | inDenial => exact Iff.rfl
  | inRole index change =>
    constructor
    · exact fun granted => exists_mem_of_modify granted fun _ =>
        (change.covered_blocksOf_iff single foreign).mp
    · exact fun granted => exists_mem_modify (RoleAssignment.edited change) granted
        (fun _ => (change.covered_blocksOf_iff single foreign).mpr) index

/-- A search from the end sees no more of a list than what it reads of each item. -/
theorem findSome?_reverse_of_map_eq {α β : Type} {read : α → Option β} {items items' : List α}
    (same : items.map read = items'.map read) :
    items.reverse.findSome? read = items'.reverse.findSome? read := by
  have found := congrArg (fun hits : List (Option β) => hits.reverse.findSome? id) same
  simpa only [← List.map_reverse, List.findSome?_map, Function.id_comp] using found

/-- What a pattern does not name is denied or not as before, and under the same identifier. -/
theorem spared_deniedBy?_eq (spared : edit.Spares domain action) :
    (review ((edit.snapshot snapshot).rulesIn domain) action).deniedBy? =
      (review (snapshot.rulesIn domain) action).deniedBy? := by
  obtain ⟨listed, single, foreign⟩ := spared
  rw [review_deniedBy?_eq, review_deniedBy?_eq]
  cases edit with
  | role | denial | required => cases single
  | inRole => rfl
  | inDenial index change =>
    refine findSome?_reverse_of_map_eq ?_
    show ((snapshot.denyAssignments.modify index (DenyAssignment.edited change)).flatMap
        (DenyAssignment.denials domain)).map (Denial.idFor? action) =
      (snapshot.denyAssignments.flatMap (DenyAssignment.denials domain)).map
        (Denial.idFor? action)
    rw [List.map_flatMap, List.map_flatMap, List.flatMap_def, List.flatMap_def]
    refine congrArg List.flatten (map_modify_of_kept (fun assignment => ?_) _ index)
    unfold DenyAssignment.denials
    rw [List.map_map, List.map_map]
    refine BlocksEdit.map_blocksOf_eq single fun list place block => ?_
    simp only [Function.comp_apply, Denial.idFor?, covers_withPattern_iff list place foreign]

end Snapshot

end AccessAudit
