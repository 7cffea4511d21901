/-
**What the records of a snapshot say about an action.**

A permission block covers an action in a domain when one of its patterns there names the action and
none of its own exceptions there does. From that the records say everything by themselves, without
rules made of them: an action is granted by a block of some role assignment, denied by a block of
some deny assignment, and denied last by the deny assignment whose block is the last to cover it.

* `Coverage.Covers`: what a block covers in a domain;
* `Snapshot.Grants`, `Snapshot.Denies`, `Snapshot.LastDenial`: what the records say;
* `Snapshot.rulesIn`: the rules of a domain, one for each block;
* `review_isGranted_iff`, `review_isDenied_iff`: what any rules say about an action;
* `rulesIn_isGranted_iff`, `rulesIn_isDenied_iff`, `rulesIn_deniedBy?_eq_some_iff`: by the rules of
  a snapshot a review says what its records say.
-/
import AccessAudit.Verdict
import Mathlib.Logic.Basic

namespace AccessAudit

/-! ### What a block covers -/

/-- One of the patterns names the action, and none of the exceptions does. -/
def Coverage.Covers (coverage : Coverage) (action : String) : Prop :=
  (∃ pattern ∈ coverage.actions, Pattern.covers pattern action) ∧
    ∀ pattern ∈ coverage.exceptions, ¬ Pattern.covers pattern action

instance (coverage : Coverage) (action : String) : Decidable (coverage.Covers action) :=
  inferInstanceAs (Decidable (_ ∧ _))

/-- A coverage has a pattern to tell of exactly when it covers the action. -/
theorem Coverage.via?_isSome_iff (coverage : Coverage) (action : String) :
    (coverage.via? action).isSome ↔ coverage.Covers action := by
  unfold Coverage.via? Coverage.Covers Pattern.coversAny Pattern.firstCovering?
  by_cases excepted : coverage.exceptions.any (Pattern.covers · action)
  · rw [if_pos excepted]
    obtain ⟨pattern, inside, names⟩ := List.any_eq_true.mp excepted
    exact iff_of_false (by simp) fun covered => covered.2 pattern inside names
  · rw [if_neg excepted, List.find?_isSome]
    refine ⟨fun found => ⟨found, fun pattern inside names => excepted ?_⟩, fun covered => covered.1⟩
    exact List.any_eq_true.mpr ⟨pattern, inside, names⟩

theorem Coverage.via?_eq_none_iff (coverage : Coverage) (action : String) :
    coverage.via? action = none ↔ ¬ coverage.Covers action := by
  rw [← coverage.via?_isSome_iff, Option.not_isSome_iff_eq_none]

/-! ### What the records say -/

/-- What a block covers in a domain less what it excepts there. -/
def PermissionBlock.coverage (domain : Domain) (block : PermissionBlock) : Coverage where
  actions := (block.actionsIn domain).getD []
  exceptions := (block.exceptionsIn domain).getD []

/-- The permission blocks of a role assignment. -/
def RoleAssignment.blocks (assignment : RoleAssignment) : List PermissionBlock :=
  assignment.permissions.getD []

/-- The permission blocks of a deny assignment. -/
def DenyAssignment.blocks (assignment : DenyAssignment) : List PermissionBlock :=
  assignment.permissions.getD []

namespace Snapshot

/-- A block of some role assignment covers the action. -/
def Grants (snapshot : Snapshot) (domain : Domain) (action : String) : Prop :=
  ∃ assignment ∈ snapshot.roleAssignments, ∃ block ∈ assignment.blocks,
    (block.coverage domain).Covers action

/-- A block of some deny assignment covers the action. -/
def Denies (snapshot : Snapshot) (domain : Domain) (action : String) : Prop :=
  ∃ assignment ∈ snapshot.denyAssignments, ∃ block ∈ assignment.blocks,
    (block.coverage domain).Covers action

/-- The deny assignment of this identifier owns the last block that covers the action: none of its
later blocks does, and no block of a later deny assignment. -/
def LastDenial (snapshot : Snapshot) (domain : Domain) (action id : String) : Prop :=
  ∃ before assignment after, snapshot.denyAssignments = before ++ assignment :: after ∧
    assignment.id = some id ∧
    (∃ earlier block later, assignment.blocks = earlier ++ block :: later ∧
      (block.coverage domain).Covers action ∧
      ∀ other ∈ later, ¬ (other.coverage domain).Covers action) ∧
    ∀ other ∈ after, ∀ block ∈ other.blocks, ¬ (block.coverage domain).Covers action

instance (snapshot : Snapshot) (domain : Domain) (action : String) :
    Decidable (snapshot.Grants domain action) :=
  inferInstanceAs (Decidable (∃ assignment ∈ _, _))

instance (snapshot : Snapshot) (domain : Domain) (action : String) :
    Decidable (snapshot.Denies domain action) :=
  inferInstanceAs (Decidable (∃ assignment ∈ _, _))

end Snapshot

/-! ### The rules of a domain -/

/-- One denial for each block, under the identifier of the record. -/
def DenyAssignment.denials (domain : Domain) (assignment : DenyAssignment) : List Denial :=
  assignment.blocks.map fun block =>
    { id := assignment.id.getD "", coverage := block.coverage domain }

/-- The rules of a domain, one for each block, in the order of the records and of their blocks. -/
def Snapshot.rulesIn (domain : Domain) (snapshot : Snapshot) : RuleSet where
  grants := snapshot.roleAssignments.flatMap fun assignment =>
    assignment.blocks.map (PermissionBlock.coverage domain)
  denials := snapshot.denyAssignments.flatMap (DenyAssignment.denials domain)

/-! ### The review of an action -/

section Search

variable {α β γ : Type}

/-- Something holds of one of the parts laid end to end when it holds of a part of some item. -/
theorem exists_mem_flatMap_map_iff (items : List α) (parts : α → List β) (f : α → β → γ)
    (holds : γ → Prop) :
    (∃ found ∈ items.flatMap fun item => (parts item).map (f item), holds found) ↔
      ∃ item ∈ items, ∃ part ∈ parts item, holds (f item part) := by
  simp only [List.mem_flatMap, List.mem_map]
  constructor
  · rintro ⟨_, ⟨item, member, part, inside, rfl⟩, held⟩
    exact ⟨item, member, part, inside, held⟩
  · rintro ⟨item, member, part, inside, held⟩
    exact ⟨_, ⟨item, member, part, inside, rfl⟩, held⟩

/-- A search through lists laid end to end goes through one after the other. -/
theorem findSome?_flatMap (items : List α) (parts : α → List β) (f : β → Option γ) :
    (items.flatMap parts).findSome? f = items.findSome? fun item => (parts item).findSome? f := by
  induction items with
  | nil => rfl
  | cons item rest ih =>
    rw [List.flatMap_cons, List.findSome?_append, ih, List.findSome?_cons]
    cases (parts item).findSome? f <;> rfl

/-- A search from the end finds the last hit. -/
theorem findSome?_reverse_eq_some_iff (items : List α) (f : α → Option β) (hit : β) :
    items.reverse.findSome? f = some hit ↔
      ∃ before item after, items = before ++ item :: after ∧ f item = some hit ∧
        ∀ other ∈ after, f other = none := by
  rw [List.findSome?_eq_some_iff]
  constructor
  · rintro ⟨after, item, before, split, found, missed⟩
    refine ⟨before.reverse, item, after.reverse, ?_, found, fun other inside =>
      missed other (List.mem_reverse.mp inside)⟩
    rw [← List.reverse_reverse items, split]
    simp
  · rintro ⟨before, item, after, rfl, found, missed⟩
    refine ⟨after.reverse, item, before.reverse, by simp, found, fun other inside =>
      missed other (List.mem_reverse.mp inside)⟩

end Search

/-- The identifier of the denial, if it covers the action. -/
def Denial.idFor? (action : String) (denial : Denial) : Option String :=
  if denial.coverage.Covers action then some denial.id else none

theorem Denial.idFor?_isSome_iff (action : String) (denial : Denial) :
    (denial.idFor? action).isSome ↔ denial.coverage.Covers action := by
  unfold Denial.idFor?
  split <;> simp_all

theorem Denial.idFor?_eq_none_iff (action : String) (denial : Denial) :
    denial.idFor? action = none ↔ ¬ denial.coverage.Covers action := by
  rw [← denial.idFor?_isSome_iff, Option.not_isSome_iff_eq_none]

/-- A review denies an action by the last denial that covers it. -/
theorem review_deniedBy?_eq (rules : RuleSet) (action : String) :
    (review rules action).deniedBy? = rules.denials.reverse.findSome? (Denial.idFor? action) := by
  unfold review Review.deniedBy?
  rw [List.getLast?_filterMap, List.map_findSome?]
  refine congrArg (List.findSome? · _) (funext fun denial => ?_)
  unfold Denial.idFor?
  by_cases covered : denial.coverage.Covers action
  · obtain ⟨pattern, found⟩ := Option.isSome_iff_exists.mp
      ((denial.coverage.via?_isSome_iff action).mpr covered)
    simp [found, covered]
  · simp [(denial.coverage.via?_eq_none_iff action).mpr covered, covered]

/-- A review grants an action exactly when some grant covers it. -/
theorem review_isGranted_iff (rules : RuleSet) (action : String) :
    (review rules action).isGranted ↔ ∃ grant ∈ rules.grants, grant.Covers action := by
  unfold review Review.isGranted
  simp only [List.findSome?_isSome_iff, Coverage.via?_isSome_iff]

/-- A review denies an action exactly when some denial covers it. -/
theorem review_isDenied_iff (rules : RuleSet) (action : String) :
    (review rules action).deniedBy?.isSome ↔
      ∃ denial ∈ rules.denials, denial.coverage.Covers action := by
  rw [review_deniedBy?_eq, List.findSome?_isSome_iff]
  simp only [List.mem_reverse, Denial.idFor?_isSome_iff]

/-! ### The rules of a snapshot say what its records say -/

/-- **By the rules of a snapshot an action is granted exactly when the records grant it.** -/
theorem rulesIn_isGranted_iff (snapshot : Snapshot) (domain : Domain) (action : String) :
    (review (snapshot.rulesIn domain) action).isGranted ↔ snapshot.Grants domain action := by
  rw [review_isGranted_iff]
  unfold Snapshot.rulesIn Snapshot.Grants
  exact exists_mem_flatMap_map_iff _ _ _ _

/-- **By the rules of a snapshot an action is denied exactly when the records deny it.** -/
theorem rulesIn_isDenied_iff (snapshot : Snapshot) (domain : Domain) (action : String) :
    (review (snapshot.rulesIn domain) action).deniedBy?.isSome ↔
      snapshot.Denies domain action := by
  rw [review_isDenied_iff]
  unfold Snapshot.rulesIn Snapshot.Denies DenyAssignment.denials
  exact exists_mem_flatMap_map_iff _ _ _ fun denial : Denial => denial.coverage.Covers action

/-- The search through the denials of one record, from the end. -/
theorem denials_findSome?_eq_some_iff (assignment : DenyAssignment) (domain : Domain)
    (action id : String) :
    (assignment.denials domain).reverse.findSome? (Denial.idFor? action) = some id ↔
      assignment.id.getD "" = id ∧
        ∃ earlier block later, assignment.blocks = earlier ++ block :: later ∧
          (block.coverage domain).Covers action ∧
          ∀ other ∈ later, ¬ (other.coverage domain).Covers action := by
  unfold DenyAssignment.denials
  rw [← List.map_reverse, List.findSome?_map, findSome?_reverse_eq_some_iff]
  simp only [Function.comp_apply, Denial.idFor?]
  constructor
  · rintro ⟨earlier, block, later, split, found, missed⟩
    by_cases covered : (block.coverage domain).Covers action
    · rw [if_pos covered] at found
      exact ⟨Option.some.inj found, earlier, block, later, split, covered, fun other inside =>
        by simpa using missed other inside⟩
    · rw [if_neg covered] at found
      cases found
  · rintro ⟨rfl, earlier, block, later, split, covered, missed⟩
    exact ⟨earlier, block, later, split, if_pos covered, fun other inside =>
      if_neg (missed other inside)⟩

/-- **By the rules of a snapshot an action is denied by the record that denies it last.** -/
theorem rulesIn_deniedBy?_eq_some_iff (snapshot : Snapshot)
    (identified : ∀ assignment ∈ snapshot.denyAssignments, assignment.id.isSome)
    (domain : Domain) (action id : String) :
    (review (snapshot.rulesIn domain) action).deniedBy? = some id ↔
      snapshot.LastDenial domain action id := by
  rw [review_deniedBy?_eq]
  unfold Snapshot.rulesIn Snapshot.LastDenial
  simp only
  rw [List.reverse_flatMap, findSome?_flatMap, findSome?_reverse_eq_some_iff]
  refine exists_congr fun before => exists_congr fun assignment => exists_congr fun after =>
    and_congr_right fun split => ?_
  have member : assignment ∈ snapshot.denyAssignments := by
    rw [split]
    exact List.mem_append_right _ List.mem_cons_self
  obtain ⟨own, named⟩ := Option.isSome_iff_exists.mp (identified assignment member)
  simp only [Function.comp_apply]
  rw [denials_findSome?_eq_some_iff, named, Option.getD_some, Option.some.injEq, and_assoc]
  refine and_congr_right fun _ => and_congr_right fun _ => ?_
  refine forall_congr' fun other => forall_congr' fun _ => ?_
  simp only [List.findSome?_eq_none_iff, List.mem_reverse, DenyAssignment.denials, List.mem_map,
    forall_exists_index, and_imp, forall_apply_eq_imp_iff₂, Denial.idFor?_eq_none_iff]

end AccessAudit
