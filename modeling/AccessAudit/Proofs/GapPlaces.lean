/-
**The first missing field of the records.**

Rules are made of records one block after the other, and each record has to hold what its rules
need: a deny assignment its identifier, every record its blocks, and every block its two lists of
the domain. What is needed has a place, told by the position of the record and by the field, and
places have an order: record after record, in a record the identifier, then the blocks as a whole,
then block after block, in a block the patterns before the exceptions. When nothing is missing there
is one rule for each block, with the lists of the block as they stand there. Otherwise the gap that
is told is that of the first place where a field is missing, under the name of its record and under
the index that its block has in the record.

The lists of the other domain have no place at all: the rules, and the gap as well, stay the same
when all of them are taken away.

* `RecordField`, `RecordField.number`, `RecordField.gap`: a field, its place among those of a
  record, and the gap that it leaves;
* `RoleAssignment.Lacks`, `DenyAssignment.Lacks`: the fields that a record lacks;
* `RoleAssignment.title`, `DenyAssignment.title`: what a gap calls the record;
* `IsFirstGap`: the gap of the first place where a field is missing;
* `head?_gaps_eq`: the first of all gaps is that of the first place;
* `MadeOf`: rules made of records block by block, or the first gap;
* `grantsOf?_madeOf`, `denialsOf?_madeOf`: the rules of both kinds of records are made so;
* `grantsOf?_only`, `denialsOf?_only`: they are made without a look at the other domain;
* `rules_are_made_block_by_block`: all of it.
-/
import AccessAudit.Proofs.Gaps
import AccessAudit.Proofs.Outline
import Mathlib

namespace AccessAudit

/-! ### The fields of a record -/

/-- A field that rules need of a record. -/
inductive RecordField where
  | id
  | permissions
  /-- The patterns of the block with this index. -/
  | actions (block : Nat)
  /-- The exceptions of the block with this index. -/
  | exceptions (block : Nat)
  deriving DecidableEq, Repr

namespace RecordField

/-- The number of a field in the outline of its record. -/
def number : RecordField → List Nat
  | id => [0]
  | permissions => [1]
  | actions block => [2, block, 0]
  | exceptions block => [2, block, 1]

/-- The gap that a missing field leaves in a record of this name. -/
def gap (domain : Domain) (label : String) : RecordField → Gap
  | id => { record := label, field := "id" }
  | permissions => { record := label, field := "permissions" }
  | actions block =>
    { record := label ++ " permission[" ++ toString block ++ "]"
      field := match domain with | .control => "actions" | .data => "dataActions" }
  | exceptions block =>
    { record := label ++ " permission[" ++ toString block ++ "]"
      field := match domain with | .control => "notActions" | .data => "notDataActions" }

end RecordField

/-- One of the lists of a block with this index is missing in a domain. -/
def PermissionBlock.Lacks (domain : Domain) (block : PermissionBlock) (index : Nat)
    (field : RecordField) : Prop :=
  block.actionsIn domain = none ∧ field = .actions index ∨
    block.exceptionsIn domain = none ∧ field = .exceptions index

/-- The blocks of a record, or one of their lists, are missing in a domain. -/
def BlocksLack (domain : Domain) (permissions : Option (List PermissionBlock)) :
    RecordField → Prop
  | .id => False
  | .permissions => permissions = none
  | .actions index =>
    ∃ block, (permissions.getD [])[index]? = some block ∧ block.actionsIn domain = none
  | .exceptions index =>
    ∃ block, (permissions.getD [])[index]? = some block ∧ block.exceptionsIn domain = none

/-- A field is missing that the grants of a role assignment need. -/
def RoleAssignment.Lacks (domain : Domain) (assignment : RoleAssignment) : RecordField → Prop :=
  BlocksLack domain assignment.permissions

/-- A field is missing that the denials of a deny assignment need. -/
def DenyAssignment.Lacks (domain : Domain) (assignment : DenyAssignment) (field : RecordField) :
    Prop :=
  field = .id ∧ assignment.id = none ∨ BlocksLack domain assignment.permissions field

/-- What a gap calls a role assignment: by its identifier if it has one, else by its role definition
if it names one, else by its position. -/
def RoleAssignment.title (assignment : RoleAssignment) (index : Nat) : String :=
  match assignment.id, assignment.roleDefinitionId with
  | some id, _ => "role assignment " ++ id
  | none, some definition => "role assignment " ++ definition
  | none, none => "role assignment #" ++ toString index

/-- What a gap calls a deny assignment: by its identifier, else by its position. -/
def DenyAssignment.title (assignment : DenyAssignment) (index : Nat) : String :=
  match assignment.id with
  | some id => "deny assignment " ++ id
  | none => "deny assignment #" ++ toString index

/-- The gap is that of a missing field, and no field is missing at a place before it. -/
def IsFirstGap {ρ : Type} (domain : Domain) (lacks : ρ → RecordField → Prop)
    (label : ρ → Nat → String) (records : List ρ) (gap : Gap) : Prop :=
  ∃ index record field, records[index]? = some record ∧ lacks record field ∧
    gap = field.gap domain (label record index) ∧
    ∀ index' record' field', records[index']? = some record' → lacks record' field' →
      ¬ index' :: field'.number < index :: field.number

/-! ### The missing fields of a record, in order -/

/-- The lists that a block lacks, under its index. -/
def PermissionBlock.lacking (domain : Domain) (block : PermissionBlock) (index : Nat) :
    List RecordField :=
  (if block.actionsIn domain = none then [.actions index] else []) ++
    if block.exceptionsIn domain = none then [.exceptions index] else []

/-- What is missing of the blocks of a record. -/
def blocksLacking (domain : Domain) (permissions : Option (List PermissionBlock)) :
    List RecordField :=
  (if permissions = none then [.permissions] else []) ++
    (permissions.getD []).zipIdx.flatMap fun pair => pair.1.lacking domain pair.2

/-- What is missing of a role assignment. -/
def RoleAssignment.lacking (domain : Domain) (assignment : RoleAssignment) : List RecordField :=
  blocksLacking domain assignment.permissions

/-- What is missing of a deny assignment. -/
def DenyAssignment.lacking (domain : Domain) (assignment : DenyAssignment) : List RecordField :=
  (if assignment.id = none then [.id] else []) ++ blocksLacking domain assignment.permissions

section Fields

variable (domain : Domain)

theorem PermissionBlock.lacking_outlines (block : PermissionBlock) (index : Nat) :
    Outlines RecordField.number (block.lacking domain index) (block.Lacks domain index) := by
  refine (outlines_if _ _).append (outlines_if _ _) ?_
  rintro entry later ⟨-, rfl⟩ ⟨-, rfl⟩
  exact lt_of_lead [2, index] Nat.zero_lt_one [] []

/-- Fields of a block come before those of a later one. -/
theorem PermissionBlock.number_lt_of_lacks {block block' : PermissionBlock} {index index' : Nat}
    {field field' : RecordField} (smaller : index < index') (lacks : block.Lacks domain index field)
    (lacks' : block'.Lacks domain index' field') : field.number < field'.number := by
  rcases lacks with ⟨-, rfl⟩ | ⟨-, rfl⟩ <;> rcases lacks' with ⟨-, rfl⟩ | ⟨-, rfl⟩ <;>
    exact lt_of_lead [2] smaller _ _

/-- **The missing fields of the blocks are listed in their order.** -/
theorem blocksLacking_outlines (permissions : Option (List PermissionBlock)) :
    Outlines RecordField.number (blocksLacking domain permissions)
      (BlocksLack domain permissions) := by
  have ofBlocks := outlines_flatMap_zipIdx (permissions.getD [])
    (PermissionBlock.lacking_outlines domain) fun _ _ _ _ _ _ =>
      PermissionBlock.number_lt_of_lacks domain
  refine ((outlines_if (permissions = none) .permissions).append ofBlocks ?_).of_iff fun field => ?_
  · rintro entry later ⟨-, rfl⟩ ⟨index, block, -, ⟨-, rfl⟩ | ⟨-, rfl⟩⟩ <;>
      exact lt_of_lead [] (Nat.lt_succ_self 1) [] _
  · cases field <;> simp [BlocksLack, PermissionBlock.Lacks]

theorem RoleAssignment.lacking_outlines (assignment : RoleAssignment) :
    Outlines RecordField.number (assignment.lacking domain) (assignment.Lacks domain) :=
  blocksLacking_outlines domain assignment.permissions

theorem DenyAssignment.lacking_outlines (assignment : DenyAssignment) :
    Outlines RecordField.number (assignment.lacking domain) (assignment.Lacks domain) := by
  have ofBlocks := blocksLacking_outlines domain assignment.permissions
  refine ((outlines_if (assignment.id = none) .id).append ofBlocks ?_).of_iff fun field => ?_
  · rintro entry later ⟨-, rfl⟩ lacking
    cases later with
    | id => exact lacking.elim
    | permissions => exact lt_of_lead [] Nat.zero_lt_one [] []
    | actions index => exact lt_of_lead [] Nat.two_pos [] _
    | exceptions index => exact lt_of_lead [] Nat.two_pos [] _
  · exact or_congr_left and_comm

end Fields

/-! ### The gaps of a record -/

section Gaps

variable (domain : Domain) (label : String)

/-- A field that may be missing leaves its gap. -/
theorem map_gap_if {α : Type} {value? : Option α} [Decidable (value? = none)]
    (field : RecordField) :
    (if value? = none then [field] else []).map (RecordField.gap domain label) =
      missing (field.gap domain label).record (field.gap domain label).field value? := by
  cases value? with
  | none => rw [if_pos rfl]; rfl
  | some value => rw [if_neg (Option.some_ne_none value)]; rfl

theorem blockGaps_eq_map (permissions : Option (List PermissionBlock)) :
    blockGaps domain label permissions =
      (blocksLacking domain permissions).map (RecordField.gap domain label) := by
  unfold blockGaps blocksLacking
  rw [List.map_append, map_gap_if, List.map_flatMap]
  refine congrArg₂ _ rfl (List.flatMap_congr fun pair _ => ?_)
  unfold PermissionBlock.gaps PermissionBlock.lacking
  rw [List.map_append, map_gap_if, map_gap_if]
  cases domain <;> rfl

theorem RoleAssignment.title_eq_label (assignment : RoleAssignment) (index : Nat) :
    assignment.title index = assignment.label index := by
  unfold RoleAssignment.title RoleAssignment.label
  cases assignment.id <;> cases assignment.roleDefinitionId <;> rfl

theorem RoleAssignment.head?_gaps (assignment : RoleAssignment) (index : Nat) :
    (assignment.gaps domain index).head? =
      ((assignment.lacking domain).map
        (RecordField.gap domain (assignment.title index))).head? := by
  rw [assignment.title_eq_label]
  exact congrArg List.head? (blockGaps_eq_map domain _ _)

/-- Of a deny assignment without an identifier nothing but that is told, and it comes first. -/
theorem DenyAssignment.head?_gaps (assignment : DenyAssignment) (index : Nat) :
    (assignment.gaps domain index).head? =
      ((assignment.lacking domain).map
        (RecordField.gap domain (assignment.title index))).head? := by
  unfold DenyAssignment.gaps DenyAssignment.lacking DenyAssignment.title
  cases assignment.id with
  | none => rfl
  | some id =>
    rw [if_neg (Option.some_ne_none id), List.nil_append, ← blockGaps_eq_map]

end Gaps

/-! ### The gaps of all records -/

section Records

variable {ρ : Type} (domain : Domain) {lacking : ρ → List RecordField}
  {lacks : ρ → RecordField → Prop} {label : ρ → Nat → String} {gaps : ρ × Nat → List Gap}

/-- A missing field with its record and the position of that. -/
structure Lack (ρ : Type) where
  index : Nat
  record : ρ
  field : RecordField

/-- The number of a missing field in the outline of all records. -/
def Lack.number (lack : Lack ρ) : List Nat :=
  lack.index :: lack.field.number

/-- What all records lack, record after record. -/
def lacksOf (lacking : ρ → List RecordField) (records : List ρ) : List (Lack ρ) :=
  records.zipIdx.flatMap fun pair => (lacking pair.1).map (Lack.mk pair.2 pair.1)

theorem lacksOf_outlines
    (outlines : ∀ record, Outlines RecordField.number (lacking record) (lacks record))
    (records : List ρ) :
    Outlines Lack.number (lacksOf lacking records) fun lack =>
      records[lack.index]? = some lack.record ∧ lacks lack.record lack.field := by
  have ofRecord : ∀ record index,
      Outlines Lack.number ((lacking record).map (Lack.mk index record)) fun lack =>
        ∃ field, lacks record field ∧ Lack.mk index record field = lack := by
    intro record index
    refine (outlines record).map (Lack.mk index record) fun field later smaller => ?_
    simp [Lack.number, smaller]
  refine (outlines_flatMap_zipIdx records ofRecord ?_).of_iff fun lack => ?_
  · rintro record record' index index' entry later smaller ⟨field, -, rfl⟩ ⟨field', -, rfl⟩
    exact lt_of_lead [] smaller field.number field'.number
  · constructor
    · rintro ⟨index, record, found, field, lacking, rfl⟩
      exact ⟨found, lacking⟩
    · rintro ⟨found, lacking⟩
      exact ⟨_, _, found, _, lacking, rfl⟩

/-- **The first of all gaps is the one that the first missing field leaves.** -/
theorem head?_gaps_eq (records : List ρ)
    (heads : ∀ record index, (gaps (record, index)).head? =
      ((lacking record).map (RecordField.gap domain (label record index))).head?) :
    (records.zipIdx.flatMap gaps).head? =
      (lacksOf lacking records).head?.map fun lack =>
        lack.field.gap domain (label lack.record lack.index) := by
  have sameHeads : (fun pair => (gaps pair).head?) = fun pair =>
      ((lacking pair.1).map (RecordField.gap domain (label pair.1 pair.2))).head? :=
    funext fun pair => heads pair.1 pair.2
  rw [List.head?_flatMap, sameHeads, ← List.head?_flatMap, ← List.head?_map, lacksOf,
    List.map_flatMap]
  simp only [List.map_map]
  rfl

variable (outlines : ∀ record, Outlines RecordField.number (lacking record) (lacks record))
  (heads : ∀ record index, (gaps (record, index)).head? =
    ((lacking record).map (RecordField.gap domain (label record index))).head?)

include outlines heads

theorem head?_gaps_eq_some_iff (records : List ρ) (gap : Gap) :
    (records.zipIdx.flatMap gaps).head? = some gap ↔
      IsFirstGap domain lacks label records gap := by
  have outlined := lacksOf_outlines outlines records
  rw [head?_gaps_eq domain records heads, Option.map_eq_some_iff]
  simp only [outlined.head?_eq_some_iff]
  constructor
  · rintro ⟨⟨index, record, field⟩, ⟨⟨found, lacking⟩, first⟩, rfl⟩
    exact ⟨index, record, field, found, lacking, rfl, fun index' record' field' found' lacking' =>
      first ⟨index', record', field'⟩ ⟨found', lacking'⟩⟩
  · rintro ⟨index, record, field, found, lacking, rfl, first⟩
    exact ⟨⟨index, record, field⟩, ⟨⟨found, lacking⟩, fun other missing =>
      first other.index other.record other.field missing.1 missing.2⟩, rfl⟩

theorem gaps_eq_nil_iff (records : List ρ) :
    records.zipIdx.flatMap gaps = [] ↔ ∀ record ∈ records, ∀ field, ¬ lacks record field := by
  have outlined := lacksOf_outlines outlines records
  rw [← List.head?_eq_none_iff, head?_gaps_eq domain records heads, Option.map_eq_none_iff,
    List.head?_eq_none_iff, outlined.eq_nil_iff]
  constructor
  · intro clear record member field lacking
    obtain ⟨index, found⟩ := List.mem_iff_getElem?.mp member
    exact clear ⟨index, record, field⟩ ⟨found, lacking⟩
  · rintro clear ⟨index, record, field⟩ ⟨found, lacking⟩
    exact clear record (List.mem_of_getElem? found) field lacking

end Records

/-! ### The lists of the blocks -/

/-- The lists of a domain as they stand in a block. -/
def PermissionBlock.listsIn (domain : Domain) (block : PermissionBlock) :
    Option (List String) × Option (List String) :=
  (block.actionsIn domain, block.exceptionsIn domain)

/-- The lists of a rule, both of them there. -/
def Coverage.lists (coverage : Coverage) : Option (List String) × Option (List String) :=
  (some coverage.actions, some coverage.exceptions)

/-- The lists of a denial with its identifier. -/
def Denial.lists (denial : Denial) :
    Option String × Option (List String) × Option (List String) :=
  (some denial.id, denial.coverage.lists)

/-- Rules are made of records exactly when no field is missing that they need, and then they are one
for each block of each record, and say what stands there. Otherwise the first gap is told. -/
structure MadeOf {ρ σ τ : Type} (domain : Domain) (lacks : ρ → RecordField → Prop)
    (label : ρ → Nat → String) (blocks : ρ → List PermissionBlock) (row : ρ → PermissionBlock → τ)
    (view : σ → τ) (records : List ρ) (made : Except Gap (List σ)) : Prop where
  complete : (∃ rules, made = .ok rules) ↔ ∀ record ∈ records, ∀ field, ¬ lacks record field
  verbatim : ∀ rules, made = .ok rules →
    rules.map view = records.flatMap fun record => (blocks record).map (row record)
  length : ∀ rules, made = .ok rules →
    rules.length = (records.map fun record => (blocks record).length).sum
  first : ∀ gap, made = .error gap ↔ IsFirstGap domain lacks label records gap

section Lists

variable {ρ σ τ : Type} {domain : Domain} {lacks : ρ → RecordField → Prop}
  {label : ρ → Nat → String} {blocks : ρ → List PermissionBlock} {row : ρ → PermissionBlock → τ}
  {view : σ → τ} {records : List ρ} {made : Except Gap (List σ)}

theorem madeOf_of_settled {gaps : List Gap} {rules : List σ} (settling : made = settled gaps rules)
    (complete : gaps = [] ↔ ∀ record ∈ records, ∀ field, ¬ lacks record field)
    (verbatim : gaps = [] →
      rules.map view = records.flatMap fun record => (blocks record).map (row record))
    (first : ∀ gap, gaps.head? = some gap ↔ IsFirstGap domain lacks label records gap) :
    MadeOf domain lacks label blocks row view records made := by
  subst settling
  refine ⟨?_, fun rules' made => ?_, fun rules' made => ?_, fun gap => ?_⟩
  · simp only [settled_eq_ok_iff, exists_and_left, exists_eq', and_true]
    exact complete
  · obtain ⟨none, rfl⟩ := (settled_eq_ok_iff _ _ _).mp made
    exact verbatim none
  · obtain ⟨none, rfl⟩ := (settled_eq_ok_iff _ _ _).mp made
    have lengths := congrArg List.length (verbatim none)
    simpa only [List.length_map, List.length_flatMap] using lengths
  · rw [settled_eq_error_iff]
    exact first gap

variable (domain)

/-- The rule of a complete block has the lists of the block. -/
theorem lists_coverage {block : PermissionBlock} (complete : block.CompleteIn domain) :
    (block.coverage domain).lists = block.listsIn domain := by
  obtain ⟨ofActions, ofExceptions⟩ := complete
  obtain ⟨actions, found⟩ := Option.isSome_iff_exists.mp ofActions
  obtain ⟨exceptions, found'⟩ := Option.isSome_iff_exists.mp ofExceptions
  unfold PermissionBlock.coverage PermissionBlock.listsIn Coverage.lists
  simp only [found, found', Option.getD_some]

/-- **The grants of role assignments are made of their blocks, or the first gap is told.** -/
theorem grantsOf?_madeOf (assignments : List RoleAssignment) :
    MadeOf domain (RoleAssignment.Lacks domain) RoleAssignment.title RoleAssignment.blocks
      (fun _ block => block.listsIn domain) Coverage.lists assignments
      (grantsOf? domain assignments) := by
  refine madeOf_of_settled (grantsOf?_eq_settled domain assignments)
    (gaps_eq_nil_iff domain (RoleAssignment.lacking_outlines domain)
      (RoleAssignment.head?_gaps domain) assignments) (fun none => ?_)
    (head?_gaps_eq_some_iff domain (RoleAssignment.lacking_outlines domain)
      (RoleAssignment.head?_gaps domain) assignments)
  rw [List.map_flatMap]
  refine List.flatMap_congr fun assignment member => ?_
  obtain ⟨-, complete⟩ := (roleGaps_eq_nil_iff domain assignments).mp none assignment member
  rw [List.map_map]
  exact List.map_congr_left fun block held => lists_coverage domain (complete block held)

/-- **The denials of deny assignments are made of their blocks, under the identifiers of the
records, or the first gap is told.** -/
theorem denialsOf?_madeOf (assignments : List DenyAssignment) :
    MadeOf domain (DenyAssignment.Lacks domain) DenyAssignment.title DenyAssignment.blocks
      (fun assignment block => (assignment.id, block.listsIn domain)) Denial.lists assignments
      (denialsOf? domain assignments) := by
  refine madeOf_of_settled (denialsOf?_eq_settled domain assignments)
    (gaps_eq_nil_iff domain (DenyAssignment.lacking_outlines domain)
      (DenyAssignment.head?_gaps domain) assignments) (fun none => ?_)
    (head?_gaps_eq_some_iff domain (DenyAssignment.lacking_outlines domain)
      (DenyAssignment.head?_gaps domain) assignments)
  rw [List.map_flatMap]
  refine List.flatMap_congr fun assignment member => ?_
  obtain ⟨identified, -, complete⟩ :=
    (denyGaps_eq_nil_iff domain assignments).mp none assignment member
  obtain ⟨id, named⟩ := Option.isSome_iff_exists.mp identified
  unfold DenyAssignment.denials
  rw [List.map_map, named]
  refine List.map_congr_left fun block held => ?_
  exact congrArg (Prod.mk (some id)) (lists_coverage domain (complete block held))

end Lists

/-! ### The lists of the other domain -/

/-- A block without its lists of the other domain. -/
def PermissionBlock.only (block : PermissionBlock) : Domain → PermissionBlock
  | .control => { block with dataActions := none, notDataActions := none }
  | .data => { block with actions := none, notActions := none }

/-- A role assignment without the lists of the other domain. -/
def RoleAssignment.only (domain : Domain) (assignment : RoleAssignment) : RoleAssignment :=
  { assignment with permissions := assignment.permissions.map (List.map (·.only domain)) }

/-- A deny assignment without the lists of the other domain. -/
def DenyAssignment.only (domain : Domain) (assignment : DenyAssignment) : DenyAssignment :=
  { assignment with permissions := assignment.permissions.map (List.map (·.only domain)) }

section Only

variable (domain : Domain)

theorem coverage?_only (label : String) (block : PermissionBlock) :
    (block.only domain).coverage? domain label = block.coverage? domain label := by
  cases domain <;> rfl

theorem coverages?_only (label : String) (permissions : Option (List PermissionBlock)) :
    coverages? domain label (permissions.map (List.map (·.only domain))) =
      coverages? domain label permissions := by
  cases permissions with
  | none => rfl
  | some blocks =>
    show ((blocks.map (·.only domain)).zipIdx.mapM fun pair => pair.1.coverage? domain
      (label ++ " permission[" ++ toString pair.2 ++ "]")) = _
    rw [List.zipIdx_map, List.mapM_map]
    refine congrArg (List.mapM · _) (funext fun pair => ?_)
    exact coverage?_only domain _ pair.1

/-- **Grants are made without a look at the other domain.** -/
theorem grantsOf?_only (assignments : List RoleAssignment) :
    grantsOf? domain (assignments.map (RoleAssignment.only domain)) =
      grantsOf? domain assignments := by
  have each : ∀ pair : RoleAssignment × Nat,
      (pair.1.only domain).grants? domain pair.2 = pair.1.grants? domain pair.2 := by
    intro pair
    exact coverages?_only domain _ pair.1.permissions
  unfold grantsOf?
  rw [List.zipIdx_map, List.mapM_map]
  refine congrArg (fun grants? => List.mapM grants? _ >>= fun grants => pure grants.flatten) ?_
  exact funext each

/-- **Denials are made without a look at the other domain.** -/
theorem denialsOf?_only (assignments : List DenyAssignment) :
    denialsOf? domain (assignments.map (DenyAssignment.only domain)) =
      denialsOf? domain assignments := by
  have each : ∀ pair : DenyAssignment × Nat,
      (pair.1.only domain).denials? domain pair.2 = pair.1.denials? domain pair.2 := by
    intro pair
    unfold DenyAssignment.denials? DenyAssignment.only
    simp only [coverages?_only]
  unfold denialsOf?
  rw [List.zipIdx_map, List.mapM_map]
  refine congrArg (fun denials? => List.mapM denials? _ >>= fun denials => pure denials.flatten) ?_
  exact funext each

end Only

/-! ### The rules, or the first gap -/

/-- **Rules are made of records exactly when no field is missing that they need. Then there is one
for each block, in the order of the records and of their blocks, with the lists of the domain as
they stand there, and for a denial the identifier of the record. Otherwise the gap of the first
missing field is told. The lists of the other domain make no difference.** -/
theorem rules_are_made_block_by_block (domain : Domain) :
    (∀ assignments,
      MadeOf domain (RoleAssignment.Lacks domain) RoleAssignment.title RoleAssignment.blocks
        (fun _ block => block.listsIn domain) Coverage.lists assignments
        (grantsOf? domain assignments) ∧
      grantsOf? domain (assignments.map (RoleAssignment.only domain)) =
        grantsOf? domain assignments) ∧
    ∀ assignments,
      MadeOf domain (DenyAssignment.Lacks domain) DenyAssignment.title DenyAssignment.blocks
        (fun assignment block => (assignment.id, block.listsIn domain)) Denial.lists assignments
        (denialsOf? domain assignments) ∧
      denialsOf? domain (assignments.map (DenyAssignment.only domain)) =
        denialsOf? domain assignments :=
  ⟨fun assignments => ⟨grantsOf?_madeOf domain assignments, grantsOf?_only domain assignments⟩,
    fun assignments => ⟨denialsOf?_madeOf domain assignments, denialsOf?_only domain assignments⟩⟩

/-! ### Records with gaps -/

/-- A block with the lists of the control domain alone. -/
def controlBlock : PermissionBlock where
  actions := some ["Door/*"]
  notActions := some ["Door/keys"]

/-- The second role has no identifier, and its second block lacks a list of the control domain. -/
def gapRoles : List RoleAssignment :=
  [{ id := some "porter", roleDefinitionId := some "staff", permissions := some [controlBlock] },
    { permissions := some [controlBlock, { controlBlock with notActions := none }] }]

/-- A role that is known by its definition alone, without blocks. -/
def gapGuests : List RoleAssignment :=
  [{ roleDefinitionId := some "guest", roleName := some "visitor" }]

/-- The first deny assignment is complete as far as the control domain goes, and the second one has
nothing. -/
def gapDenials : List DenyAssignment :=
  [{ id := some "night", permissions := some [controlBlock, controlBlock] }, {}]

/-- In the control domain the gap of the second block is told, under the position of its record; in
the data domain it is one of the first record. A role without an identifier is told by its
definition if it has one. The deny assignment without anything is told by its position, and before
it there is a denial for each block. -/
theorem first_gaps_are_told :
    grantsOf? .control gapRoles =
      .error { record := "role assignment #1 permission[1]", field := "notActions" } ∧
    IsFirstGap .control (RoleAssignment.Lacks .control) RoleAssignment.title gapRoles
      { record := "role assignment #1 permission[1]", field := "notActions" } ∧
    IsFirstGap .data (RoleAssignment.Lacks .data) RoleAssignment.title gapRoles
      { record := "role assignment porter permission[0]", field := "dataActions" } ∧
    IsFirstGap .control (RoleAssignment.Lacks .control) RoleAssignment.title gapGuests
      { record := "role assignment guest", field := "permissions" } ∧
    IsFirstGap .control (DenyAssignment.Lacks .control) DenyAssignment.title gapDenials
      { record := "deny assignment #1", field := "id" } ∧
    ∃ denials, denialsOf? .control (gapDenials.take 1) = .ok denials ∧ denials.length = 2 ∧
      denials.map Denial.lists =
        List.replicate 2 (some "night", controlBlock.listsIn .control) := by
  obtain ⟨ofRoles, ofDenials⟩ := rules_are_made_block_by_block .control
  obtain ⟨ofRoles', -⟩ := rules_are_made_block_by_block .data
  have told : grantsOf? .control gapRoles =
      .error { record := "role assignment #1 permission[1]", field := "notActions" } := by
    decide +kernel
  refine ⟨told, ((ofRoles gapRoles).1.first _).mp told,
    ((ofRoles' gapRoles).1.first _).mp (by decide +kernel),
    ((ofRoles gapGuests).1.first _).mp (by decide +kernel),
    ((ofDenials gapDenials).1.first _).mp (by decide +kernel), _, rfl, ?_, ?_⟩
  · exact (ofDenials (gapDenials.take 1)).1.length _ rfl
  · exact (ofDenials (gapDenials.take 1)).1.verbatim _ rfl

end AccessAudit
