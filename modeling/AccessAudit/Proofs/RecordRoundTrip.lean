/-
**Records are read back as they were written.**

What is written of a snapshot, a requirement or a configuration is read back as it was, whichever of
its fields are missing, in the order of the fields and in that of the keys. A missing list of
patterns is written as null and an empty one as an array of nothing, so neither comes back as the
other.

No reader tells a field that is left out from one that is null, at any depth, where the field may be
missing. The lists of which a document consists may be left out too, but they are never missing: a
document that has null for one of them is refused as a whole.

* `ofJson?_toJson`, `ofJson?_inKeyOrder` of the types of records: what is written is read back;
* `NullFilled`, `HoldsNullList`: null for a missing field, and null for a list;
* `ofJson?_of_nullFilled`, `ofJson?_of_nullForList` of the types of records: what readers make of
  the one and of the other;
* `ReadAsWritten`, `documents_are_read_as_written`: all of it for each kind of document.
-/
import AccessAudit.Proofs.JsonRecord
import AccessAudit.Proofs.RecordPlaces
import Mathlib.Data.Option.Basic

namespace AccessAudit

/-! ### Values of fields -/

namespace Json

theorem optional?_string (text : String) : optional? text? (string text) = some (some text) := rfl

theorem optional?_ofText? (text? : Option String) :
    optional? Json.text? (ofText? text?) = some text? := by
  cases text? <;> rfl

theorem optional?_ofTexts? (texts? : Option (List String)) :
    optional? Json.texts? (ofTexts? texts?) = some texts? := by
  cases texts? with
  | none => rfl
  | some texts =>
    have held : ofTexts texts ≠ null := nofun
    rw [ofTexts?, optional?_of_ne_null held, texts?_ofTexts]
    rfl

theorem inKeyOrder_ofText? (text? : Option String) :
    (ofText? text?).inKeyOrder = ofText? text? := by
  cases text? <;> rfl

theorem inKeyOrder_ofTexts? (texts? : Option (List String)) :
    (ofTexts? texts?).inKeyOrder = ofTexts? texts? := by
  cases texts? with
  | none => rfl
  | some texts => exact inKeyOrder_ofTexts texts

end Json

namespace PermissionBlock

theorem ofJson?_toJson (block : PermissionBlock) : ofJson? block.toJson = some block := by
  simp [ofJson?, toJson, Json.fieldsOf?, Json.optionalField?_eq, Json.field?,
    Json.optional?_ofTexts?]

theorem ofJson?_inKeyOrder (block : PermissionBlock) :
    ofJson? block.toJson.inKeyOrder = some block := by
  have sorted : block.toJson.inKeyOrder = .object
      [("actions", .ofTexts? block.actions), ("dataActions", .ofTexts? block.dataActions),
        ("notActions", .ofTexts? block.notActions),
        ("notDataActions", .ofTexts? block.notDataActions)] := by
    simp only [toJson, Json.inKeyOrder, Json.membersInKeyOrder, Json.inKeyOrder_ofTexts?,
      Text.sortedEntries, Text.insertEntry, List.foldl, String.reduceLT, String.reduceEq, if_true,
      if_false]
  simp [sorted, ofJson?, Json.fieldsOf?, Json.optionalField?_eq, Json.field?,
    Json.optional?_ofTexts?]

/-- The blocks of a record are read back from either order of their keys. -/
theorem optional?_listToJson (permissions : Option (List PermissionBlock)) :
    Json.optional? (Json.listOf? ofJson?) (listToJson permissions) = some permissions ∧
      Json.optional? (Json.listOf? ofJson?) (listToJson permissions).inKeyOrder =
        some permissions := by
  cases permissions with
  | none => exact ⟨rfl, rfl⟩
  | some blocks =>
    have held : listToJson (some blocks) ≠ .null := nofun
    have held' : (listToJson (some blocks)).inKeyOrder ≠ .null := nofun
    rw [Json.optional?_of_ne_null held, Json.optional?_of_ne_null held', listToJson,
      Json.inKeyOrder, Json.itemsInKeyOrder_map fun block => rfl,
      Json.listOf?_map fun block _ => ofJson?_toJson block,
      Json.listOf?_map fun block _ => ofJson?_inKeyOrder block]
    exact ⟨rfl, rfl⟩

end PermissionBlock

namespace RoleAssignment

theorem ofJson?_toJson (assignment : RoleAssignment) :
    ofJson? assignment.toJson = some assignment := by
  obtain ⟨id, roleDefinitionId, roleName, permissions⟩ := assignment
  have blocks := (PermissionBlock.optional?_listToJson permissions).1
  cases id <;> cases roleDefinitionId <;> cases roleName <;>
    simp [ofJson?, toJson, Json.memberOf, Json.fieldsOf?, Json.optionalField?_eq, Json.field?,
      Json.optional?_string, blocks]

theorem ofJson?_inKeyOrder (assignment : RoleAssignment) :
    ofJson? assignment.toJson.inKeyOrder = some assignment := by
  obtain ⟨id, roleDefinitionId, roleName, permissions⟩ := assignment
  have blocks := (PermissionBlock.optional?_listToJson permissions).2
  have sorted : (toJson { id, roleDefinitionId, roleName, permissions }).inKeyOrder = .object
      (Json.memberOf "id" .string id ++
        [("permissions", (PermissionBlock.listToJson permissions).inKeyOrder)] ++
        Json.memberOf "roleDefinitionId" .string roleDefinitionId ++
        Json.memberOf "roleName" .string roleName) := by
    cases id <;> cases roleDefinitionId <;> cases roleName <;>
      simp only [toJson, Json.memberOf, Json.inKeyOrder, Json.membersInKeyOrder,
        Text.sortedEntries, Text.insertEntry, List.foldl, List.cons_append, List.nil_append,
        String.reduceLT, String.reduceEq, if_true, if_false]
  rw [sorted]
  cases id <;> cases roleDefinitionId <;> cases roleName <;>
    simp [ofJson?, Json.memberOf, Json.fieldsOf?, Json.optionalField?_eq, Json.field?,
      Json.optional?_string, blocks]

end RoleAssignment

namespace DenyAssignment

theorem ofJson?_toJson (assignment : DenyAssignment) :
    ofJson? assignment.toJson = some assignment := by
  obtain ⟨id, denyAssignmentName, permissions⟩ := assignment
  have blocks := (PermissionBlock.optional?_listToJson permissions).1
  cases denyAssignmentName <;>
    simp [ofJson?, toJson, Json.memberOf, Json.fieldsOf?, Json.optionalField?_eq, Json.field?,
      Json.optional?_string, Json.optional?_ofText?, blocks]

theorem ofJson?_inKeyOrder (assignment : DenyAssignment) :
    ofJson? assignment.toJson.inKeyOrder = some assignment := by
  obtain ⟨id, denyAssignmentName, permissions⟩ := assignment
  have blocks := (PermissionBlock.optional?_listToJson permissions).2
  have sorted : (toJson { id, denyAssignmentName, permissions }).inKeyOrder = .object
      (Json.memberOf "denyAssignmentName" .string denyAssignmentName ++
        [("id", .ofText? id),
          ("permissions", (PermissionBlock.listToJson permissions).inKeyOrder)]) := by
    cases denyAssignmentName <;>
      simp only [toJson, Json.memberOf, Json.inKeyOrder, Json.membersInKeyOrder,
        Json.inKeyOrder_ofText?, Text.sortedEntries, Text.insertEntry, List.foldl,
        List.cons_append, List.nil_append, String.reduceLT, String.reduceEq, if_true, if_false]
  rw [sorted]
  cases denyAssignmentName <;>
    simp [ofJson?, Json.memberOf, Json.fieldsOf?, Json.optionalField?_eq, Json.field?,
      Json.optional?_string, Json.optional?_ofText?, blocks]

end DenyAssignment

namespace Snapshot

theorem ofJson?_toJson (snapshot : Snapshot) : ofJson? snapshot.toJson = some snapshot := by
  simp [ofJson?, toJson, Json.fieldsOf?, Json.listField?_eq, Json.field?,
    Json.listOf?_map fun assignment _ => RoleAssignment.ofJson?_toJson assignment,
    Json.listOf?_map fun assignment _ => DenyAssignment.ofJson?_toJson assignment]

theorem ofJson?_inKeyOrder (snapshot : Snapshot) :
    ofJson? snapshot.toJson.inKeyOrder = some snapshot := by
  have sorted : snapshot.toJson.inKeyOrder = .object
      [("denyAssignments", .array (snapshot.denyAssignments.map fun assignment =>
          assignment.toJson.inKeyOrder)),
        ("roleAssignments", .array (snapshot.roleAssignments.map fun assignment =>
          assignment.toJson.inKeyOrder))] := by
    simp only [toJson, Json.inKeyOrder, Json.membersInKeyOrder,
      Json.itemsInKeyOrder_map fun _ => rfl, Text.sortedEntries, Text.insertEntry, List.foldl,
      String.reduceLT, String.reduceEq, if_true, if_false]
  simp [sorted, ofJson?, Json.fieldsOf?, Json.listField?_eq, Json.field?,
    Json.listOf?_map fun assignment _ => RoleAssignment.ofJson?_inKeyOrder assignment,
    Json.listOf?_map fun assignment _ => DenyAssignment.ofJson?_inKeyOrder assignment]

end Snapshot

theorem Requirement.ofJson?_inKeyOrder (requirement : Requirement) :
    ofJson? requirement.toJson.inKeyOrder = some requirement := by
  have sorted : requirement.toJson.inKeyOrder = requirement.toJson := by
    simp only [toJson, Json.inKeyOrder, Json.membersInKeyOrder, Json.inKeyOrder_ofTexts,
      Text.sortedEntries, Text.insertEntry, List.foldl, String.reduceLT, String.reduceEq, if_false]
  rw [sorted, ofJson?_toJson]

theorem NamedCheck.ofJson?_toJson (check : NamedCheck) : ofJson? check.toJson = some check := by
  have requirement : Requirement.ofJson? (.object
      [("actions", .ofTexts check.requirement.actions),
        ("dataActions", .ofTexts check.requirement.dataActions)]) = some check.requirement :=
    Requirement.ofJson?_toJson check.requirement
  unfold ofJson? toJson guard
  simp [ownFields, textField?, Json.field?, Json.text?, mayHold_ofTexts, requirement]

theorem Logging.ofJson?_toJson (logging : Logging) : ofJson? logging.toJson = some logging := by
  obtain ⟨level, json, dir⟩ := logging
  cases level <;> cases json <;> cases dir <;>
    simp [ofJson?, toJson, Json.memberOf, Json.fieldsOf?, Json.optionalField?, Json.field?,
      Json.text?, Json.bool?]

namespace Config

theorem ofJson?_toJson (config : Config) : ofJson? config.toJson = some config := by
  obtain ⟨logging, checks⟩ := config
  have read : Json.listOf? NamedCheck.ofJson? (.array (checks.map NamedCheck.toJson)) =
      some checks := Json.listOf?_map fun check _ => check.ofJson?_toJson
  cases logging with
  | none =>
    simp [ofJson?, toJson, Json.memberOf, Json.fieldsOf?, Json.optionalField?_eq,
      Json.listField?_eq, Json.field?, read]
  | some logging =>
    have held : logging.toJson ≠ .null := by
      intro same
      cases same
    simp [ofJson?, toJson, Json.memberOf, Json.fieldsOf?, Json.optionalField?_eq,
      Json.listField?_eq, Json.field?, read, Json.optional?_of_ne_null held,
      Logging.ofJson?_toJson]

theorem ofJson?_inKeyOrder (config : Config) : ofJson? config.toJson.inKeyOrder = some config := by
  rw [inKeyOrder_toJson, ofJson?_sortedJson]

end Config

/-! ### Null and nothing -/

open Json in
/-- A field that may be missing and is missing is set to null. In an array the missing fields are
the last ones, so the first of them is the one to be set. -/
inductive NullFilled (kind : RecordKind) : Json → Json → Prop
  | member {before after : List (String × Json)} {name : String} (optional : name ∈ kind.optional)
      (absent : name ∉ (before ++ after).map Prod.fst) :
      NullFilled kind (object (before ++ after)) (object (before ++ (name, null) :: after))
  | item {items : List Json} {name : String} (optional : name ∈ kind.optional)
      (placed : kind.fields[items.length]? = some name) :
      NullFilled kind (array items) (array (items ++ [null]))

open Json in
/-- A list of the record that may be missing but not null is null. -/
inductive HoldsNullList (kind : RecordKind) : Json → Prop
  | member {members : List (String × Json)} {name : String} (list : name ∈ kind.lists)
      (held : (name, null) ∈ members) : HoldsNullList kind (object members)
  | item {items : List Json} {index : Nat} {name : String} (list : name ∈ kind.lists)
      (placed : kind.fields[index]? = some name) (held : items[index]? = some null) :
      HoldsNullList kind (array items)

/-- The edit leaves a record with null in the place of such a list. -/
def NullForList (kind : RecordKind) (_ json' : Json) : Prop :=
  HoldsNullList kind json'

theorem RecordKind.nodup_fields (kind : RecordKind) : kind.fields.Nodup := by
  cases kind <;> decide

namespace Json

section Nulls

variable {α : Type} {kind : RecordKind} {json json' : Json} {fields : List (String × Json)}
  {before after : List (String × Json)} {name other : String}

/-- The fields of the two records are the same up to the one that is set to null. -/
theorem fieldsOf?_of_nullFilled (filled : NullFilled kind json json') :
    ∃ before name after, name ∈ kind.optional ∧ name ∉ (before ++ after).map Prod.fst ∧
      fieldsOf? kind.fields json = some (before ++ after) ∧
      fieldsOf? kind.fields json' = some (before ++ (name, null) :: after) := by
  cases filled with
  | member optional absent => exact ⟨_, _, _, optional, absent, rfl, rfl⟩
  | @item items name optional placed =>
    obtain ⟨inside, present⟩ := List.getElem?_eq_some_iff.mp placed
    have fits : (items ++ [null]).length ≤ kind.fields.length := by
      rw [List.length_append]
      exact inside
    have taken : (kind.fields.take items.length).length = items.length :=
      List.length_take_of_le (Nat.le_of_lt inside)
    -- the items stand under the names in front of the one that is missing
    refine ⟨(kind.fields.take items.length).zip items, name, [], optional, ?_, ?_, ?_⟩
    · rw [List.append_nil, List.map_fst_zip taken.le]
      intro earlier
      obtain ⟨index, before, here⟩ := List.mem_take_iff_getElem.mp earlier
      have same := kind.nodup_fields.getElem_inj_iff.mp (here.trans present.symm)
      omega
    · have front : kind.fields.zip items = (kind.fields.take items.length).zip items := calc
        kind.fields.zip items
          = (kind.fields.take items.length ++ kind.fields.drop items.length).zip (items ++ []) := by
            rw [List.take_append_drop, List.append_nil]
        _ = (kind.fields.take items.length).zip items := by
            rw [List.zip_append taken, List.zip_nil_right, List.append_nil]
      rw [fieldsOf?, if_pos inside.le, front, List.append_nil]
    · rw [fieldsOf?, if_pos fits, zip_insert placed, List.zip_nil_right]

/-- An optional field reads the same whether one that is missing is left out or null. -/
theorem optionalField?_insert_null (read? : Json → Option α) (other : String)
    (absent : name ∉ (before ++ after).map Prod.fst) :
    optionalField? read? other (before ++ (name, null) :: after) =
      optionalField? read? other (before ++ after) := by
  by_cases same : other = name
  · rw [same, optionalField?_of_absent absent, optionalField?_eq, field?_insert_self absent]
    rfl
  · exact optionalField?_insert_of_ne same

/-- Null is read as no list. -/
theorem listField?_of_null_mem (read? : Json → Option α) (held : (name, null) ∈ fields) :
    listField? (listOf? read?) name fields = none := by
  obtain ⟨before, after, rfl⟩ := List.append_of_mem held
  rcases listField?_insert (listOf? read?) before after name with once | repeated
  · exact once null
  · exact repeated null

theorem null_mem_of_holdsNullList (held : HoldsNullList kind json)
    (read : fieldsOf? kind.fields json = some fields) :
    ∃ name ∈ kind.lists, (name, null) ∈ fields := by
  cases held with
  | member list held =>
    obtain rfl := Option.some.inj read
    exact ⟨_, list, held⟩
  | @item items index name list placed held =>
    refine ⟨name, list, ?_⟩
    by_cases fits : items.length ≤ kind.fields.length
    · rw [fieldsOf?, if_pos fits] at read
      obtain rfl := Option.some.inj read
      exact List.mem_of_getElem? (List.getElem?_zip_eq_some.mpr ⟨placed, held⟩)
    · rw [fieldsOf?, if_neg fits] at read
      cases read

/-- What is made of the fields is the same when it is for a field left out and for a null one. -/
theorem bind_fieldsOf?_of_nullFilled {next : List (String × Json) → Option α}
    (filled : NullFilled kind json json')
    (same : ∀ before name after, name ∈ kind.optional → name ∉ (before ++ after).map Prod.fst →
      next (before ++ after) = next (before ++ (name, null) :: after)) :
    (fieldsOf? kind.fields json).bind next = (fieldsOf? kind.fields json').bind next := by
  obtain ⟨before, name, after, optional, absent, read, read'⟩ := fieldsOf?_of_nullFilled filled
  rw [read, read']
  exact same before name after optional absent

end Nulls

end Json

section Documents

variable {json json' : Json}

namespace PermissionBlock

theorem ofJson?_of_nullFilled (edited : EditedAt NullFilled .block json json') :
    ofJson? json = ofJson? json' := by
  cases edited with
  | own filled =>
    refine Json.bind_fieldsOf?_of_nullFilled filled fun before name after optional absent => ?_
    simp only [Json.optionalField?_insert_null _ _ absent]

end PermissionBlock

namespace RoleAssignment

theorem ofJson?_of_nullFilled (edited : EditedAt NullFilled .roleAssignment json json') :
    ofJson? json = ofJson? json' := by
  cases edited with
  | own filled =>
    refine Json.bind_fieldsOf?_of_nullFilled filled fun before name after optional absent => ?_
    simp only [Json.optionalField?_insert_null _ _ absent]
  | roleBlock edited =>
    refine Json.bind_fieldsOf?_of_fieldChanged edited fun before value value' after change => ?_
    simp only [ne_eq, String.reduceEq, not_false_eq_true, Json.optionalField?_insert_of_ne,
      Json.optionalField?_of_itemChanged
        (fun _ _ item => PermissionBlock.ofJson?_of_nullFilled item) change]

end RoleAssignment

namespace DenyAssignment

theorem ofJson?_of_nullFilled (edited : EditedAt NullFilled .denyAssignment json json') :
    ofJson? json = ofJson? json' := by
  cases edited with
  | own filled =>
    refine Json.bind_fieldsOf?_of_nullFilled filled fun before name after optional absent => ?_
    simp only [Json.optionalField?_insert_null _ _ absent]
  | denyBlock edited =>
    refine Json.bind_fieldsOf?_of_fieldChanged edited fun before value value' after change => ?_
    simp only [ne_eq, String.reduceEq, not_false_eq_true, Json.optionalField?_insert_of_ne,
      Json.optionalField?_of_itemChanged
        (fun _ _ item => PermissionBlock.ofJson?_of_nullFilled item) change]

end DenyAssignment

namespace Snapshot

theorem ofJson?_of_nullFilled (edited : EditedAt NullFilled .snapshot json json') :
    ofJson? json = ofJson? json' := by
  cases edited with
  | own filled =>
    exact Json.bind_fieldsOf?_of_nullFilled filled fun _ name _ optional _ => by cases optional
  | roleAssignment edited =>
    refine Json.bind_fieldsOf?_of_fieldChanged edited fun before value value' after change => ?_
    simp only [ne_eq, String.reduceEq, not_false_eq_true, Json.listField?_insert_of_ne,
      Json.listField?_of_itemChanged
        (fun _ _ item => RoleAssignment.ofJson?_of_nullFilled item) change]
  | denyAssignment edited =>
    refine Json.bind_fieldsOf?_of_fieldChanged edited fun before value value' after change => ?_
    simp only [ne_eq, String.reduceEq, not_false_eq_true, Json.listField?_insert_of_ne,
      Json.listField?_of_itemChanged
        (fun _ _ item => DenyAssignment.ofJson?_of_nullFilled item) change]

end Snapshot

theorem Requirement.ofJson?_of_nullFilled (edited : EditedAt NullFilled .requirement json json') :
    ofJson? json = ofJson? json' := by
  cases edited with
  | own filled =>
    exact Json.bind_fieldsOf?_of_nullFilled filled fun _ name _ optional _ => by cases optional

theorem Logging.ofJson?_of_nullFilled (edited : EditedAt NullFilled .logging json json') :
    ofJson? json = ofJson? json' := by
  cases edited with
  | own filled =>
    refine Json.bind_fieldsOf?_of_nullFilled filled fun before name after optional absent => ?_
    simp only [Json.optionalField?_insert_null _ _ absent]

theorem NamedCheck.not_nullFilled : ¬ EditedAt NullFilled .check json json'
  | .own (.member optional _) => by cases optional
  | .own (.item optional _) => by cases optional

namespace Config

theorem ofJson?_of_nullFilled (edited : EditedAt NullFilled .config json json') :
    ofJson? json = ofJson? json' := by
  cases edited with
  | own filled =>
    refine Json.bind_fieldsOf?_of_nullFilled filled fun before name after optional absent => ?_
    obtain rfl := List.mem_singleton.mp optional
    simp only [Json.optionalField?_insert_null _ _ absent, ne_eq, String.reduceEq,
      not_false_eq_true, Json.listField?_insert_of_ne]
  | logging edited =>
    refine Json.bind_fieldsOf?_of_fieldChanged edited fun before value value' after change => ?_
    have held : value ≠ .null ∧ value' ≠ .null := by
      obtain ⟨filled⟩ := change
      cases filled <;> exact ⟨nofun, nofun⟩
    simp only [ne_eq, String.reduceEq, not_false_eq_true, Json.listField?_insert_of_ne,
      Json.optionalField?_of_same held.1 held.2 (Logging.ofJson?_of_nullFilled change)]
  | check edited =>
    refine Json.bind_fieldsOf?_of_fieldChanged edited fun before value value' after change => ?_
    simp only [ne_eq, String.reduceEq, not_false_eq_true, Json.optionalField?_insert_of_ne,
      Json.listField?_of_itemChanged
        (fun _ _ item => absurd item NamedCheck.not_nullFilled) change]

end Config

/-! ### Null for a list -/

theorem not_holdsNullList {kind : RecordKind} (none : kind.lists = []) :
    ¬ HoldsNullList kind json
  | .member list _ => by rw [none] at list; cases list
  | .item list _ _ => by rw [none] at list; cases list

theorem PermissionBlock.not_nullForList : ¬ EditedAt NullForList .block json json'
  | .own held => not_holdsNullList rfl held

theorem RoleAssignment.not_nullForList : ¬ EditedAt NullForList .roleAssignment json json' := by
  intro edited
  cases edited with
  | own held => exact not_holdsNullList rfl held
  | roleBlock edited =>
    obtain ⟨_, _, change⟩ := edited.exists_change
    obtain ⟨_, _, change⟩ := change.exists_change
    exact PermissionBlock.not_nullForList change

theorem DenyAssignment.not_nullForList : ¬ EditedAt NullForList .denyAssignment json json' := by
  intro edited
  cases edited with
  | own held => exact not_holdsNullList rfl held
  | denyBlock edited =>
    obtain ⟨_, _, change⟩ := edited.exists_change
    obtain ⟨_, _, change⟩ := change.exists_change
    exact PermissionBlock.not_nullForList change

theorem Snapshot.ofJson?_of_nullForList (edited : EditedAt NullForList .snapshot json json') :
    ofJson? json' = none := by
  rw [Option.eq_none_iff_forall_ne_some]
  intro snapshot read
  obtain ⟨fields, fit, roles, denials⟩ := ofJson?_eq_some_iff.mp read
  cases edited with
  | own held =>
    obtain ⟨name, list, null⟩ := Json.null_mem_of_holdsNullList held fit
    rcases List.mem_pair.mp list with rfl | rfl
    · rw [Json.listField?_of_null_mem _ null] at roles
      cases roles
    · rw [Json.listField?_of_null_mem _ null] at denials
      cases denials
  | roleAssignment edited =>
    obtain ⟨_, _, change⟩ := edited.exists_change
    obtain ⟨_, _, change⟩ := change.exists_change
    exact RoleAssignment.not_nullForList change
  | denyAssignment edited =>
    obtain ⟨_, _, change⟩ := edited.exists_change
    obtain ⟨_, _, change⟩ := change.exists_change
    exact DenyAssignment.not_nullForList change

theorem Requirement.ofJson?_of_holdsNullList (held : HoldsNullList .requirement json) :
    ofJson? json = none := by
  rw [Option.eq_none_iff_forall_ne_some]
  intro requirement read
  obtain ⟨fields, fit, actions, dataActions⟩ := ofJson?_eq_some_iff.mp read
  obtain ⟨name, list, null⟩ := Json.null_mem_of_holdsNullList held fit
  rcases List.mem_pair.mp list with rfl | rfl
  · rw [Json.texts?, Json.listField?_of_null_mem _ null] at actions
    cases actions
  · rw [Json.texts?, Json.listField?_of_null_mem _ null] at dataActions
    cases dataActions

theorem Requirement.ofJson?_of_nullForList :
    EditedAt NullForList .requirement json json' → ofJson? json' = none
  | .own held => ofJson?_of_holdsNullList held

theorem NamedCheck.ofJson?_of_nullForList (edited : EditedAt NullForList .check json json') :
    ofJson? json' = none := by
  cases edited with
  | own held =>
    cases held with
    | item => rfl
    | @member members name list null =>
      -- its lists are not among its own fields, so they are left to its requirement
      have kept : (name, Json.null) ∈
          members.filter fun member => !ownFields.contains member.1 := by
        rw [List.mem_filter]
        refine ⟨null, ?_⟩
        rcases List.mem_pair.mp list with rfl | rfl <;> rfl
      rw [Option.eq_none_iff_forall_ne_some]
      intro check read
      simp only [ofJson?, bind, pure, Option.bind_eq_some_iff] at read
      obtain ⟨_, _, _, _, _, _, _, _, _, _, requirement, required, _⟩ := read
      rw [Requirement.ofJson?_of_holdsNullList (.member list kept)] at required
      cases required

theorem Config.ofJson?_of_nullForList (edited : EditedAt NullForList .config json json') :
    ofJson? json' = none := by
  rw [Option.eq_none_iff_forall_ne_some]
  intro config read
  obtain ⟨fields, fit, logging, checks⟩ := ofJson?_eq_some_iff.mp read
  cases edited with
  | own held =>
    obtain ⟨name, list, null⟩ := Json.null_mem_of_holdsNullList held fit
    obtain rfl := List.mem_singleton.mp list
    rw [Json.listField?_of_null_mem _ null] at checks
    cases checks
  | logging edited =>
    obtain ⟨_, _, change⟩ := edited.exists_change
    cases change with
    | own held => exact not_holdsNullList rfl held
  | check edited =>
    have none : ∀ item item' check, EditedAt NullForList .check item item' →
        NamedCheck.ofJson? item' = some check → False := by
      intro item item' check edited read
      rw [NamedCheck.ofJson?_of_nullForList edited] at read
      cases read
    obtain ⟨_, _, absurd⟩ := Json.exists_mem_of_listField? edited fit checks none
    exact absurd

end Documents

/-! ### Whole documents -/

/-- Documents of a kind are read as they were written: what is written is read back, null says the
same as nothing where a field may be missing, and nothing but an array is a list. -/
structure ReadAsWritten {α : Type} (kind : RecordKind) (read? : Json → Option α)
    (write : α → Json) : Prop where
  /-- What is written is read back as it was. -/
  back : ∀ value, read? (write value) = some value
  /-- It is read back also when the keys of all its records are sorted. -/
  sortedBack : ∀ value, read? (write value).inKeyOrder = some value
  /-- A missing field may as well be null, at any depth. -/
  nullForNothing : ∀ json json', EditedAt NullFilled kind json json' → read? json = read? json'
  /-- A list that is null, at any depth, has the whole document refused. -/
  nullForList : ∀ json json', EditedAt NullForList kind json json' → read? json' = none

/-- **Snapshots, requirements and configurations are read as they were written.** -/
theorem documents_are_read_as_written :
    ReadAsWritten .snapshot Snapshot.ofJson? Snapshot.toJson ∧
      ReadAsWritten .requirement Requirement.ofJson? Requirement.toJson ∧
      ReadAsWritten .config Config.ofJson? Config.toJson := by
  refine ⟨?snapshot, ?requirement, ?config⟩
  case snapshot =>
    exact {
      back := Snapshot.ofJson?_toJson
      sortedBack := Snapshot.ofJson?_inKeyOrder
      nullForNothing := fun _ _ edited => Snapshot.ofJson?_of_nullFilled edited
      nullForList := fun _ _ edited => Snapshot.ofJson?_of_nullForList edited }
  case requirement =>
    exact {
      back := Requirement.ofJson?_toJson
      sortedBack := Requirement.ofJson?_inKeyOrder
      nullForNothing := fun _ _ edited => Requirement.ofJson?_of_nullFilled edited
      nullForList := fun _ _ edited => Requirement.ofJson?_of_nullForList edited }
  case config =>
    exact {
      back := Config.ofJson?_toJson
      sortedBack := Config.ofJson?_inKeyOrder
      nullForNothing := fun _ _ edited => Config.ofJson?_of_nullFilled edited
      nullForList := fun _ _ edited => Config.ofJson?_of_nullForList edited }

/-- A snapshot with one role assignment of one block, in JSON. -/
def readerJson (lists : List (String × Json)) : Json :=
  .object [("roleAssignments", .array [.object [("id", .string "r1"),
    ("permissions", .array [.object lists])]])]

/-- A list that is missing three records deep may as well be null there. -/
theorem reader_exceptions_may_be_null :
    EditedAt NullFilled .snapshot (readerJson [("actions", .ofTexts ["*"])])
      (readerJson [("actions", .ofTexts ["*"]), ("notActions", .null)]) ∧
    Snapshot.ofJson? (readerJson [("actions", .ofTexts ["*"])]) = some {
      roleAssignments := [{ id := some "r1", permissions := some [{ actions := some ["*"] }] }] } ∧
    Snapshot.ofJson? (readerJson [("actions", .ofTexts ["*"])]) =
      Snapshot.ofJson? (readerJson [("actions", .ofTexts ["*"]), ("notActions", .null)]) := by
  have filled : NullFilled .block (.object [("actions", .ofTexts ["*"])])
      (.object [("actions", .ofTexts ["*"]), ("notActions", .null)]) :=
    @NullFilled.member .block [("actions", .ofTexts ["*"])] [] "notActions" (by decide) (by decide)
  have assignment := EditedAt.roleBlock <|
    @Json.FieldChanged.member RecordKind.roleAssignment.fields "permissions" _
      [("id", .string "r1")] [] _ _ (@Json.ItemChanged.item _ [] [] _ _ (.own filled))
  have edited := EditedAt.roleAssignment <|
    @Json.FieldChanged.member RecordKind.snapshot.fields "roleAssignments" _ [] [] _ _
      (@Json.ItemChanged.item _ [] [] _ _ assignment)
  exact ⟨edited, rfl, documents_are_read_as_written.1.nullForNothing _ _ edited⟩

end AccessAudit
