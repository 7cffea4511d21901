/-
**Places in a document of records.**

A document is a record whose fields hold further records, alone or in lists. Two documents may
differ at one place only: one record somewhere in them, however deep, is another one. What a reader
makes of the two then depends on what it makes of that record, since every other field is read as
before.

* `RecordKind`: the kinds of records, the names of their fields, and which of them may be null;
* `Json.FieldChanged`, `Json.ItemChanged`: one field of a record, or one item of a list, is another;
* `EditedAt`: one record of a document is edited, at whatever depth;
* `fieldsOf?_of_fieldChanged`, `listOf?_of_itemChanged`: two documents that differ so read the same
  where the changed records do;
* `Json.exists_mem_of_listField?`, `Json.exists_mem_of_optionalField?`: what the changed record is
  read as is among the records of the document;
* `ofJson?_eq_some_iff` of the types of records: a record is read field by field.
-/
import AccessAudit.Config.Json
import Mathlib.Data.List.Basic
import Mathlib.Data.List.Nodup

namespace AccessAudit

/-! ### The kinds of records -/

/-- The kinds of records that documents are made of. -/
inductive RecordKind where
  | block
  | roleAssignment
  | denyAssignment
  | snapshot
  | requirement
  | logging
  | check
  | config
  deriving DecidableEq, Repr

namespace RecordKind

/-- The names of the fields, in order. -/
def fields : RecordKind → List String
  | block => ["actions", "notActions", "dataActions", "notDataActions"]
  | roleAssignment => ["id", "roleDefinitionId", "roleName", "permissions"]
  | denyAssignment => ["id", "denyAssignmentName", "permissions"]
  | snapshot => ["roleAssignments", "denyAssignments"]
  | requirement => ["actions", "dataActions"]
  | logging => ["level", "json", "dir"]
  | check => ["name", "scope", "snapshot", "actions", "dataActions"]
  | config => ["logging", "checks"]

/-- The fields for which null says the same as nothing. -/
def optional : RecordKind → List String
  | block => ["actions", "notActions", "dataActions", "notDataActions"]
  | roleAssignment => ["id", "roleDefinitionId", "roleName", "permissions"]
  | denyAssignment => ["id", "denyAssignmentName", "permissions"]
  | logging => ["level", "json", "dir"]
  | config => ["logging"]
  | snapshot | requirement | check => []

/-- The lists that may be left out but not be null. -/
def lists : RecordKind → List String
  | snapshot => ["roleAssignments", "denyAssignments"]
  | requirement => ["actions", "dataActions"]
  | check => ["actions", "dataActions"]
  | config => ["checks"]
  | block | roleAssignment | denyAssignment | logging => []

end RecordKind

/-! ### Documents that differ at one place -/

namespace Json

/-- One field of a record is another value, whether the record is an object or an array. -/
inductive FieldChanged (names : List String) (name : String) (changed : Json → Json → Prop) :
    Json → Json → Prop
  | member {before after : List (String × Json)} {value value' : Json}
      (change : changed value value') :
      FieldChanged names name changed (object (before ++ (name, value) :: after))
        (object (before ++ (name, value') :: after))
  | item {before after : List Json} {value value' : Json}
      (placed : names[before.length]? = some name) (change : changed value value') :
      FieldChanged names name changed (array (before ++ value :: after))
        (array (before ++ value' :: after))

/-- One item of a list is another value. -/
inductive ItemChanged (changed : Json → Json → Prop) : Json → Json → Prop
  | item {before after : List Json} {value value' : Json} (change : changed value value') :
      ItemChanged changed (array (before ++ value :: after)) (array (before ++ value' :: after))

theorem FieldChanged.exists_change {names : List String} {name : String}
    {changed : Json → Json → Prop} {json json' : Json} :
    FieldChanged names name changed json json' → ∃ value value', changed value value'
  | .member change => ⟨_, _, change⟩
  | .item _ change => ⟨_, _, change⟩

theorem ItemChanged.exists_change {changed : Json → Json → Prop} {value value' : Json} :
    ItemChanged changed value value' → ∃ item item', changed item item'
  | .item change => ⟨_, _, change⟩

end Json

open Json in
/-- One record of a document is edited: the document itself, or a record at some depth in it. -/
inductive EditedAt (edit : RecordKind → Json → Json → Prop) : RecordKind → Json → Json → Prop
  | own {kind : RecordKind} {json json' : Json} (edited : edit kind json json') :
      EditedAt edit kind json json'
  | roleBlock {json json' : Json}
      (edited : FieldChanged RecordKind.roleAssignment.fields "permissions"
        (ItemChanged (EditedAt edit .block)) json json') :
      EditedAt edit .roleAssignment json json'
  | denyBlock {json json' : Json}
      (edited : FieldChanged RecordKind.denyAssignment.fields "permissions"
        (ItemChanged (EditedAt edit .block)) json json') :
      EditedAt edit .denyAssignment json json'
  | roleAssignment {json json' : Json}
      (edited : FieldChanged RecordKind.snapshot.fields "roleAssignments"
        (ItemChanged (EditedAt edit .roleAssignment)) json json') :
      EditedAt edit .snapshot json json'
  | denyAssignment {json json' : Json}
      (edited : FieldChanged RecordKind.snapshot.fields "denyAssignments"
        (ItemChanged (EditedAt edit .denyAssignment)) json json') :
      EditedAt edit .snapshot json json'
  | logging {json json' : Json}
      (edited : FieldChanged RecordKind.config.fields "logging" (EditedAt edit .logging)
        json json') :
      EditedAt edit .config json json'
  | check {json json' : Json}
      (edited : FieldChanged RecordKind.config.fields "checks"
        (ItemChanged (EditedAt edit .check)) json json') :
      EditedAt edit .config json json'

namespace Json

/-! ### Finding a field -/

section Finding

variable {before after members : List (String × Json)} {name other : String}

/-- A field is looked for among the members of its own name. -/
theorem filter_name_eq_nil_iff :
    (members.filter fun member => member.1 == name) = [] ↔ name ∉ members.map Prod.fst := by
  rw [List.filter_eq_nil_iff, List.mem_map, not_exists]
  simp only [beq_iff_eq, not_and]

theorem field?_of_absent (absent : name ∉ members.map Prod.fst) :
    field? name members = some none := by
  rw [field?, filter_name_eq_nil_iff.mpr absent]

theorem field?_insert_self (absent : name ∉ (before ++ after).map Prod.fst) (value : Json) :
    field? name (before ++ (name, value) :: after) = some (some value) := by
  rw [List.map_append, List.mem_append, not_or] at absent
  rw [field?, List.filter_append, List.filter_cons_of_pos (by simp),
    filter_name_eq_nil_iff.mpr absent.1, filter_name_eq_nil_iff.mpr absent.2]
  rfl

/-- Where another member stands in between makes no difference. -/
theorem field?_insert_of_ne (apart : other ≠ name) (value : Json) :
    field? other (before ++ (name, value) :: after) = field? other (before ++ after) := by
  unfold field?
  rw [List.filter_append, List.filter_append,
    List.filter_cons_of_neg (by simpa using apart.symm)]

/-- A field that stands once is read, and one that is repeated is refused. -/
theorem field?_insert (before after : List (String × Json)) (name : String) :
    (∀ value, field? name (before ++ (name, value) :: after) = some (some value)) ∨
      ∀ value, field? name (before ++ (name, value) :: after) = none := by
  have around : ∀ value,
      (before ++ (name, value) :: after).filter (fun member => member.1 == name) =
      before.filter (fun member => member.1 == name) ++
        (name, value) :: after.filter (fun member => member.1 == name) := by
    intro value
    rw [List.filter_append, List.filter_cons_of_pos (by simp)]
  simp only [field?, around]
  -- whether others of the name stand around it does not hang on the value
  cases before.filter (fun member => member.1 == name) with
  | nil =>
    cases after.filter (fun member => member.1 == name) with
    | nil => exact .inl fun value => rfl
    | cons next rest => exact .inr fun value => rfl
  | cons first rest =>
    cases rest with
    | nil => exact .inr fun value => rfl
    | cons second rest => exact .inr fun value => rfl

end Finding

/-! ### What readers make of an edit -/

section Reading

variable {α : Type} {read? : Json → Option α} {names : List String} {name other : String}
  {changed : Json → Json → Prop} {json json' value value' : Json}
  {before after members : List (String × Json)}

/-- The items of an array stand under the names before, at and after the place of one of them. -/
theorem zip_insert {items : List Json} (placed : names[items.length]? = some name)
    (value : Json) (rest : List Json) :
    names.zip (items ++ value :: rest) =
      (names.take items.length).zip items ++
        (name, value) :: (names.drop (items.length + 1)).zip rest := by
  obtain ⟨inside, here⟩ := List.getElem?_eq_some_iff.mp placed
  have split : names = names.take items.length ++ name :: names.drop (items.length + 1) := by
    rw [← here, ← List.drop_eq_getElem_cons inside, List.take_append_drop]
  have taken : (names.take items.length).length = items.length :=
    List.length_take_of_le (Nat.le_of_lt inside)
  conv_lhs => rw [split]
  rw [List.zip_append taken, List.zip_cons_cons]

/-- The fields of the two records are the same up to the one that is changed. -/
theorem fieldsOf?_of_fieldChanged (edited : FieldChanged names name changed json json') :
    (fieldsOf? names json = none ∧ fieldsOf? names json' = none) ∨
      ∃ before value value' after, changed value value' ∧
        fieldsOf? names json = some (before ++ (name, value) :: after) ∧
        fieldsOf? names json' = some (before ++ (name, value') :: after) := by
  cases edited with
  | member change => exact .inr ⟨_, _, _, _, change, rfl, rfl⟩
  | @item before after value value' placed change =>
    -- the array has the same length before and after, so both fit or neither does
    by_cases fits : (before ++ value :: after).length ≤ names.length
    · refine .inr ⟨(names.take before.length).zip before, value, value',
        (names.drop (before.length + 1)).zip after, change, ?_, ?_⟩
      · rw [fieldsOf?, if_pos fits, zip_insert placed]
      · rw [fieldsOf?, if_pos (by simpa using fits), zip_insert placed]
    · refine .inl ⟨if_neg fits, if_neg ?_⟩
      simpa using fits

/-- What is made of the fields is the same when it does not hang on the one that is changed. -/
theorem bind_fieldsOf?_of_fieldChanged {next : List (String × Json) → Option α}
    (edited : FieldChanged names name changed json json')
    (same : ∀ before value value' after, changed value value' →
      next (before ++ (name, value) :: after) = next (before ++ (name, value') :: after)) :
    (fieldsOf? names json).bind next = (fieldsOf? names json').bind next := by
  rcases fieldsOf?_of_fieldChanged edited with
    ⟨refused, refused'⟩ | ⟨before, value, value', after, change, read, read'⟩
  · rw [refused, refused']
  · rw [read, read']
    exact same before value value' after change

/-- The fields that are left after one of them is changed. -/
theorem exists_fields_of_fieldChanged {fields : List (String × Json)}
    (edited : FieldChanged names name changed json json')
    (read : fieldsOf? names json' = some fields) :
    ∃ before value value' after, changed value value' ∧
      fields = before ++ (name, value') :: after := by
  rcases fieldsOf?_of_fieldChanged edited with
    ⟨_, refused⟩ | ⟨before, value, value', after, change, _, read'⟩
  · rw [refused] at read
    cases read
  · rw [read'] at read
    exact ⟨before, value, value', after, change, (Option.some.inj read).symm⟩

/-- An optional value, for which null says the same as nothing. -/
def optional? (read? : Json → Option α) : Json → Option (Option α)
  | null => some none
  | value => do return some (← read? value)

theorem optional?_of_ne_null (held : value ≠ null) :
    optional? read? value = (read? value).map some := by
  unfold optional?
  split
  · exact absurd rfl held
  · cases read? value <;> rfl

theorem optionalField?_eq (read? : Json → Option α) (name : String)
    (members : List (String × Json)) :
    optionalField? read? name members = (field? name members).bind fun found? =>
      found?.elim (some none) (optional? read?) := by
  unfold optionalField?
  cases field? name members with
  | none => rfl
  | some found? =>
    cases found? with
    | none => rfl
    | some value => cases value <;> rfl

theorem listField?_eq (read? : Json → Option (List α)) (name : String)
    (members : List (String × Json)) :
    listField? read? name members = (field? name members).bind fun found? =>
      found?.elim (some []) read? := by
  unfold listField?
  cases field? name members with
  | none => rfl
  | some found? => cases found? <;> rfl

/-- An optional field that stands once reads as its value does. -/
theorem optionalField?_insert (read? : Json → Option α) (before after : List (String × Json))
    (name : String) :
    (∀ value, optionalField? read? name (before ++ (name, value) :: after) =
      optional? read? value) ∨
    ∀ value, optionalField? read? name (before ++ (name, value) :: after) = none := by
  simp only [optionalField?_eq]
  refine (field?_insert before after name).imp (fun once value => ?_) fun repeated value => ?_
  · rw [once]
    rfl
  · rw [repeated]
    rfl

/-- A list that stands once reads as its value does. -/
theorem listField?_insert (read? : Json → Option (List α)) (before after : List (String × Json))
    (name : String) :
    (∀ value, listField? read? name (before ++ (name, value) :: after) = read? value) ∨
    ∀ value, listField? read? name (before ++ (name, value) :: after) = none := by
  simp only [listField?_eq]
  refine (field?_insert before after name).imp (fun once value => ?_) fun repeated value => ?_
  · rw [once]
    rfl
  · rw [repeated]
    rfl

theorem optionalField?_insert_of_ne (apart : other ≠ name) :
    optionalField? read? other (before ++ (name, value) :: after) =
      optionalField? read? other (before ++ after) := by
  rw [optionalField?_eq, optionalField?_eq, field?_insert_of_ne apart]

theorem listField?_insert_of_ne {read? : Json → Option (List α)} (apart : other ≠ name) :
    listField? read? other (before ++ (name, value) :: after) =
      listField? read? other (before ++ after) := by
  rw [listField?_eq, listField?_eq, field?_insert_of_ne apart]

theorem optionalField?_of_absent (absent : name ∉ members.map Prod.fst) :
    optionalField? read? name members = some none := by
  rw [optionalField?_eq, field?_of_absent absent]
  rfl

theorem listField?_of_absent {read? : Json → Option (List α)}
    (absent : name ∉ members.map Prod.fst) : listField? read? name members = some [] := by
  rw [listField?_eq, field?_of_absent absent]
  rfl

/-! ### What readers make of a changed item -/

/-- A list with one item changed reads the same when the item does. -/
theorem listOf?_of_itemChanged
    (same : ∀ item item', changed item item' → read? item = read? item')
    (edited : ItemChanged changed value value') : listOf? read? value = listOf? read? value' := by
  cases edited with
  | item change =>
    unfold listOf?
    simp only [List.mapM_append, List.mapM_cons, same _ _ change]

/-- An optional field reads the same when its value does, unless it is null. -/
theorem optionalField?_of_same (held : value ≠ null) (held' : value' ≠ null)
    (same : read? value = read? value') :
    optionalField? read? name (before ++ (name, value) :: after) =
      optionalField? read? name (before ++ (name, value') :: after) := by
  rcases optionalField?_insert read? before after name with once | repeated
  · rw [once, once, optional?_of_ne_null held, optional?_of_ne_null held', same]
  · rw [repeated, repeated]

/-- An optional list with one item changed reads the same when the item does. -/
theorem optionalField?_of_itemChanged
    (same : ∀ item item', changed item item' → read? item = read? item')
    (edited : ItemChanged changed value value') :
    optionalField? (listOf? read?) name (before ++ (name, value) :: after) =
      optionalField? (listOf? read?) name (before ++ (name, value') :: after) := by
  have items := listOf?_of_itemChanged same edited
  cases edited
  exact optionalField?_of_same nofun nofun items

/-- A list with one item changed reads the same, as a field, when the item does. -/
theorem listField?_of_itemChanged
    (same : ∀ item item', changed item item' → read? item = read? item')
    (edited : ItemChanged changed value value') :
    listField? (listOf? read?) name (before ++ (name, value) :: after) =
      listField? (listOf? read?) name (before ++ (name, value') :: after) := by
  rcases listField?_insert (listOf? read?) before after name with once | repeated
  · rw [once, once, listOf?_of_itemChanged same edited]
  · rw [repeated, repeated]

section Marked

variable {marked : α → Prop} {values : List α} {fields : List (String × Json)}

/-- What the changed item of a list is read as is one of the values of the list. -/
theorem exists_mem_of_itemChanged
    (edited : ItemChanged changed value value') (read : listOf? read? value' = some values)
    (each : ∀ item item' read, changed item item' → read? item' = some read → marked read) :
    ∃ value ∈ values, marked value := by
  cases edited with
  | @item items rest item item' change =>
    change (items ++ item' :: rest).mapM read? = some values at read
    rw [List.mapM_append, List.mapM_cons] at read
    obtain ⟨front, _, read⟩ := Option.bind_eq_some_iff.mp read
    obtain ⟨tail, later, read⟩ := Option.bind_eq_some_iff.mp read
    obtain ⟨here, found, later⟩ := Option.bind_eq_some_iff.mp later
    obtain ⟨back, _, later⟩ := Option.bind_eq_some_iff.mp later
    obtain rfl := Option.some.inj later
    obtain rfl := Option.some.inj read
    exact ⟨here, List.mem_append_right front List.mem_cons_self, each item item' here change found⟩

/-- The same for a list that is a field. -/
theorem exists_mem_of_listField?
    (edited : FieldChanged names name (ItemChanged changed) json json')
    (fit : fieldsOf? names json' = some fields)
    (read : listField? (listOf? read?) name fields = some values)
    (each : ∀ item item' read, changed item item' → read? item' = some read → marked read) :
    ∃ value ∈ values, marked value := by
  obtain ⟨before, value, value', after, change, rfl⟩ := exists_fields_of_fieldChanged edited fit
  rcases listField?_insert (listOf? read?) before after name with once | repeated
  · rw [once] at read
    exact exists_mem_of_itemChanged change read each
  · rw [repeated] at read
    cases read

/-- The same for a list that is an optional field. -/
theorem exists_mem_of_optionalField? {found? : Option (List α)}
    (edited : FieldChanged names name (ItemChanged changed) json json')
    (fit : fieldsOf? names json' = some fields)
    (read : optionalField? (listOf? read?) name fields = some found?)
    (each : ∀ item item' read, changed item item' → read? item' = some read → marked read) :
    ∃ value ∈ found?.getD [], marked value := by
  obtain ⟨before, value, value', after, change, rfl⟩ := exists_fields_of_fieldChanged edited fit
  have held : value' ≠ null := by
    cases change
    nofun
  rcases optionalField?_insert (listOf? read?) before after name with once | repeated
  · rw [once, optional?_of_ne_null held] at read
    obtain ⟨values, list, rfl⟩ := Option.map_eq_some_iff.mp read
    exact exists_mem_of_itemChanged change list each
  · rw [repeated] at read
    cases read

end Marked

end Reading

end Json

/-! ### What records are read from -/

section Records

variable {json : Json}

theorem PermissionBlock.ofJson?_eq_some_iff {block : PermissionBlock} :
    ofJson? json = some block ↔
      ∃ fields, json.fieldsOf? RecordKind.block.fields = some fields ∧
        Json.optionalField? Json.texts? "actions" fields = some block.actions ∧
        Json.optionalField? Json.texts? "notActions" fields = some block.notActions ∧
        Json.optionalField? Json.texts? "dataActions" fields = some block.dataActions ∧
        Json.optionalField? Json.texts? "notDataActions" fields = some block.notDataActions := by
  simp only [ofJson?, bind, pure, Option.bind_eq_some_iff, Option.some.injEq]
  constructor
  · rintro ⟨fields, fit, _, actions, _, notActions, _, dataActions, _, notDataActions, rfl⟩
    exact ⟨fields, fit, actions, notActions, dataActions, notDataActions⟩
  · rintro ⟨fields, fit, actions, notActions, dataActions, notDataActions⟩
    exact ⟨fields, fit, _, actions, _, notActions, _, dataActions, _, notDataActions, rfl⟩

theorem RoleAssignment.ofJson?_eq_some_iff {assignment : RoleAssignment} :
    ofJson? json = some assignment ↔
      ∃ fields, json.fieldsOf? RecordKind.roleAssignment.fields = some fields ∧
        Json.optionalField? Json.text? "id" fields = some assignment.id ∧
        Json.optionalField? Json.text? "roleDefinitionId" fields =
          some assignment.roleDefinitionId ∧
        Json.optionalField? Json.text? "roleName" fields = some assignment.roleName ∧
        Json.optionalField? (Json.listOf? PermissionBlock.ofJson?) "permissions" fields =
          some assignment.permissions := by
  simp only [ofJson?, bind, pure, Option.bind_eq_some_iff, Option.some.injEq]
  constructor
  · rintro ⟨fields, fit, _, id, _, definition, _, name, _, permissions, rfl⟩
    exact ⟨fields, fit, id, definition, name, permissions⟩
  · rintro ⟨fields, fit, id, definition, name, permissions⟩
    exact ⟨fields, fit, _, id, _, definition, _, name, _, permissions, rfl⟩

theorem DenyAssignment.ofJson?_eq_some_iff {assignment : DenyAssignment} :
    ofJson? json = some assignment ↔
      ∃ fields, json.fieldsOf? RecordKind.denyAssignment.fields = some fields ∧
        Json.optionalField? Json.text? "id" fields = some assignment.id ∧
        Json.optionalField? Json.text? "denyAssignmentName" fields =
          some assignment.denyAssignmentName ∧
        Json.optionalField? (Json.listOf? PermissionBlock.ofJson?) "permissions" fields =
          some assignment.permissions := by
  simp only [ofJson?, bind, pure, Option.bind_eq_some_iff, Option.some.injEq]
  constructor
  · rintro ⟨fields, fit, _, id, _, name, _, permissions, rfl⟩
    exact ⟨fields, fit, id, name, permissions⟩
  · rintro ⟨fields, fit, id, name, permissions⟩
    exact ⟨fields, fit, _, id, _, name, _, permissions, rfl⟩

theorem Snapshot.ofJson?_eq_some_iff {snapshot : Snapshot} :
    ofJson? json = some snapshot ↔
      ∃ fields, json.fieldsOf? RecordKind.snapshot.fields = some fields ∧
        Json.listField? (Json.listOf? RoleAssignment.ofJson?) "roleAssignments" fields =
          some snapshot.roleAssignments ∧
        Json.listField? (Json.listOf? DenyAssignment.ofJson?) "denyAssignments" fields =
          some snapshot.denyAssignments := by
  simp only [ofJson?, bind, pure, Option.bind_eq_some_iff, Option.some.injEq]
  constructor
  · rintro ⟨fields, fit, _, roles, _, denials, rfl⟩
    exact ⟨fields, fit, roles, denials⟩
  · rintro ⟨fields, fit, roles, denials⟩
    exact ⟨fields, fit, _, roles, _, denials, rfl⟩

theorem Requirement.ofJson?_eq_some_iff {requirement : Requirement} :
    ofJson? json = some requirement ↔
      ∃ fields, json.fieldsOf? RecordKind.requirement.fields = some fields ∧
        Json.listField? Json.texts? "actions" fields = some requirement.actions ∧
        Json.listField? Json.texts? "dataActions" fields = some requirement.dataActions := by
  simp only [ofJson?, bind, pure, Option.bind_eq_some_iff, Option.some.injEq]
  constructor
  · rintro ⟨fields, fit, _, actions, _, dataActions, rfl⟩
    exact ⟨fields, fit, actions, dataActions⟩
  · rintro ⟨fields, fit, actions, dataActions⟩
    exact ⟨fields, fit, _, actions, _, dataActions, rfl⟩

theorem Config.ofJson?_eq_some_iff {config : Config} :
    ofJson? json = some config ↔
      ∃ fields, json.fieldsOf? RecordKind.config.fields = some fields ∧
        Json.optionalField? Logging.ofJson? "logging" fields = some config.logging ∧
        Json.listField? (Json.listOf? NamedCheck.ofJson?) "checks" fields =
          some config.checks := by
  simp only [ofJson?, bind, pure, Option.bind_eq_some_iff, Option.some.injEq]
  constructor
  · rintro ⟨fields, fit, _, logging, _, checks, rfl⟩
    exact ⟨fields, fit, logging, checks⟩
  · rintro ⟨fields, fit, logging, checks⟩
    exact ⟨fields, fit, _, logging, _, checks, rfl⟩

end Records

end AccessAudit
