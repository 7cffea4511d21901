/-
**Records read from JSON.**

A record has named fields in a fixed order. It comes as an object, where unknown keys are passed
over whatever they hold and a known key may not be repeated, or as an array of the fields in their
order, where the last ones may be left out.

* `Json.fieldsOf?`: the fields of a record in either form;
* `Json.optionalField?`: a field that may be missing or null;
* `Json.listField?`: a list that may be missing but not null;
* `Json.texts?`: a list of strings.
-/
import AccessAudit.Json.Basic

namespace AccessAudit.Json

/-- The fields of a record that has these field names: the members of an object, or the items of an
array under the names in order. -/
def fieldsOf? (names : List String) : Json → Option (List (String × Json))
  | object members => some members
  | array items => if items.length ≤ names.length then some (names.zip items) else none
  | _ => none

/-- The value under a key, which may be missing but not repeated. -/
def field? (name : String) (members : List (String × Json)) : Option (Option Json) :=
  match members.filter fun member => member.1 == name with
  | [] => some none
  | [(_, value)] => some (some value)
  | _ => none

/-- A field that may be missing; null counts as missing. -/
def optionalField? {α : Type} (read? : Json → Option α) (name : String)
    (members : List (String × Json)) : Option (Option α) := do
  match ← field? name members with
  | none | some null => return none
  | some value => return some (← read? value)

/-- A list that is empty when its field is missing; null is no list. -/
def listField? {α : Type} (read? : Json → Option (List α)) (name : String)
    (members : List (String × Json)) : Option (List α) := do
  match ← field? name members with
  | none => return []
  | some value => read? value

/-- A string. -/
def text? : Json → Option String
  | string text => some text
  | _ => none

/-- A truth value. -/
def bool? : Json → Option Bool
  | bool value => some value
  | _ => none

/-- An array each of whose items can be read. -/
def listOf? {α : Type} (read? : Json → Option α) : Json → Option (List α)
  | array items => items.mapM read?
  | _ => none

/-- An array of strings. -/
def texts? : Json → Option (List String) :=
  listOf? text?

/-! ### Writing -/

/-- A string, or null when there is none. -/
def ofText? : Option String → Json
  | some text => string text
  | none => null

/-- An array of strings. -/
def ofTexts (texts : List String) : Json :=
  array (texts.map string)

/-- An array of strings, or null when there is none. -/
def ofTexts? : Option (List String) → Json
  | some texts => ofTexts texts
  | none => null

/-- A member for a field that is there, and none for a missing one. -/
def memberOf {α : Type} (name : String) (write : α → Json) : Option α → List (String × Json)
  | some value => [(name, write value)]
  | none => []

end AccessAudit.Json
