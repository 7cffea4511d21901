/-
**Substitution is settled string by string.**

Replacing the references in a value goes through its strings in order, and in each string through
its references in order, and it stops at the first variable that is missing. So all that comes of it
is known by two things: the variables that are missing, each with the path of its string, in the
order in which they would be met; and the value with every string filled in, whose shape is that of
the value before.

* `Reference.missingIn`, `Reference.filled`: what a text lacks, and the text filled in;
* `Json.stringsAt`: the strings of a value with their paths, in order;
* `Reference.substitute_eq_settled`, `Json.resolveAt_eq_settled`: the value filled in, or the first
  variable that is missing.
-/
import AccessAudit.Proofs.FirstDefect
import AccessAudit.Reference

namespace AccessAudit

/-! ### One text -/

namespace Reference

variable (environment : Environment)

/-- The variables of the references that have no value or an empty one, in order. -/
def missingIn (text : String) : List String :=
  (namesIn text).filter fun name => (environment.filled? name).isNone

/-- What a part of a text comes to; a missing variable comes to nothing. -/
def Segment.filled : Segment → List Char
  | .char c => [c]
  | .escaped name => written name
  | .reference name => ((environment.filled? (String.ofList name)).getD "").toList

/-- A text with every reference filled in. -/
def filled (text : String) : String :=
  String.ofList ((segments text.toList).flatMap (Segment.filled environment))

/-- The parts of a text are rendered one after the other, up to a variable that is missing. -/
theorem render_eq_settled (parts : List Segment) :
    render environment parts = settled
      ((parts.filterMap fun
        | .reference name => some (String.ofList name)
        | _ => none).filter fun name => (environment.filled? name).isNone)
      (parts.flatMap (Segment.filled environment)) := by
  induction parts with
  | nil => rfl
  | cons part rest ih =>
    cases part with
    | char c =>
      rw [render, ih, settled_map]
      rfl
    | escaped name =>
      rw [render, ih, settled_map]
      rfl
    | reference name =>
      rw [render]
      cases found : environment.filled? (String.ofList name) with
      | none => simp [found, settled]
      | some value =>
        simp only [ih, settled_map]
        simp [found, Segment.filled]

/-- **A text is filled in, or its first missing variable is told.** -/
theorem substitute_eq_settled (text : String) :
    substitute environment text =
      settled (missingIn environment text) (filled environment text) := by
  unfold substitute
  rw [render_eq_settled, settled_map]
  rfl

theorem substitute_eq_ok_iff (text result : String) :
    substitute environment text = .ok result ↔
      missingIn environment text = [] ∧ filled environment text = result := by
  rw [substitute_eq_settled, settled_eq_ok_iff]

theorem substitute_eq_error_iff (text name : String) :
    substitute environment text = .error name ↔
      (missingIn environment text).head? = some name := by
  rw [substitute_eq_settled, settled_eq_error_iff]

end Reference

/-! ### All strings of a value -/

namespace Json

variable (environment : Environment)

mutual

/-- The strings of the value at a path, each with its own path, in the order of the value. -/
def stringsAt (path : String) : Json → List (String × String)
  | string text => [(path, text)]
  | array items => itemStrings path 0 items
  | object members => memberStrings path members
  | _ => []

/-- The strings of the items of an array from an index on. -/
def itemStrings (path : String) (index : Nat) : List Json → List (String × String)
  | [] => []
  | item :: rest => stringsAt (itemPath path index) item ++ itemStrings path (index + 1) rest

/-- The strings of the members of an object. -/
def memberStrings (path : String) : List (String × Json) → List (String × String)
  | [] => []
  | (key, value) :: rest => stringsAt (memberPath path key) value ++ memberStrings path rest

end

mutual

/-- The value with every string filled in. -/
def filled : Json → Json
  | string text => string (Reference.filled environment text)
  | array items => array (filledItems items)
  | object members => object (filledMembers members)
  | value => value

/-- The items with every string filled in. -/
def filledItems : List Json → List Json
  | [] => []
  | item :: rest => filled item :: filledItems rest

/-- The members with every string of their values filled in. -/
def filledMembers : List (String × Json) → List (String × Json)
  | [] => []
  | (key, value) :: rest => (key, filled value) :: filledMembers rest

end

/-- The variables that a string lacks, under the path of the string. -/
def missingAt (entry : String × String) : List MissingVariable :=
  (Reference.missingIn environment entry.2).map fun name => { name, path := entry.1 }

mutual

/-- **The strings of a value are filled in, or the first missing variable is told with the path of
its string.** -/
theorem resolveAt_eq_settled (path : String) : ∀ value : Json,
    resolveAt environment path value =
      settled ((stringsAt path value).flatMap (missingAt environment)) (filled environment value)
  | string text => by
    rw [resolveAt, Reference.substitute_eq_settled, stringsAt, filled, List.flatMap_singleton,
      missingAt]
    cases Reference.missingIn environment text <;> rfl
  | array items => by
    rw [resolveAt, resolveItems_eq_settled path 0 items, settled_map, stringsAt, filled]
  | object members => by
    rw [resolveAt, resolveMembers_eq_settled path members, settled_map, stringsAt, filled]
  | null => rfl
  | bool _ => rfl
  | number _ => rfl
  | illegible => rfl

theorem resolveItems_eq_settled (path : String) (index : Nat) : ∀ items : List Json,
    resolveItems environment path index items =
      settled ((itemStrings path index items).flatMap (missingAt environment))
        (filledItems environment items)
  | [] => rfl
  | item :: rest => by
    rw [resolveItems, resolveAt_eq_settled (itemPath path index) item,
      resolveItems_eq_settled path (index + 1) rest, itemStrings, filledItems,
      List.flatMap_append]
    simp only [settled_bind_pure, settled_bind]

theorem resolveMembers_eq_settled (path : String) : ∀ members : List (String × Json),
    resolveMembers environment path members =
      settled ((memberStrings path members).flatMap (missingAt environment))
        (filledMembers environment members)
  | [] => rfl
  | (key, value) :: rest => by
    rw [resolveMembers, resolveAt_eq_settled (memberPath path key) value,
      resolveMembers_eq_settled path rest, memberStrings, filledMembers, List.flatMap_append]
    simp only [settled_bind_pure, settled_bind]

end

end Json

end AccessAudit
