/-
**References to environment variables.**

A text may refer to a variable by its name between `$` and braces, where a name is made of capital
letters, digits and underscores and does not begin with a digit. A second `$` in front escapes the
reference, which then stands for itself with one `$`. All else stands for itself: names in lower
case, references without an end, and dollars without braces. A value is put in as it is and never
looked at again.

* `segments`: a text cut into characters, references and escaped references;
* `substitute`: the text with every reference replaced, or the first variable that is missing;
* `Json.resolve`: the same for every string of a value, with the path to the string at fault.
-/
import AccessAudit.Environment
import AccessAudit.Json.Basic

namespace AccessAudit

namespace Reference

/-- A character that a name may begin with. -/
def isNameStart (c : Char) : Bool :=
  ('A' ≤ c && c ≤ 'Z') || c == '_'

/-- A character that a name may hold. -/
def isNameChar (c : Char) : Bool :=
  isNameStart c || c.isDigit

/-- The name before a closing brace, and what follows the brace. -/
def readName? (cs : List Char) : Option (List Char × List Char) :=
  match cs.head?, cs.dropWhile isNameChar with
  | some first, '\x7d' :: rest =>
    if isNameStart first then some (cs.takeWhile isNameChar, rest) else none
  | _, _ => none

/-- What follows a name is shorter than what the name was read from. -/
theorem length_lt_of_readName? {cs name rest : List Char}
    (read : readName? cs = some (name, rest)) : rest.length < cs.length := by
  unfold readName? at read
  split at read
  · rename_i first tail _ dropped
    split at read
    · simp only [Option.some.injEq, Prod.mk.injEq] at read
      have shorter : (cs.dropWhile isNameChar).length ≤ cs.length :=
        (List.dropWhile_suffix isNameChar).length_le
      rw [dropped, List.length_cons, read.2] at shorter
      omega
    · simp at read
  · simp at read

/-- A part of a text. -/
inductive Segment where
  /-- A character that stands for itself. -/
  | char (c : Char)
  /-- A reference that stands for itself. -/
  | escaped (name : List Char)
  /-- A reference that stands for the value of a variable. -/
  | reference (name : List Char)
  deriving DecidableEq, Repr

/-- The parts of a text in order. A reference with a dollar in front is escaped, and of a longer
run of dollars the last two count. -/
def segments (cs : List Char) : List Segment :=
  match cs with
  | [] => []
  | '$' :: '$' :: '\x7b' :: rest =>
    match _named : readName? rest with
    | some (name, after) => .escaped name :: segments after
    | none => .char '$' :: segments ('$' :: '\x7b' :: rest)
  | '$' :: '\x7b' :: rest =>
    match _named : readName? rest with
    | some (name, after) => .reference name :: segments after
    | none => .char '$' :: segments ('\x7b' :: rest)
  | c :: rest => .char c :: segments rest
termination_by cs.length
decreasing_by
  · have shorter := length_lt_of_readName? _named
    simp only [List.length_cons]
    omega
  · simp only [List.length_cons]
    omega
  · have shorter := length_lt_of_readName? _named
    simp only [List.length_cons]
    omega
  · simp only [List.length_cons]
    omega
  · simp only [List.length_cons]
    omega

/-- A reference as it is written. -/
def written (name : List Char) : List Char :=
  '$' :: '\x7b' :: (name ++ ['\x7d'])

/-- The text of the parts, or the first variable that is missing. A variable set to nothing counts
as missing. -/
def render (environment : Environment) : List Segment → Except String (List Char)
  | [] => .ok []
  | .char c :: rest => (render environment rest).map (c :: ·)
  | .escaped name :: rest => (render environment rest).map (written name ++ ·)
  | .reference name :: rest =>
    match environment.filled? (String.ofList name) with
    | none => .error (String.ofList name)
    | some value => (render environment rest).map (value.toList ++ ·)

/-- A text with every reference replaced, or the first variable that is missing. -/
def substitute (environment : Environment) (text : String) : Except String String :=
  (render environment (segments text.toList)).map String.ofList

/-- The names of the variables that a text refers to. -/
def namesIn (text : String) : List String :=
  (segments text.toList).filterMap fun
    | .reference name => some (String.ofList name)
    | _ => none

end Reference

/-! ### References in a value -/

/-- A variable that a string of a value refers to and that is missing. -/
structure MissingVariable where
  name : String
  /-- The way to the string: keys joined by points, indices in brackets. -/
  path : String
  deriving DecidableEq, Repr

/-- The words for a missing variable. -/
def MissingVariable.message (missing : MissingVariable) : String :=
  "Missing env var \"" ++ missing.name ++ "\" referenced at config path: " ++ missing.path

namespace Json

/-- The way to a member of the object at a path. -/
def memberPath (path key : String) : String :=
  if path.isEmpty then key else path ++ "." ++ key

/-- The way to an item of the array at a path. -/
def itemPath (path : String) (index : Nat) : String :=
  path ++ "[" ++ toString index ++ "]"

mutual

/-- Replace the references in every string of the value at a path, in the order of the value. -/
def resolveAt (environment : Environment) (path : String) : Json → Except MissingVariable Json
  | string text =>
    match Reference.substitute environment text with
    | .error name => .error { name, path }
    | .ok text => .ok (string text)
  | array items => (resolveItems environment path 0 items).map array
  | object members => (resolveMembers environment path members).map object
  | value => .ok value

/-- Replace the references in the items of an array from an index on. -/
def resolveItems (environment : Environment) (path : String) (index : Nat) :
    List Json → Except MissingVariable (List Json)
  | [] => .ok []
  | item :: rest => do
    let item ← resolveAt environment (itemPath path index) item
    let rest ← resolveItems environment path (index + 1) rest
    return item :: rest

/-- Replace the references in the members of an object. -/
def resolveMembers (environment : Environment) (path : String) :
    List (String × Json) → Except MissingVariable (List (String × Json))
  | [] => .ok []
  | (key, value) :: rest => do
    let value ← resolveAt environment (memberPath path key) value
    let rest ← resolveMembers environment path rest
    return (key, value) :: rest

end

/-- Replace the references in every string of a value, the members of objects in the order of their
keys. Keys are left as they are. -/
def resolve (environment : Environment) (value : Json) : Except MissingVariable Json :=
  resolveAt environment "" value.inKeyOrder

end Json

end AccessAudit
