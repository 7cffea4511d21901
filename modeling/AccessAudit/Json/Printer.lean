/-
**Writing JSON.**

Two layouts: everything on one line without a blank, and one item or member a line with two spaces
for each level. Strings are escaped no more than needed: the quote, the backslash and the control
characters below the space, the common ones by a letter and the others by four lower-case
hexadecimal digits.

* `Json.compact`: the layout on one line;
* `Json.pretty`: the layout on several lines.
-/
import AccessAudit.Json.Basic

namespace AccessAudit

namespace Json

/-- A hexadecimal digit. -/
def hexDigit (n : Nat) : Char :=
  Nat.digitChar (n % 16)

/-- One character as a string literal holds it. -/
def escapedChar (c : Char) : List Char :=
  match c with
  | '"' => ['\\', '"']
  | '\\' => ['\\', '\\']
  | '\x08' => ['\\', 'b']
  | '\x0c' => ['\\', 'f']
  | '\n' => ['\\', 'n']
  | '\r' => ['\\', 'r']
  | '\t' => ['\\', 't']
  | c =>
    if c.toNat < 0x20 then
      ['\\', 'u', '0', '0', hexDigit (c.toNat / 16), hexDigit c.toNat]
    else [c]

/-- A string literal with its quotes. -/
def literal (text : String) : List Char :=
  '"' :: (text.toList.flatMap escapedChar ++ ['"'])

end Json

/-- The digits of a number, with an exponent where it has one. -/
def Number.literal (number : Number) : List Char :=
  let digits := (toString number.mantissa).toList
  if number.exponent = 0 then digits else digits ++ 'e' :: (toString number.exponent).toList

namespace Json

/-! ### On one line -/

mutual

/-- The characters of a value on one line. An illegible value is written as an empty string. -/
def compactChars : Json → List Char
  | null => ['n', 'u', 'l', 'l']
  | bool true => ['t', 'r', 'u', 'e']
  | bool false => ['f', 'a', 'l', 's', 'e']
  | number value => value.literal
  | string text => literal text
  | illegible => literal ""
  | array items => '[' :: (compactItems items ++ [']'])
  | object members => '\x7b' :: (compactMembers members ++ ['\x7d'])

/-- The items of an array with commas between them. -/
def compactItems : List Json → List Char
  | [] => []
  | [item] => compactChars item
  | item :: rest => compactChars item ++ ',' :: compactItems rest

/-- The members of an object with commas between them. -/
def compactMembers : List (String × Json) → List Char
  | [] => []
  | [(key, value)] => literal key ++ ':' :: compactChars value
  | (key, value) :: rest =>
    literal key ++ ':' :: (compactChars value ++ ',' :: compactMembers rest)

end

/-- The value on one line. -/
def compact (value : Json) : String :=
  String.ofList value.compactChars

/-! ### On several lines -/

/-- A new line at a level. -/
def newLine (level : Nat) : List Char :=
  '\n' :: List.replicate (2 * level) ' '

mutual

/-- The characters of a value whose first line begins at a level. Empty arrays and objects stay on
one line. -/
def prettyChars (level : Nat) : Json → List Char
  | array [] => ['[', ']']
  | array (item :: rest) => '[' :: (prettyItems level (item :: rest) ++ newLine level ++ [']'])
  | object [] => ['\x7b', '\x7d']
  | object (member :: rest) =>
    '\x7b' :: (prettyMembers level (member :: rest) ++ newLine level ++ ['\x7d'])
  | null => ['n', 'u', 'l', 'l']
  | bool true => ['t', 'r', 'u', 'e']
  | bool false => ['f', 'a', 'l', 's', 'e']
  | number value => value.literal
  | string text => literal text
  | illegible => literal ""

/-- Each item of an array on a line of its own, one level deeper. -/
def prettyItems (level : Nat) : List Json → List Char
  | [] => []
  | [item] => newLine (level + 1) ++ prettyChars (level + 1) item
  | item :: rest =>
    newLine (level + 1) ++ prettyChars (level + 1) item ++ ',' :: prettyItems level rest

/-- Each member of an object on a line of its own, one level deeper. -/
def prettyMembers (level : Nat) : List (String × Json) → List Char
  | [] => []
  | [(key, value)] =>
    newLine (level + 1) ++ literal key ++ ':' :: ' ' :: prettyChars (level + 1) value
  | (key, value) :: rest =>
    newLine (level + 1) ++ literal key ++ ':' :: ' ' :: prettyChars (level + 1) value
      ++ ',' :: prettyMembers level rest

end

/-- The value on several lines. -/
def pretty (value : Json) : String :=
  String.ofList (value.prettyChars 0)

end Json

end AccessAudit
