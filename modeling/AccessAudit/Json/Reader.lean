/-
**Reading JSON.**

The grammar is strict: no comments, no trailing commas, nothing but blanks around the value, no
raw control character in a string, and a number has neither a leading zero nor a bare point. A
string whose escapes leave half of a surrogate pair is well formed and illegible; an object with
such a key is illegible as a whole.

* `Json.readText`: the characters of a string up to its closing quote;
* `Json.readNumber`: a number;
* `Json.readValue`: a value at the beginning of a text;
* `Json.parse?`: the one value that a text holds.
-/
import AccessAudit.Json.Basic
import AccessAudit.Text.Digits

namespace AccessAudit.Json

/-! ### Blanks -/

/-- The four characters that may stand between the parts of a value. -/
def isSpace (c : Char) : Bool :=
  c == ' ' || c == '\t' || c == '\n' || c == '\r'

/-- What follows the blanks. -/
def skipSpace (cs : List Char) : List Char :=
  cs.dropWhile isSpace

/-! ### Strings -/

/-- What one character or one escape of a string stands for. -/
inductive Piece where
  | char (c : Char)
  /-- Half of a surrogate pair. -/
  | half (unit : Nat)
  deriving DecidableEq, Repr

/-- What an escape of four digits stands for. -/
def Piece.ofUnit (unit : Nat) : Piece :=
  if 0xd800 ≤ unit ∧ unit ≤ 0xdfff then half unit else char (Char.ofNat unit)

/-- The character of a surrogate pair. -/
def pairChar (high low : Nat) : Char :=
  Char.ofNat (0x10000 + (high - 0xd800) * 0x400 + (low - 0xdc00))

/-- The characters that the pieces of a string stand for, if every half has its other half. -/
def joinPieces? : List Piece → Option (List Char)
  | [] => some []
  | .char c :: rest => (joinPieces? rest).map (c :: ·)
  | .half high :: .half low :: rest =>
    if high < 0xdc00 ∧ 0xdc00 ≤ low then (joinPieces? rest).map (pairChar high low :: ·)
    else none
  | .half _ :: _ => none

/-- What the letter of an escape stands for. -/
def escapeLetter? : Char → Option Char
  | '"' => some '"'
  | '\\' => some '\\'
  | '/' => some '/'
  | 'b' => some '\x08'
  | 'f' => some '\x0c'
  | 'n' => some '\n'
  | 'r' => some '\r'
  | 't' => some '\t'
  | _ => none

/-- The pieces of a string up to its closing quote, added in reverse to those read before, and
what follows the quote. -/
def readPieces (before : List Piece) : List Char → Option (List Piece × List Char)
  | [] => none
  | '"' :: rest => some (before.reverse, rest)
  | '\\' :: 'u' :: a :: b :: c :: d :: rest =>
    match Text.hexNumber? [a, b, c, d] with
    | some unit => readPieces (Piece.ofUnit unit :: before) rest
    | none => none
  | '\\' :: letter :: rest =>
    match escapeLetter? letter with
    | some c => readPieces (.char c :: before) rest
    | none => none
  | c :: rest => if c.toNat < 0x20 then none else readPieces (.char c :: before) rest

/-- The text of a string up to its closing quote, or nothing for an illegible one, and what
follows the quote. -/
def readText (cs : List Char) : Option (Option String × List Char) :=
  (readPieces [] cs).map fun (pieces, rest) => ((joinPieces? pieces).map String.ofList, rest)

/-! ### Numbers -/

/-- A run of digits, which may be empty, and what follows it. -/
def readDigits (cs : List Char) : List Char × List Char :=
  (cs.takeWhile Char.isDigit, cs.dropWhile Char.isDigit)

/-- The digits after a point, of which there is at least one, or none without a point. -/
def readFraction : List Char → Option (List Char × List Char)
  | '.' :: rest =>
    match readDigits rest with
    | ([], _) => none
    | (digits, rest) => some (digits, rest)
  | cs => some ([], cs)

/-- The exponent after its letter, of at least one digit, or zero without a letter. -/
def readExponent (cs : List Char) : Option (Int × List Char) :=
  let digitsOf (negative : Bool) (cs : List Char) : Option (Int × List Char) :=
    match readDigits cs with
    | ([], _) => none
    | (digits, rest) =>
      some (if negative then -(Text.digitsValue digits : Int) else Text.digitsValue digits, rest)
  match cs with
  | 'e' :: rest | 'E' :: rest =>
    match rest with
    | '-' :: rest => digitsOf true rest
    | '+' :: rest => digitsOf false rest
    | rest => digitsOf false rest
  | cs => some (0, cs)

/-- A number without its sign: whole digits without a leading zero, a fraction, an exponent. -/
def readMagnitude (cs : List Char) : Option (Nat × Int × List Char) :=
  match readDigits cs with
  | ([], _) => none
  | ('0' :: _ :: _, _) => none
  | (whole, rest) => do
    let (fraction, rest) ← readFraction rest
    let (exponent, rest) ← readExponent rest
    return (Text.digitsValue (whole ++ fraction), exponent - fraction.length, rest)

/-- A number and what follows it. -/
def readNumber : List Char → Option (Json × List Char)
  | '-' :: rest =>
    (readMagnitude rest).map fun (magnitude, exponent, rest) =>
      (number { mantissa := -(magnitude : Int), exponent }, rest)
  | cs =>
    (readMagnitude cs).map fun (magnitude, exponent, rest) =>
      (number { mantissa := magnitude, exponent }, rest)

/-! ### Values -/

/-- An object of members whose keys can all be told, or else an illegible value. -/
def objectOf (members : List (Option String × Json)) : Json :=
  match members.mapM fun (key, value) => key.map (·, value) with
  | some members => object members
  | none => illegible

mutual

/-- A value that begins with the first character, and what follows it. The fuel bounds the number
of steps; three times the number of characters is enough. -/
def readValue : Nat → List Char → Option (Json × List Char)
  | 0, _ => none
  | fuel + 1, cs =>
    match cs with
    | 'n' :: 'u' :: 'l' :: 'l' :: rest => some (null, rest)
    | 't' :: 'r' :: 'u' :: 'e' :: rest => some (bool true, rest)
    | 'f' :: 'a' :: 'l' :: 's' :: 'e' :: rest => some (bool false, rest)
    | '"' :: rest =>
      (readText rest).map fun (text, rest) => (text.elim illegible string, rest)
    | '[' :: rest =>
      match skipSpace rest with
      | ']' :: rest => some (array [], rest)
      | cs => (readItems fuel cs).map fun (items, rest) => (array items, rest)
    | '\x7b' :: rest =>
      match skipSpace rest with
      | '\x7d' :: rest => some (object [], rest)
      | cs => (readMembers fuel cs).map fun (members, rest) => (objectOf members, rest)
    | cs => readNumber cs

/-- The items of an array from the first character on, up to its closing bracket. -/
def readItems : Nat → List Char → Option (List Json × List Char)
  | 0, _ => none
  | fuel + 1, cs =>
    match readValue fuel cs with
    | none => none
    | some (item, rest) =>
      match skipSpace rest with
      | ']' :: rest => some ([item], rest)
      | ',' :: rest =>
        (readItems fuel (skipSpace rest)).map fun (items, rest) => (item :: items, rest)
      | _ => none

/-- The members of an object from the first character on, up to its closing brace. -/
def readMembers : Nat → List Char → Option (List (Option String × Json) × List Char)
  | 0, _ => none
  | fuel + 1, cs =>
    match readMember fuel cs with
    | none => none
    | some (member, rest) =>
      match skipSpace rest with
      | '\x7d' :: rest => some ([member], rest)
      | ',' :: rest =>
        (readMembers fuel (skipSpace rest)).map fun (members, rest) => (member :: members, rest)
      | _ => none

/-- A key, a colon and a value. -/
def readMember : Nat → List Char → Option ((Option String × Json) × List Char)
  | 0, _ => none
  | fuel + 1, cs =>
    match cs with
    | '"' :: rest =>
      match readText rest with
      | none => none
      | some (key, rest) =>
        match skipSpace rest with
        | ':' :: rest =>
          (readValue fuel (skipSpace rest)).map fun (value, rest) => ((key, value), rest)
        | _ => none
    | _ => none

end

/-- The value at the beginning of a text and what follows it. -/
def parseChars? (cs : List Char) : Option (Json × List Char) :=
  readValue (3 * cs.length + 1) (skipSpace cs)

/-- The one value that a text holds, with nothing but blanks around it. -/
def parse? (text : String) : Option Json :=
  match parseChars? text.toList with
  | some (value, rest) => if (skipSpace rest).isEmpty then some value else none
  | none => none

end AccessAudit.Json
