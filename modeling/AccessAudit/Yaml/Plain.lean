/-
**What a plain scalar stands for.**

Where nothing else is said, a plain scalar stands for null, a truth value, a number or a text, as
its characters suggest. Digits after a leading zero are a text, not a number. Whole numbers have
64 bits; those that need up to 128 bits are numbers that nothing here can hold, and beyond that
only decimal digits still count as a number, a float.

* `isNull`, `truth?`: null and the truth values;
* `readInteger?`, `isFloat`: numbers;
* `PlainValue.of`: what a plain scalar stands for.
-/
import AccessAudit.Json.Basic
import AccessAudit.Text.Digits

namespace AccessAudit.Yaml

/-- The words for null. -/
def isNull (text : String) : Bool :=
  ["null", "Null", "NULL", "~"].contains text

/-- The words for the truth values. -/
def truth? (text : String) : Option Bool :=
  if ["true", "True", "TRUE"].contains text then some true
  else if ["false", "False", "FALSE"].contains text then some false
  else none

/-! ### Whole numbers -/

/-- The value of a digit in a base of at most sixteen. -/
def digitIn? (base : Nat) (c : Char) : Option Nat :=
  (Text.hexValue? c).filter (· < base)

/-- The number of at least one digit in a base. -/
def numberIn? (base : Nat) (digits : List Char) : Option Nat :=
  if digits.isEmpty then none
  else digits.foldlM (fun value c => (digitIn? base c).map (value * base + ·)) 0

/-- Digits after a leading zero, behind one sign at most. -/
def isZeroPadded (cs : List Char) : Bool :=
  let digits := match cs with
    | '-' :: rest | '+' :: rest => rest
    | _ => cs
  digits.length > 1 && digits.head? == some '0' && digits.all Char.isDigit

/-- A magnitude in the base that its first characters tell. -/
def magnitude? (cs : List Char) : Option Nat :=
  match cs with
  | '0' :: 'x' :: rest => numberIn? 16 rest
  | '0' :: 'o' :: rest => numberIn? 8 rest
  | '0' :: 'b' :: rest => numberIn? 2 rest
  | _ => if isZeroPadded cs then none else numberIn? 10 cs

/-- A whole number behind one sign at most. -/
def readInteger? (cs : List Char) : Option Int :=
  match cs with
  | '-' :: rest => (magnitude? rest).map fun n => -(n : Int)
  | '+' :: rest => (magnitude? rest).map Int.ofNat
  | _ => (magnitude? cs).map Int.ofNat

/-! ### Floats -/

/-- The words for what is no finite number. -/
def isSpecialFloat (text : String) : Bool :=
  [".inf", ".Inf", ".INF", "+.inf", "+.Inf", "+.INF", "-.inf", "-.Inf", "-.INF",
    ".nan", ".NaN", ".NAN"].contains text

/-- The exponent of a float, zero where there is none. -/
def floatExponent? (cs : List Char) : Option Int :=
  match cs with
  | [] => some 0
  | 'e' :: rest | 'E' :: rest =>
    match rest with
    | '-' :: digits => (numberIn? 10 digits).map fun n => -(n : Int)
    | '+' :: digits => (numberIn? 10 digits).map Int.ofNat
    | digits => (numberIn? 10 digits).map Int.ofNat
  | _ => none

/-- A decimal number without a sign: digits with a point among them or beside them, and an
exponent. -/
def decimal? (cs : List Char) : Option Number :=
  let whole := cs.takeWhile Char.isDigit
  let rest := cs.dropWhile Char.isDigit
  let (fraction, rest) := match rest with
    | '.' :: rest => (rest.takeWhile Char.isDigit, rest.dropWhile Char.isDigit)
    | _ => ([], rest)
  if whole.isEmpty && fraction.isEmpty then none
  else
    (floatExponent? rest).map fun exponent =>
      { mantissa := Text.digitsValue (whole ++ fraction)
        exponent := exponent - fraction.length }

/-- The text is a float: one of the words, or a decimal number in the range of floats behind one
sign at most. -/
def isFloat (text : String) : Bool :=
  isSpecialFloat text ||
    match text.toList with
    | '+' :: rest | '-' :: rest => (decimal? rest).any Number.isInRange
    | cs => (decimal? cs).any Number.isInRange

/-! ### All together -/

/-- What a plain scalar stands for. -/
inductive PlainValue where
  | null
  | bool (value : Bool)
  | number
  /-- A whole number that needs more than 64 bits. -/
  | wideNumber
  | text
  deriving DecidableEq, Repr

/-- A whole number that 64 bits hold, with a sign or without. -/
def isNarrow (n : Int) : Bool :=
  -(Nat.pow 2 63 : Int) ≤ n && n < (Nat.pow 2 64 : Int)

/-- A whole number that 128 bits hold, with a sign or without. -/
def isWide (n : Int) : Bool :=
  -(Nat.pow 2 127 : Int) ≤ n && n < (Nat.pow 2 128 : Int)

/-- What a plain scalar with this text stands for. -/
def PlainValue.of (text : String) : PlainValue :=
  if text.isEmpty || isNull text then null
  else
    match truth? text with
    | some value => bool value
    | none =>
      let cs := text.toList
      match (readInteger? cs).filter isWide with
      | some n => if isNarrow n then number else wideNumber
      | none => if !isZeroPadded cs && isFloat text then number else .text

end AccessAudit.Yaml
