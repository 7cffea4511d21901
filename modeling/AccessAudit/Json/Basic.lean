/-
**JSON values.**

An object keeps its members in the order of the text, repeated keys included: what a repetition
means is for the reader of a record to say. One kind of value has no counterpart outside a text:
a string may be well formed and yet stand for no characters, when an escape in it is half of a
surrogate pair. Such a value is kept as illegible, so that it can be passed over where nobody asks
for it and refused where somebody does.

* `Number.isInRange`: a number that a double precision float can hold;
* `Json.inKeyOrder`: members sorted by key at every level, the last of a repeated key kept;
* `Json.isDefinite`: nothing illegible or out of range at any level;
* `Json.depth`: how deep arrays and objects are nested.
-/
import AccessAudit.Text.Ordered

namespace AccessAudit

/-- A decimal number: the mantissa times ten to the exponent. -/
structure Number where
  mantissa : Int
  exponent : Int := 0
  deriving DecidableEq, Repr

namespace Number

/-- The least magnitude that rounds to an infinite double precision float. -/
def rangeEnd : Nat := Nat.pow 2 1024 - Nat.pow 2 970

/-- The number rounds to a finite double precision float. Numbers whose decimal order of magnitude
is far from the end of the range are told by it alone. -/
def isInRange (number : Number) : Bool :=
  let magnitude := number.mantissa.natAbs
  let order := (Nat.toDigits 10 magnitude).length + number.exponent
  if magnitude = 0 ∨ order < 300 then true
  else if order > 310 then false
  else magnitude * Nat.pow 10 number.exponent.toNat <
    rangeEnd * Nat.pow 10 (-number.exponent).toNat

end Number

/-- A JSON value. -/
inductive Json where
  | null
  | bool (value : Bool)
  | number (value : Number)
  | string (text : String)
  | array (items : List Json)
  | object (members : List (String × Json))
  /-- A string or a key that is well formed but stands for no characters. -/
  | illegible
  deriving Inhabited, Repr

namespace Json

/-! ### Order of members -/

mutual

/-- The members of every object sorted by key; of a repeated key the last member is kept. -/
def inKeyOrder : Json → Json
  | array items => array (itemsInKeyOrder items)
  | object members => object (Text.sortedEntries (membersInKeyOrder members))
  | value => value

/-- Every item with its members sorted. -/
def itemsInKeyOrder : List Json → List Json
  | [] => []
  | item :: rest => inKeyOrder item :: itemsInKeyOrder rest

/-- Every member's value with its members sorted. -/
def membersInKeyOrder : List (String × Json) → List (String × Json)
  | [] => []
  | (key, value) :: rest => (key, inKeyOrder value) :: membersInKeyOrder rest

end

/-! ### Definite values -/

mutual

/-- Nothing in the value is illegible, and every number is in range. -/
def isDefinite : Json → Bool
  | illegible => false
  | number value => value.isInRange
  | array items => areItemsDefinite items
  | object members => areMembersDefinite members
  | _ => true

/-- Every item is definite. -/
def areItemsDefinite : List Json → Bool
  | [] => true
  | item :: rest => isDefinite item && areItemsDefinite rest

/-- Every member's value is definite. -/
def areMembersDefinite : List (String × Json) → Bool
  | [] => true
  | (_, value) :: rest => isDefinite value && areMembersDefinite rest

end

/-! ### Nesting -/

mutual

/-- How many arrays and objects are nested in each other at the deepest place. -/
def depth : Json → Nat
  | array items => itemsDepth items + 1
  | object members => membersDepth members + 1
  | _ => 0

/-- The depth of the deepest item. -/
def itemsDepth : List Json → Nat
  | [] => 0
  | item :: rest => max (depth item) (itemsDepth rest)

/-- The depth of the deepest member. -/
def membersDepth : List (String × Json) → Nat
  | [] => 0
  | (_, value) :: rest => max (depth value) (membersDepth rest)

end

end Json

end AccessAudit
