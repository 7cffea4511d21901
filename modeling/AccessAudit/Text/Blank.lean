/-
**Blank characters and blank texts.**

A field of a configuration counts as left empty when it holds nothing but blank characters. Blank
means the White_Space property of Unicode, which holds for twenty-five characters.

* `isBlank`: the property of one character;
* `isBlankText`: every character of a text is blank.
-/

namespace AccessAudit.Text

/-- The White_Space property of Unicode. -/
def isBlank (c : Char) : Bool :=
  let code := c.toNat
  (0x09 ≤ code && code ≤ 0x0d) || code == 0x20 || code == 0x85 || code == 0xa0
    || code == 0x1680 || (0x2000 ≤ code && code ≤ 0x200a) || code == 0x2028 || code == 0x2029
    || code == 0x202f || code == 0x205f || code == 0x3000

/-- A text is blank when it holds blank characters only; the empty text is blank. -/
def isBlankText (text : String) : Bool :=
  text.toList.all isBlank

end AccessAudit.Text
