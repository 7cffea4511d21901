/-
**Tokens of YAML.**

A text in YAML is first cut into tokens. Most of the structure is told by indentation, so the
tokens include the beginning and the end of a block collection, for which the text has no
character, and the mark of a key, which is put in front of a key once its colon is found.

* `ScalarStyle`, `Token`: the tokens;
* `isBreak`, `isBlank`, `isBlankOrEnd`: the classes of characters that separate them.
-/

namespace AccessAudit.Yaml

/-- How a scalar is written. -/
inductive ScalarStyle where
  | plain
  | singleQuoted
  | doubleQuoted
  | literal
  | folded
  deriving DecidableEq, Repr

/-- A token. -/
inductive Token where
  /-- The version that a document asks for. -/
  | version (major minor : Nat)
  /-- What a tag handle stands for in a document. -/
  | handle (name meaning : String)
  | documentStart
  | documentEnd
  | blockSequenceStart
  | blockMappingStart
  /-- The end of a block collection. -/
  | blockEnd
  | flowSequenceStart
  | flowSequenceEnd
  | flowMappingStart
  | flowMappingEnd
  | blockEntry
  | flowEntry
  /-- What follows is a key. -/
  | key
  /-- What follows is the value of a key. -/
  | value
  /-- A node that was given a name before. -/
  | reference (name : String)
  /-- The name of the node that follows. -/
  | anchor (name : String)
  | tag (handle suffix : String)
  | scalar (style : ScalarStyle) (text : String)
  deriving DecidableEq, Repr

/-! ### Classes of characters -/

/-- A character that ends a line. -/
def isBreak (c : Char) : Bool :=
  c == '\n' || c == '\r' || c == '\u0085' || c == '\u2028' || c == '\u2029'

/-- A space or a tab. -/
def isBlank (c : Char) : Bool :=
  c == ' ' || c == '\t'

/-- A blank or the end of a line. -/
def isSeparator (c : Char) : Bool :=
  isBlank c || isBreak c

/-- The text begins with a blank or the end of a line, or is at its end. -/
def isBlankOrEnd (cs : List Char) : Bool :=
  match cs with
  | [] => true
  | c :: _ => isSeparator c

/-- The text begins with the end of a line, or is at its end. -/
def isBreakOrEnd (cs : List Char) : Bool :=
  match cs with
  | [] => true
  | c :: _ => isBreak c

/-- A character that names of anchors, handles and directives are made of. -/
def isWordChar (c : Char) : Bool :=
  c.isAlphanum || c == '_' || c == '-'

/-- A character that may stand in a text at all. -/
def isAllowed (c : Char) : Bool :=
  let code := c.toNat
  code == 0x09 || code == 0x0a || code == 0x0d || (0x20 ≤ code && code ≤ 0x7e) || code == 0x85
    || (0xa0 ≤ code && code ≤ 0xd7ff) || (0xe000 ≤ code && code ≤ 0xfffd) || 0x10000 ≤ code

end AccessAudit.Yaml
