/-
**A place in a text.**

A cursor is what remains of a text, with the number of characters before it and the line and the
column it is in. A carriage return with a line feed after it is one end of a line.

* `Cursor.skip`, `Cursor.skipBreak`, `Cursor.skipWhile`: going on;
* `Cursor.atDocumentMark`: three dashes or three points alone at the beginning of a line.
-/
import AccessAudit.Yaml.Token

namespace AccessAudit.Yaml

/-- A place in a text. -/
structure Cursor where
  rest : List Char
  index : Nat := 0
  line : Nat := 0
  column : Nat := 0
  deriving Repr

namespace Cursor

/-- Go on by a number of characters of the same line. -/
def skip (cursor : Cursor) (n : Nat := 1) : Cursor :=
  { cursor with
    rest := cursor.rest.drop n
    index := cursor.index + n
    column := cursor.column + n }

/-- Go on to the beginning of the next line, if the cursor is at the end of a line. -/
def skipBreak (cursor : Cursor) : Cursor :=
  let next (n : Nat) : Cursor :=
    { rest := cursor.rest.drop n
      index := cursor.index + n
      line := cursor.line + 1
      column := 0 }
  match cursor.rest with
  | '\r' :: '\n' :: _ => next 2
  | c :: _ => if isBreak c then next 1 else cursor
  | [] => cursor

/-- The characters that the end of a line stands for in a scalar: the separators of lines and of
paragraphs stand for themselves and every other end for a line feed. -/
def breakChars (cursor : Cursor) : List Char :=
  match cursor.rest with
  | c :: _ => if c == '\u2028' || c == '\u2029' then [c] else ['\n']
  | [] => []

/-- The run of characters of a class at the cursor. -/
def run (cursor : Cursor) (isIn : Char → Bool) : List Char :=
  cursor.rest.takeWhile isIn

/-- Go on over the run of characters of a class, none of which ends a line. -/
def skipWhile (cursor : Cursor) (isIn : Char → Bool) : Cursor :=
  cursor.skip (cursor.run isIn).length

/-- The first character. -/
def head? (cursor : Cursor) : Option Char :=
  cursor.rest.head?

/-- The first character is this one. -/
def startsWith (cursor : Cursor) (c : Char) : Bool :=
  cursor.rest.head? == some c

/-- What follows the first character. -/
def tail (cursor : Cursor) : List Char :=
  cursor.rest.tail

/-- Three times this character at the beginning of a line, and nothing else with it. -/
def atMark (cursor : Cursor) (c : Char) : Bool :=
  cursor.column == 0 && cursor.rest.take 3 == [c, c, c] && isBlankOrEnd (cursor.rest.drop 3)

/-- The beginning or the end of a document is marked here. -/
def atDocumentMark (cursor : Cursor) : Bool :=
  cursor.atMark '-' || cursor.atMark '.'

/-- Go on to the end of the line. -/
def skipLine (cursor : Cursor) : Cursor :=
  cursor.skipWhile fun c => !isBreak c

/-- Go on over blanks and a comment; something else before the end of the line is an error. -/
def skipToLineEnd? (cursor : Cursor) : Option Cursor :=
  let cursor := cursor.skipWhile isBlank
  let cursor := if cursor.startsWith '#' then cursor.skipLine else cursor
  if isBreakOrEnd cursor.rest then some cursor.skipBreak else none

end Cursor

end AccessAudit.Yaml
