/-
**Scalars of YAML.**

A scalar is a text in one of five styles. Quoted and plain scalars may run over several lines: one
end of a line between two words is folded into a space, and of several the first is dropped. Block
scalars keep the lines that are indented as deep as their first one, and either keep their ends or
fold them.

* `Gap`: what stands between two words of a scalar;
* `readQuoted?`: a scalar between quotes;
* `readPlain?`: a scalar without quotes;
* `readBlock?`: a scalar in a block of lines.
-/
import AccessAudit.Text.Digits
import AccessAudit.Yaml.Cursor

namespace AccessAudit.Yaml

/-! ### Between two words -/

/-- What stands between two words. -/
structure Gap where
  /-- The blanks, as long as no line has ended. -/
  blanks : List Char := []
  /-- Whether a line has ended. -/
  broken : Bool := false
  /-- What the first end of a line stands for. -/
  first : List Char := []
  /-- What the other ends of lines stand for. -/
  more : List Char := []
  deriving Repr

/-- The characters that a gap stands for. -/
def Gap.chars (gap : Gap) : List Char :=
  if gap.broken then
    if gap.first = ['\n'] then if gap.more.isEmpty then [' '] else gap.more
    else gap.first ++ gap.more
  else gap.blanks

/-- Read blanks and ends of lines. Where an indentation is given, a tab in a later line before that
column is an error. -/
def readGap? (indentation : Option Nat) : Nat → Cursor → Gap → Option (Cursor × Gap)
  | 0, _, _ => none
  | fuel + 1, cursor, gap =>
    match cursor.rest with
    | [] => some (cursor, gap)
    | c :: _ =>
      if isBlank c then
        if gap.broken then
          if c == '\t' && indentation.any (cursor.column < ·) then none
          else readGap? indentation fuel cursor.skip gap
        else readGap? indentation fuel cursor.skip { gap with blanks := gap.blanks ++ [c] }
      else if isBreak c then
        let chars := cursor.breakChars
        let gap :=
          if gap.broken then { gap with more := gap.more ++ chars }
          else { gap with blanks := [], broken := true, first := chars }
        readGap? indentation fuel cursor.skipBreak gap
      else some (cursor, gap)

/-! ### Between quotes -/

/-- What the letter of an escape stands for. -/
def escapeLetter? : Char → Option Char
  | '0' => some '\x00'
  | 'a' => some '\x07'
  | 'b' => some '\x08'
  | 't' => some '\t'
  | '\t' => some '\t'
  | 'n' => some '\n'
  | 'v' => some '\x0b'
  | 'f' => some '\x0c'
  | 'r' => some '\r'
  | 'e' => some '\x1b'
  | ' ' => some ' '
  | '"' => some '"'
  | '/' => some '/'
  | '\\' => some '\\'
  | 'N' => some '\u0085'
  | '_' => some '\u00a0'
  | 'L' => some '\u2028'
  | 'P' => some '\u2029'
  | _ => none

/-- How many digits follow the letter of an escape by code point. -/
def escapeLength? : Char → Option Nat
  | 'x' => some 2
  | 'u' => some 4
  | 'U' => some 8
  | _ => none

/-- The character with a code point, unless it is half of a surrogate pair or beyond the last
one. -/
def charOf? (code : Nat) : Option Char :=
  if code.isValidChar then some (Char.ofNat code) else none

/-- What the escape after a backslash stands for, and how many characters it takes. -/
def readEscape? (cs : List Char) : Option (Char × Nat) :=
  match cs with
  | [] => none
  | letter :: rest =>
    match escapeLetter? letter with
    | some c => some (c, 1)
    | none => do
      let length ← escapeLength? letter
      let digits := rest.take length
      guard (digits.length = length)
      let c ← (Text.hexNumber? digits).bind charOf?
      return (c, length + 1)

/-- A part of a quoted scalar without blanks, in reverse behind what was read before, and whether
it ends with an escaped end of a line. -/
def readQuotedWord? (single : Bool) : Nat → Cursor → List Char →
    Option (Cursor × List Char × Bool)
  | 0, _, _ => none
  | fuel + 1, cursor, before =>
    match cursor.rest with
    | [] => some (cursor, before, false)
    | c :: rest =>
      if isSeparator c then some (cursor, before, false)
      else if single then
        if c == '\'' then
          if rest.head? == some '\'' then
            readQuotedWord? single fuel (cursor.skip 2) ('\'' :: before)
          else some (cursor, before, false)
        else readQuotedWord? single fuel cursor.skip (c :: before)
      else if c == '"' then some (cursor, before, false)
      else if c == '\\' then
        if rest.head?.any isBreak then some (cursor.skip.skipBreak, before, true)
        else
          match readEscape? rest with
          | some (c, length) =>
            readQuotedWord? single fuel (cursor.skip (length + 1)) (c :: before)
          | none => none
      else readQuotedWord? single fuel cursor.skip (c :: before)

/-- The rest of a quoted scalar, in reverse behind what was read before. -/
def readQuotedRest? (single : Bool) : Nat → Cursor → List Char → Option (Cursor × List Char)
  | 0, _, _ => none
  | fuel + 1, cursor, before =>
    if cursor.atDocumentMark || cursor.rest.isEmpty then none
    else
      match readQuotedWord? single (cursor.rest.length + 1) cursor before with
      | none => none
      | some (cursor, before, escaped) =>
        if cursor.startsWith (if single then '\'' else '"') then some (cursor.skip, before)
        else
          match readGap? none (cursor.rest.length + 1) cursor { broken := escaped } with
          | none => none
          | some (cursor, gap) =>
            readQuotedRest? single fuel cursor (gap.chars.reverse ++ before)

/-- The text of a quoted scalar that begins with its opening quote. -/
def readQuoted? (single : Bool) (cursor : Cursor) : Option (Cursor × String) :=
  (readQuotedRest? single (cursor.rest.length + 1) cursor.skip []).map fun (cursor, chars) =>
    (cursor, String.ofList chars.reverse)

/-! ### Without quotes -/

/-- A character that separates the parts of a flow collection. -/
def isFlowIndicator (c : Char) : Bool :=
  c == ',' || c == '[' || c == ']' || c == '\x7b' || c == '\x7d'

/-- A part of a plain scalar without blanks: up to a colon with a blank after it, and in a flow
collection up to an indicator. A colon right before an indicator is an error there. -/
def readPlainWord? (inFlow : Bool) : List Char → Option (List Char)
  | [] => some []
  | c :: rest =>
    if isSeparator c then some []
    else if inFlow && c == ':' && rest.head?.any fun d => isFlowIndicator d || d == '?' then none
    else if (c == ':' && isBlankOrEnd rest) || (inFlow && isFlowIndicator c) then some []
    else (readPlainWord? inFlow rest).map (c :: ·)

/-- The rest of a plain scalar, in reverse behind what was read before, after a gap; with it
whether the scalar is followed by the beginning of a line. -/
def readPlainRest? (inFlow : Bool) (indentation : Nat) :
    Nat → Cursor → Gap → List Char → Option (Cursor × List Char × Bool)
  | 0, _, _, _ => none
  | fuel + 1, cursor, gap, before =>
    if cursor.atDocumentMark || cursor.startsWith '#' then some (cursor, before, gap.broken)
    else
      match readPlainWord? inFlow cursor.rest with
      | none => none
      | some [] => some (cursor, before, gap.broken)
      | some word =>
        let cursor := cursor.skip word.length
        let before := word.reverse ++ (gap.chars.reverse ++ before)
        if !cursor.head?.any isSeparator then some (cursor, before, false)
        else
          match readGap? (some indentation) (cursor.rest.length + 1) cursor {} with
          | none => none
          | some (cursor, gap) =>
            if !inFlow && cursor.column < indentation then some (cursor, before, gap.broken)
            else readPlainRest? inFlow indentation fuel cursor gap before

/-- The text of a plain scalar whose further lines are indented at least this deep, and whether it
is followed by the beginning of a line. -/
def readPlain? (inFlow : Bool) (indentation : Nat) (cursor : Cursor) :
    Option (Cursor × String × Bool) :=
  (readPlainRest? inFlow indentation (cursor.rest.length + 1) cursor {} []).map
    fun (cursor, chars, broken) => (cursor, String.ofList chars.reverse, broken)

/-! ### In a block of lines -/

/-- What becomes of the ends of lines at the end of a block scalar. -/
inductive Chomping where
  /-- All are dropped. -/
  | strip
  /-- One is kept. -/
  | clip
  /-- All are kept. -/
  | keep
  deriving DecidableEq, Repr

/-- The sign of a chomping. -/
def chompingOf? : Char → Option Chomping
  | '-' => some .strip
  | '+' => some .keep
  | _ => none

/-- The chomping and the depth of indentation after the sign of a block scalar, in either order; a
depth of zero is an error. -/
def readBlockHeader? (cursor : Cursor) : Option (Cursor × Chomping × Option Nat) :=
  let depthAt (cursor : Cursor) : Option (Cursor × Option Nat) :=
    match cursor.head? with
    | some c =>
      if c == '0' then none
      else if c.isDigit then some (cursor.skip, some (c.toNat - '0'.toNat))
      else some (cursor, none)
    | none => some (cursor, none)
  match cursor.head?.bind chompingOf? with
  | some chomping =>
    (depthAt cursor.skip).map fun (cursor, depth) => (cursor, chomping, depth)
  | none => do
    let (cursor, depth) ← depthAt cursor
    match depth, cursor.head?.bind chompingOf? with
    | some _, some chomping => return (cursor.skip, chomping, depth)
    | _, _ => return (cursor, .clip, depth)

/-- The empty lines before a line of a block scalar: what their ends stand for, and the deepest
indentation met. As long as the indentation is not known, every leading space is skipped. -/
def readEmptyLines? (indentation : Option Nat) :
    Nat → Cursor → List Char → Nat → Option (Cursor × List Char × Nat)
  | 0, _, _, _ => none
  | fuel + 1, cursor, breaks, deepest =>
    let spaces := (cursor.run (· == ' ')).length
    let cursor := cursor.skip <|
      match indentation with
      | some indentation => min spaces (indentation - cursor.column)
      | none => spaces
    let deepest := max deepest cursor.column
    if cursor.startsWith '\t' && indentation.all (cursor.column < ·) then none
    else if cursor.head?.any isBreak then
      readEmptyLines? indentation fuel cursor.skipBreak (breaks ++ cursor.breakChars) deepest
    else some (cursor, breaks, deepest)

/-- The lines of a block scalar: in reverse behind what was read before, with what the end of the
last line and the ends of the empty lines after it stand for. -/
def readBlockLines? (folded : Bool) (indentation : Nat) :
    Nat → Cursor → List Char → List Char → List Char → Bool →
      Option (Cursor × List Char × List Char × List Char)
  | 0, _, _, _, _, _ => none
  | fuel + 1, cursor, before, last, empty, wasIndented =>
    if cursor.column == indentation && !cursor.rest.isEmpty then
      let isIndented := cursor.head?.any isBlank
      let between :=
        if folded && last == ['\n'] && !wasIndented && !isIndented then
          if empty.isEmpty then [' '] else empty
        else last ++ empty
      let words := cursor.run fun c => !isBreak c
      let cursor := cursor.skip words.length
      let last := cursor.breakChars
      match readEmptyLines? (some indentation) (cursor.rest.length + 1) cursor.skipBreak [] 0 with
      | none => none
      | some (cursor, empty, _) =>
        readBlockLines? folded indentation fuel cursor
          (words.reverse ++ (between.reverse ++ before)) last empty isIndented
    else some (cursor, before, last, empty)

/-- The text of a block scalar that begins with its sign. The parent is the column of the
collection it belongs to, if there is one. -/
def readBlock? (folded : Bool) (parent : Option Nat) (cursor : Cursor) :
    Option (Cursor × String) := do
  let (cursor, chomping, depth) ← readBlockHeader? cursor.skip
  let cursor ← cursor.skipToLineEnd?
  let known := depth.map fun depth => (parent.getD 0) + depth
  let (cursor, empty, deepest) ← readEmptyLines? known (cursor.rest.length + 1) cursor [] 0
  let least := match parent with
    | some column => column + 1
    | none => 1
  let indentation := known.getD (max (max deepest least) 1)
  let (cursor, chars, last, empty) ←
    readBlockLines? folded indentation (cursor.rest.length + 1) cursor [] [] empty false
  let ending := match chomping with
    | .strip => []
    | .clip => last
    | .keep => last ++ empty
  return (cursor, String.ofList (chars.reverse ++ ending))

end AccessAudit.Yaml
