/-
**Cutting a text in YAML into tokens.**

Outside flow collections, a node that begins deeper than the collection it is in opens a block
collection, and a node that begins less deep closes those that are deeper. A colon makes a key of
the node before it, so every place where a key may begin is remembered until its line ends, 1024
characters have passed or a colon is found: then the mark of the key is put where it began.

* `Lexer`: the state between two tokens;
* `Lexer.next?`: one more token;
* `tokens?`: all tokens of a text.
-/
import AccessAudit.Yaml.Scalar

namespace AccessAudit.Yaml

/-- A place where a key may have begun. -/
structure KeyStart where
  /-- The token that begins there. -/
  position : Nat
  index : Nat
  line : Nat
  column : Nat
  /-- Whether nothing but a key may begin there. -/
  required : Bool
  deriving Repr

/-- The state between two tokens. -/
structure Lexer where
  cursor : Cursor
  /-- The tokens so far, the last one first. -/
  tokens : List Token := []
  /-- The columns of the open block collections, the innermost first. -/
  columns : List Nat := []
  /-- Where a key may have begun, for each open flow collection and for the text around them, the
  innermost first. -/
  starts : List (Option KeyStart) := [none]
  /-- Whether a key may begin here. -/
  keyAllowed : Bool := true
  deriving Repr

namespace Lexer

/-- Whether a flow collection is open. -/
def inFlow (lexer : Lexer) : Bool :=
  lexer.starts.length > 1

/-- The column of the innermost block collection. -/
def column? (lexer : Lexer) : Option Nat :=
  lexer.columns.head?

/-- Add a token. -/
def emit (lexer : Lexer) (token : Token) : Lexer :=
  { lexer with tokens := token :: lexer.tokens }

/-- Put a token in front of the one at a position. -/
def insert (lexer : Lexer) (position : Nat) (token : Token) : Lexer :=
  { lexer with tokens := lexer.tokens.insertIdx (lexer.tokens.length - position) token }

/-- Go on to a place of the text. -/
def moveTo (lexer : Lexer) (cursor : Cursor) : Lexer :=
  { lexer with cursor }

/-- Add a token for the first characters. -/
def take (lexer : Lexer) (token : Token) (n : Nat := 1) : Lexer :=
  (lexer.moveTo (lexer.cursor.skip n)).emit token

/-- Say whether a key may begin here. -/
def allowKey (lexer : Lexer) (keyAllowed : Bool) : Lexer :=
  { lexer with keyAllowed }

/-! ### Places of keys -/

/-- A place is out of reach once its line has ended or 1024 characters have passed. -/
def isOutOfReach (cursor : Cursor) (start : KeyStart) : Bool :=
  start.line < cursor.line || start.index + 1024 < cursor.index

/-- Give up the places that are out of reach; a key that has to be there is then missing. -/
def dropOutOfReach? (lexer : Lexer) : Option Lexer := do
  let starts ← lexer.starts.mapM fun
    | none => some none
    | some start =>
      if isOutOfReach lexer.cursor start then if start.required then none else some none
      else some (some start)
  return { lexer with starts }

/-- Give up the place of the innermost collection; a key that has to be there is then missing. -/
def dropStart? (lexer : Lexer) : Option Lexer :=
  match lexer.starts with
  | some start :: outer =>
    if start.required then none else some { lexer with starts := none :: outer }
  | _ => some lexer

/-- Remember this place, if a key may begin here. -/
def markStart? (lexer : Lexer) : Option Lexer :=
  if lexer.keyAllowed then do
    let lexer ← lexer.dropStart?
    let start : KeyStart :=
      { position := lexer.tokens.length
        index := lexer.cursor.index
        line := lexer.cursor.line
        column := lexer.cursor.column
        required := !lexer.inFlow && lexer.column? == some lexer.cursor.column }
    return { lexer with starts := some start :: lexer.starts.tail }
  else some lexer

/-! ### Indentation -/

/-- Open a block collection at a column that is deeper than the innermost one, its beginning in
front of the token at a position. -/
def openBlock (lexer : Lexer) (column position : Nat) (token : Token) : Lexer :=
  if !lexer.inFlow && lexer.column?.all (· < column) then
    { lexer with columns := column :: lexer.columns }.insert position token
  else lexer

/-- The columns that are not deeper than a bound, and how many are. -/
def splitColumns (isDeeper : Nat → Bool) (columns : List Nat) : List Nat × Nat :=
  (columns.dropWhile isDeeper, (columns.takeWhile isDeeper).length)

/-- Close the block collections at columns of a kind. -/
def closeBlocks (lexer : Lexer) (isDeeper : Nat → Bool) : Lexer :=
  if lexer.inFlow then lexer
  else
    let (columns, closed) := splitColumns isDeeper lexer.columns
    { lexer with columns, tokens := List.replicate closed .blockEnd ++ lexer.tokens }

/-! ### Blanks and comments -/

/-- Go on over blanks, comments and ends of lines. A tab is a blank only where no key may begin. A
mark of byte order at the beginning of the text is passed over, and takes one column. -/
def skipSeparation (lexer : Lexer) : Nat → Lexer
  | 0 => lexer
  | fuel + 1 =>
    let cursor :=
      if lexer.cursor.index == 0 && lexer.cursor.startsWith '\ufeff' then lexer.cursor.skip
      else lexer.cursor
    let tabs := lexer.inFlow || !lexer.keyAllowed
    let cursor := cursor.skipWhile fun c => c == ' ' || (tabs && c == '\t')
    let cursor := if cursor.startsWith '#' then cursor.skipLine else cursor
    if cursor.head?.any isBreak then
      let lexer := lexer.moveTo cursor.skipBreak
      skipSeparation (if lexer.inFlow then lexer else lexer.allowKey true) fuel
    else lexer.moveTo cursor

/-! ### Directives and marks of documents -/

/-- Nothing before goes on: all blocks are closed and no key may begin. -/
def closeDocument? (lexer : Lexer) : Option Lexer := do
  let lexer ← (lexer.closeBlocks fun _ => true).dropStart?
  return lexer.allowKey false

/-- A number of at most nine digits. -/
def readVersionNumber? (cursor : Cursor) : Option (Cursor × Nat) :=
  let digits := cursor.run Char.isDigit
  if digits.isEmpty || digits.length > 9 then none
  else some (cursor.skip digits.length, Text.digitsValue digits)

/-- A version of two numbers with a point between them. -/
def readVersion? (cursor : Cursor) : Option (Cursor × Token) := do
  let (cursor, major) ← readVersionNumber? (cursor.skipWhile isBlank)
  guard (cursor.startsWith '.')
  let (cursor, minor) ← readVersionNumber? cursor.skip
  return (cursor, .version major minor)

/-- The handle of a tag, from its first exclamation mark to its last. -/
def readHandle? (inDirective : Bool) (cursor : Cursor) : Option (Cursor × String) :=
  if cursor.startsWith '!' then
    let word := cursor.skip.run isWordChar
    let after := cursor.skip (word.length + 1)
    if after.startsWith '!' then some (after.skip, String.ofList ('!' :: word ++ ['!']))
    else if inDirective && !word.isEmpty then none
    else some (after, String.ofList ('!' :: word))
  else none

/-- A character that a tag may hold as it is; in full, between angle brackets or in a directive,
also the ones that separate the parts of a flow sequence. -/
def isTagChar (inFull : Bool) (c : Char) : Bool :=
  isWordChar c || ";/?:@&=+$.%!~*'()".toList.contains c || (inFull && ",[]".toList.contains c)

/-- The byte that two hexadecimal digits after a percent sign stand for. -/
def percentByte? : List Char → Option (UInt8 × List Char)
  | '%' :: a :: b :: rest => (Text.hexNumber? [a, b]).map fun byte => (byte.toUInt8, rest)
  | _ => none

/-- A run of escaped bytes. -/
def percentBytes : Nat → List Char → List UInt8 × List Char
  | 0, cs => ([], cs)
  | fuel + 1, cs =>
    match percentByte? cs with
    | some (byte, rest) =>
      let (bytes, rest) := percentBytes fuel rest
      (byte :: bytes, rest)
    | none => ([], cs)

/-- The text that the characters of a tag stand for, escaped bytes read as UTF-8. -/
def unescapeTag? : Nat → List Char → Option (List Char)
  | 0, _ => none
  | fuel + 1, cs =>
    match cs with
    | [] => some []
    | '%' :: _ =>
      match percentBytes cs.length cs with
      | ([], _) => none
      | (bytes, rest) => do
        let text ← String.fromUTF8? (ByteArray.mk bytes.toArray)
        let rest ← unescapeTag? fuel rest
        return text.toList ++ rest
    | c :: rest => (unescapeTag? fuel rest).map (c :: ·)

/-- The characters of a tag behind those that belong to it already; altogether there is at least
one. -/
def readTagText? (inFull : Bool) (head : List Char) (cursor : Cursor) :
    Option (Cursor × String) := do
  let chars := cursor.run (isTagChar inFull)
  guard (!(head.isEmpty && chars.isEmpty))
  let text ← unescapeTag? (chars.length + 1) chars
  return (cursor.skip chars.length, String.ofList (head.drop 1 ++ text))

/-- A handle and what it stands for. -/
def readHandleMeaning? (cursor : Cursor) : Option (Cursor × Token) := do
  let (cursor, name) ← readHandle? true (cursor.skipWhile isBlank)
  guard (cursor.head?.any isBlank)
  let (cursor, meaning) ← readTagText? true [] (cursor.skipWhile isBlank)
  guard (isBlankOrEnd cursor.rest)
  return (cursor, .handle name meaning)

/-- A directive: a version or a handle, alone in its line. -/
def directive? (lexer : Lexer) : Option Lexer := do
  let lexer ← lexer.closeDocument?
  let name := lexer.cursor.skip.run isWordChar
  let cursor := lexer.cursor.skip (name.length + 1)
  guard (isBlankOrEnd cursor.rest)
  let (cursor, token) ←
    if name = "YAML".toList then readVersion? cursor
    else if name = "TAG".toList then readHandleMeaning? cursor
    else none
  let cursor ← cursor.skipToLineEnd?
  return (lexer.moveTo cursor).emit token

/-- A mark of a document. -/
def documentMark? (lexer : Lexer) (token : Token) : Option Lexer := do
  let lexer ← lexer.closeDocument?
  return lexer.take token 3

/-! ### Indicators -/

/-- The beginning of a flow collection. -/
def flowStart? (lexer : Lexer) (token : Token) : Option Lexer := do
  let lexer ← lexer.markStart?
  return ({ lexer with starts := none :: lexer.starts }.allowKey true).take token

/-- The end of a flow collection. -/
def flowEnd? (lexer : Lexer) (token : Token) : Option Lexer := do
  let lexer ← lexer.dropStart?
  let starts := if lexer.inFlow then lexer.starts.tail else lexer.starts
  return ({ lexer with starts }.allowKey false).take token

/-- The comma between the parts of a flow collection. -/
def flowEntry? (lexer : Lexer) : Option Lexer := do
  let lexer ← lexer.dropStart?
  return (lexer.allowKey true).take .flowEntry

/-- Open a block collection for an indicator, which may stand only where a key may begin. -/
def openForIndicator? (lexer : Lexer) (token : Token) : Option Lexer :=
  if lexer.inFlow then some lexer
  else if lexer.keyAllowed then
    some (lexer.openBlock lexer.cursor.column lexer.tokens.length token)
  else none

/-- The dash of an entry of a block sequence. -/
def blockEntry? (lexer : Lexer) : Option Lexer := do
  let lexer ← lexer.openForIndicator? .blockSequenceStart
  let lexer ← lexer.dropStart?
  return (lexer.allowKey true).take .blockEntry

/-- The question mark of a key. -/
def key? (lexer : Lexer) : Option Lexer := do
  let lexer ← lexer.openForIndicator? .blockMappingStart
  let lexer ← lexer.dropStart?
  return (lexer.allowKey !lexer.inFlow).take .key

/-- The colon of a value. The key before it is marked where it began, and with it the mapping it
may be the first key of. -/
def value? (lexer : Lexer) : Option Lexer :=
  match lexer.starts with
  | some start :: outer =>
    let lexer := lexer.insert start.position .key
    let lexer := lexer.openBlock start.column start.position .blockMappingStart
    some (({ lexer with starts := none :: outer }.allowKey false).take .value)
  | _ => do
    let lexer ← lexer.openForIndicator? .blockMappingStart
    return (lexer.allowKey !lexer.inFlow).take .value

/-! ### Properties and scalars -/

/-- The name of an anchor, or a reference to one. -/
def anchor? (lexer : Lexer) (tokenOf : String → Token) : Option Lexer := do
  let lexer ← lexer.markStart?
  let name := lexer.cursor.skip.run isWordChar
  let cursor := lexer.cursor.skip (name.length + 1)
  guard (!name.isEmpty)
  guard (isBlankOrEnd cursor.rest || cursor.head?.any "?:,]\x7d%@`".toList.contains)
  return ((lexer.allowKey false).moveTo cursor).emit (tokenOf (String.ofList name))

/-- The handle and the suffix of a tag. -/
def readTag? (cursor : Cursor) : Option (Cursor × Token) :=
  if cursor.tail.head? == some '<' then do
    let (cursor, text) ← readTagText? true [] (cursor.skip 2)
    guard (cursor.startsWith '>')
    return (cursor.skip, .tag "" text)
  else do
    let (cursor, handle) ← readHandle? false cursor
    let chars := handle.toList
    if chars.length > 1 && chars.getLast? == some '!' then
      let (cursor, text) ← readTagText? false [] cursor
      return (cursor, .tag handle text)
    else
      let (cursor, text) ← readTagText? false chars cursor
      return (cursor, if text.isEmpty then .tag "" "!" else .tag "!" text)

/-- The tag of a node. -/
def tag? (lexer : Lexer) : Option Lexer := do
  let lexer ← lexer.markStart?
  let (cursor, token) ← readTag? lexer.cursor
  guard (isBlankOrEnd cursor.rest || (lexer.inFlow && cursor.startsWith ','))
  return ((lexer.allowKey false).moveTo cursor).emit token

/-- A block scalar. -/
def blockScalar? (lexer : Lexer) (folded : Bool) : Option Lexer := do
  let lexer ← lexer.dropStart?
  let (cursor, text) ← readBlock? folded lexer.column? lexer.cursor
  let style : ScalarStyle := if folded then .folded else .literal
  return ((lexer.allowKey true).moveTo cursor).emit (.scalar style text)

/-- A quoted scalar. -/
def quotedScalar? (lexer : Lexer) (single : Bool) : Option Lexer := do
  let lexer ← lexer.markStart?
  let (cursor, text) ← readQuoted? single lexer.cursor
  let style : ScalarStyle := if single then .singleQuoted else .doubleQuoted
  return ((lexer.allowKey false).moveTo cursor).emit (.scalar style text)

/-- A plain scalar. -/
def plainScalar? (lexer : Lexer) : Option Lexer := do
  let lexer ← lexer.markStart?
  let indentation := lexer.column?.elim 0 (· + 1)
  let (cursor, text, broken) ← readPlain? lexer.inFlow indentation lexer.cursor
  return ((lexer.allowKey broken).moveTo cursor).emit (.scalar .plain text)

/-- A character that begins something else than a plain scalar. -/
def isIndicator (c : Char) : Bool :=
  "-?:,[]\x7b\x7d#&*!|>'\"%@`".toList.contains c

/-- A plain scalar begins here. Three indicators may begin one when no blank follows them. -/
def isPlainStart (lexer : Lexer) : Bool :=
  match lexer.cursor.rest with
  | [] => false
  | c :: rest =>
    (!isSeparator c && !isIndicator c) || (c == '-' && !rest.head?.any isBlank) ||
      (!lexer.inFlow && (c == '?' || c == ':') && !isBlankOrEnd rest)

/-! ### All tokens -/

/-- The token that begins with the first character, which follows no blank and no end of a line. -/
def fetch? (lexer : Lexer) (c : Char) (rest : List Char) : Option Lexer :=
  let cursor := lexer.cursor
  let alone := isBlankOrEnd rest
  if cursor.column == 0 && c == '%' then lexer.directive?
  else if cursor.atMark '-' then lexer.documentMark? .documentStart
  else if cursor.atMark '.' then lexer.documentMark? .documentEnd
  else if c == '[' then lexer.flowStart? .flowSequenceStart
  else if c == '\x7b' then lexer.flowStart? .flowMappingStart
  else if c == ']' then lexer.flowEnd? .flowSequenceEnd
  else if c == '\x7d' then lexer.flowEnd? .flowMappingEnd
  else if c == ',' then lexer.flowEntry?
  else if c == '-' && alone then lexer.blockEntry?
  else if c == '?' && (lexer.inFlow || alone) then lexer.key?
  else if c == ':' && (lexer.inFlow || alone) then lexer.value?
  else if c == '*' then lexer.anchor? .reference
  else if c == '&' then lexer.anchor? .anchor
  else if c == '!' then lexer.tag?
  else if c == '|' && !lexer.inFlow then lexer.blockScalar? false
  else if c == '>' && !lexer.inFlow then lexer.blockScalar? true
  else if c == '\'' then lexer.quotedScalar? true
  else if c == '"' then lexer.quotedScalar? false
  else if lexer.isPlainStart then lexer.plainScalar?
  else none

/-- Go on to the next token, and close the blocks that are deeper than it. -/
def approach? (lexer : Lexer) : Option Lexer := do
  let lexer ← (lexer.skipSeparation (lexer.cursor.rest.length + 1)).dropOutOfReach?
  return lexer.closeBlocks (lexer.cursor.column < ·)

/-- All tokens from here on. -/
def run? : Nat → Lexer → Option Lexer
  | 0, _ => none
  | fuel + 1, lexer =>
    match lexer.approach? with
    | none => none
    | some lexer =>
      match lexer.cursor.rest with
      | [] => lexer.closeDocument?
      | c :: rest =>
        match lexer.fetch? c rest with
        | none => none
        | some lexer => run? fuel lexer

end Lexer

/-- The tokens of a text, unless it holds a character that may not stand in it or cannot be cut
into tokens. -/
def tokens? (text : String) : Option (List Token) :=
  let chars := text.toList
  if chars.all isAllowed then
    (Lexer.run? (chars.length + 1) { cursor := { rest := chars } }).map fun lexer =>
      lexer.tokens.reverse
  else none

end AccessAudit.Yaml
