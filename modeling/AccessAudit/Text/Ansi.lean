/-
**Colours on a terminal.**

Colours and weights are switched by escape sequences, each of which begins with the escape
character and ends with the letter `m`. They take no room on the terminal, so what is visible of a
text is what remains without them. A sequence without an end takes the rest of the text with it.

* `Style`, `Style.sequence`: what can be switched, and the sequence that does it;
* `visible`: a text without its escape sequences.
-/

namespace AccessAudit.Text

/-- The character that begins an escape sequence. -/
def escape : Char := '\x1b'

/-- What an escape sequence switches on; `plain` switches everything off. -/
inductive Style where
  | plain
  | bold
  | red
  | green
  | yellow
  | cyan
  deriving DecidableEq, Repr

/-- The escape sequence of a style. -/
def Style.sequence : Style → String
  | plain => "\x1b[0m"
  | bold => "\x1b[1m"
  | red => "\x1b[31m"
  | green => "\x1b[32m"
  | yellow => "\x1b[33m"
  | cyan => "\x1b[36m"

/-- The visible characters of a text that begins inside or outside an escape sequence. -/
def visibleFrom (inside : Bool) : List Char → List Char
  | [] => []
  | c :: rest =>
    if inside then visibleFrom (c != 'm') rest
    else if c = escape then visibleFrom true rest
    else c :: visibleFrom false rest

/-- A text without its escape sequences. -/
def visible (text : String) : String :=
  String.ofList (visibleFrom false text.toList)

end AccessAudit.Text
