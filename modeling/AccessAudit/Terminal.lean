/-
**What a run puts out.**

A run writes texts to the standard output and to the standard error, and tells the log its events.
Notes are single lines with a mark in front, in colour where the terminal shows colours. Notes of
failure go to the standard error and all others to the standard output.

* `Output`: one piece of output, in the order of the run;
* `Terminal.ofEnvironment`: whether the terminal shows colours;
* `Terminal.paint`, `Terminal.note`: texts in colour, and notes.
-/
import AccessAudit.Environment
import AccessAudit.LogEvent
import AccessAudit.Text.Ansi

namespace AccessAudit

/-- One piece of what a run puts out. -/
inductive Output where
  /-- A text on the standard output. -/
  | out (text : String)
  /-- A text on the standard error. -/
  | err (text : String)
  /-- An event for the log. -/
  | log (event : LogEvent)
  deriving DecidableEq, Repr

/-- All that goes to the standard output. -/
def Output.stdout (output : List Output) : String :=
  String.join <| output.filterMap fun
    | .out text => some text
    | _ => none

/-- All that goes to the standard error, the log apart. -/
def Output.stderr (output : List Output) : String :=
  String.join <| output.filterMap fun
    | .err text => some text
    | _ => none

/-- All events for the log. -/
def Output.events (output : List Output) : List LogEvent :=
  output.filterMap fun
    | .log event => some event
    | _ => none

/-- A value together with what is put out on the way to it. -/
structure Shown (α : Type) where
  value : α
  output : List Output := []
  deriving Repr

/-- The kinds of notes. -/
inductive NoteKind where
  | info
  | warning
  | failure
  | success
  deriving DecidableEq, Repr

namespace NoteKind

/-- The mark of a note where there are no colours. -/
def word : NoteKind → String
  | info => "INFO:"
  | warning => "WARN:"
  | failure => "ERROR:"
  | success => "OK:"

/-- The mark of a note in colour. -/
def symbol : NoteKind → String
  | info => "ℹ"
  | warning => "⚠"
  | failure => "✗"
  | success => "✓"

/-- The colour of the mark. -/
def style : NoteKind → Text.Style
  | info => .cyan
  | warning => .yellow
  | failure => .red
  | success => .green

end NoteKind

/-- The terminal of a run. -/
structure Terminal where
  /-- Whether it shows colours. -/
  colour : Bool := false
  deriving DecidableEq, Repr

namespace Terminal

/-- Colours are shown unless they are refused, and only where the environment tells of a terminal
that can show them. -/
def ofEnvironment (environment : Environment) : Terminal where
  colour :=
    !environment.isSet "NO_COLOR" &&
      (environment.isSet "COLORTERM" ||
        match environment.get? "TERM" with
        | some terminal => terminal != "dumb"
        | none => false)

/-- A text in a style, where the terminal shows it. -/
def paint (terminal : Terminal) (style : Text.Style) (text : String) : String :=
  if terminal.colour then style.sequence ++ text ++ Text.Style.plain.sequence else text

/-- The mark in front of a note. -/
def mark (terminal : Terminal) (kind : NoteKind) : String :=
  if terminal.colour then
    kind.style.sequence ++ Text.Style.bold.sequence ++ kind.symbol ++ Text.Style.plain.sequence
  else kind.word

/-- The line of a note. -/
def noteLine (terminal : Terminal) (kind : NoteKind) (message : String) : String :=
  terminal.mark kind ++ " " ++ message ++ "\n"

/-- A note, on the standard error when it tells of a failure. -/
def note (terminal : Terminal) (kind : NoteKind) (message : String) : Output :=
  match kind with
  | .failure => .err (terminal.noteLine kind message)
  | _ => .out (terminal.noteLine kind message)

end Terminal

end AccessAudit
