/-
**The log.**

Events from a threshold on are written, one a line, to the console and, where a directory is given,
to a file. A line is either a text, with the level on the right of five columns, the message, and
each field behind its name, or an object in JSON. The file always has the latter.

* `Threshold`: which events are written;
* `LogEvent.textLine`: the line of an event in text, without its time;
* `LogEvent.toJson`: the level and the fields of an event in JSON;
* `LogEvent.line`: the whole line in either layout.
-/
import AccessAudit.Config.Basic
import AccessAudit.Environment
import AccessAudit.Json.Printer
import AccessAudit.LogEvent
import AccessAudit.Text.Quoted

namespace AccessAudit

/-! ### Which events are written -/

/-- The least level that is written, if any is. -/
structure Threshold where
  least? : Option Level
  deriving DecidableEq, Repr

namespace Threshold

/-- Nothing is written. -/
def off : Threshold where
  least? := none

/-- The thresholds by name and by number, from nothing to everything. -/
def named : List (List String × Threshold) :=
  [(["off", "0"], off), (["error", "1", ""], ⟨some .error⟩), (["warn", "2"], ⟨some .warn⟩),
    (["info", "3"], ⟨some .info⟩), (["debug", "4"], ⟨some .debug⟩),
    (["trace", "5"], ⟨some .trace⟩)]

/-- The threshold of a name in any case. A word that names none lets nothing through. -/
def ofText (text : String) : Threshold :=
  let word := text.map Char.toLower
  match named.find? fun entry => entry.1.contains word with
  | some (_, threshold) => threshold
  | none => off

/-- The threshold of a run: what the environment asks for, else the level of the settings. -/
def ofEnvironment (environment : Environment) (level : String) : Threshold :=
  ofText ((environment.get? "RUST_LOG").getD level)

/-- The name of a threshold. -/
def name (threshold : Threshold) : String :=
  match threshold.least? with
  | none => "off"
  | some level => level.name.map Char.toLower

/-- Whether an event is written. -/
def admits (threshold : Threshold) (event : LogEvent) : Bool :=
  threshold.least?.any fun least => least.rank ≤ event.level.rank

end Threshold

/-! ### Lines -/

/-- A field as a line in text shows it. -/
def FieldValue.text : FieldValue → String
  | plain text => text
  | name text => Text.quoted text
  | count n => toString n

/-- A field in JSON. -/
def FieldValue.toJson : FieldValue → Json
  | plain text => .string text
  | name text => .string text
  | count n => .number { mantissa := n }

namespace LogEvent

/-- A field behind its name. Further words for the event stand alone. -/
def fieldText (name : String) (value : FieldValue) : String :=
  if name = "message" then " " ++ value.text else " " ++ name ++ "=" ++ value.text

/-- A level on the right of five columns. -/
def levelText (level : Level) : String :=
  String.ofList (List.replicate (5 - level.name.length) ' ') ++ level.name

/-- The line of an event in text, without its time. -/
def textLine (event : LogEvent) : String :=
  levelText event.level ++ " " ++ event.message ++
    String.join (event.fields.map fun (name, value) => fieldText name value)

/-- All fields of an event with its message, of a repeated name the last one. -/
def allFields (event : LogEvent) : List (String × FieldValue) :=
  Text.sortedEntries (("message", .plain event.message) :: event.fields)

/-- The level and the fields of an event as members of an object. -/
def members (event : LogEvent) : List (String × Json) :=
  [("level", .string event.level.name),
    ("fields", .object (event.allFields.map fun (name, value) => (name, value.toJson)))]

/-- The level and the fields of an event in JSON. -/
def toJson (event : LogEvent) : Json :=
  .object event.members

/-- The line of an event with its time in front, in JSON or in text. -/
def line (json : Bool) (time : String) (event : LogEvent) : String :=
  if json then (Json.object (("timestamp", .string time) :: event.members)).compact ++ "\n"
  else time ++ " " ++ event.textLine ++ "\n"

end LogEvent

end AccessAudit
