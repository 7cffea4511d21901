/-
**Events of a run.**

While it works the program tells what it does as events: a level, a message, and named values. An
event is data; what becomes of it, and whether it is written at all, is decided by whoever keeps
the log.

* `Level`: the levels from the most to the least detailed;
* `LogEvent`: one event with its fields;
* `Logged`: a value together with the events on the way to it.
-/

namespace AccessAudit

/-- How important an event is. -/
inductive Level where
  | trace
  | debug
  | info
  | warn
  | error
  deriving DecidableEq, Repr

namespace Level

/-- The name of the level in the log. -/
def name : Level → String
  | trace => "TRACE"
  | debug => "DEBUG"
  | info => "INFO"
  | warn => "WARN"
  | error => "ERROR"

/-- The place of the level: the more important, the greater. -/
def rank : Level → Nat
  | trace => 0
  | debug => 1
  | info => 2
  | warn => 3
  | error => 4

end Level

/-- The value of a field of an event. -/
inductive FieldValue where
  /-- A text that lines show as it is. -/
  | plain (text : String)
  /-- A name that lines show between quotes. -/
  | name (text : String)
  /-- A number of things. -/
  | count (n : Nat)
  deriving DecidableEq, Repr

/-- One event of a run. -/
structure LogEvent where
  level : Level
  message : String
  fields : List (String × FieldValue) := []
  deriving DecidableEq, Repr

/-- A value together with the events on the way to it, in order. -/
structure Logged (α : Type) where
  value : α
  events : List LogEvent := []
  deriving Repr

/-- Where the events do not matter, a logged value stands for the value. -/
instance {α : Type} : CoeOut (Logged α) α where
  coe := Logged.value

end AccessAudit
