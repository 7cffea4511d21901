/-
**What is wrong with a configuration.**

A configuration is looked at as a whole, and everything that is wrong with it is found in one pass:
errors, which make it unusable, and warnings, which do not. Each finding names the place it is
about.

* `findings`: the errors and the warnings of a configuration, in the order of its fields;
* `Findings.isValid`: there are no errors;
* `Findings.events`: the findings as events, the warnings first.
-/
import AccessAudit.Config.Basic
import AccessAudit.LogEvent
import AccessAudit.Pattern

namespace AccessAudit

/-- Something that is wrong at a place of a configuration. -/
structure Finding where
  path : String
  message : String
  deriving DecidableEq, Repr

/-- The finding as a sentence of its own. -/
def Finding.sentence (finding : Finding) : String :=
  "Config validation error at '" ++ finding.path ++ "': " ++ finding.message

/-- All that is wrong with a configuration. -/
structure Findings where
  errors : List Finding := []
  warnings : List Finding := []
  deriving DecidableEq, Repr

/-- A configuration is valid when it has no errors, whatever its warnings. -/
def Findings.isValid (findings : Findings) : Bool :=
  findings.errors.isEmpty

/-! ### Errors -/

/-- The levels that a configuration may ask for. -/
def levelNames : List String := ["trace", "debug", "info", "warn", "error"]

/-- A level is known by its name in any case. Only letters of ASCII are put in lower case, since no
other character has a letter of these names as its lower case. -/
def isKnownLevel (level : String) : Bool :=
  levelNames.contains (level.map Char.toLower)

/-- The level of the log has to be known, if one is given. -/
def levelErrors (config : Config) : List Finding :=
  match config.logging.bind Logging.level with
  | none => []
  | some level =>
    if isKnownLevel level then []
    else
      [{ path := "logging.level"
         message := "Unknown log level '" ++ level ++ "'. Use one of: " ++
          ", ".intercalate levelNames }]

/-- A name is not blank and not the name of an earlier check. -/
def nameErrors (path : String) (earlier : List NamedCheck) (check : NamedCheck) : List Finding :=
  if Text.isBlankText check.name then
    [{ path := path ++ ".name", message := "Check name cannot be empty" }]
  else if earlier.any (·.name == check.name) then
    [{ path := path ++ ".name", message := "Duplicate check name '" ++ check.name ++ "'" }]
  else []

/-- The path of a snapshot is not blank. -/
def snapshotErrors (path : String) (check : NamedCheck) : List Finding :=
  if Text.isBlankText check.snapshot then
    [{ path := path ++ ".snapshot", message := "Snapshot path cannot be empty" }]
  else []

/-- A required action is concrete: it is not blank and holds no wildcard. -/
def actionErrors (path action : String) : List Finding :=
  if Text.isBlankText action then [{ path, message := "Required action cannot be empty" }]
  else if Pattern.hasWildcard action then
    [{ path, message := "Required action '" ++ action ++ "' must not contain a wildcard" }]
  else []

/-- The path of an item of a list. -/
def indexed (path : String) (index : Nat) : String :=
  path ++ "[" ++ toString index ++ "]"

/-- Every required action of a list is concrete. -/
def requiredErrors (path : String) (actions : List String) : List Finding :=
  actions.zipIdx.flatMap fun (action, index) => actionErrors (indexed path index) action

/-- The errors of one check: its name, its snapshot, its actions, its data actions. -/
def checkErrors (path : String) (earlier : List NamedCheck) (check : NamedCheck) :
    List Finding :=
  nameErrors path earlier check ++ snapshotErrors path check ++
    requiredErrors (path ++ ".actions") check.requirement.actions ++
    requiredErrors (path ++ ".dataActions") check.requirement.dataActions

/-! ### Warnings -/

/-- A configuration without checks evaluates nothing. -/
def emptinessWarnings (config : Config) : List Finding :=
  if config.checks.isEmpty then
    [{ path := "checks", message := "No checks configured; nothing will be evaluated" }]
  else []

/-- A check without required actions always passes. -/
def checkWarnings (path : String) (check : NamedCheck) : List Finding :=
  if check.requirement.actions.isEmpty && check.requirement.dataActions.isEmpty then
    [{ path, message := "Check requires no actions and always passes" }]
  else []

/-! ### All findings -/

/-- Everything that is wrong with a configuration. -/
def findings (config : Config) : Findings where
  errors :=
    levelErrors config ++ config.checks.zipIdx.flatMap fun (check, index) =>
      checkErrors (indexed "checks" index) (config.checks.take index) check
  warnings :=
    emptinessWarnings config ++ config.checks.zipIdx.flatMap fun (check, index) =>
      checkWarnings (indexed "checks" index) check

/-- The event that tells of a finding. Its words are those of the finding. -/
def Finding.event (level : Level) (message : String) (finding : Finding) : LogEvent where
  level := level
  message := message
  fields := [("path", .plain finding.path), ("message", .plain finding.message)]

/-- One event for each warning, then one for each error. -/
def Findings.events (findings : Findings) : List LogEvent :=
  findings.warnings.map (Finding.event .warn "Config warning") ++
    findings.errors.map (Finding.event .error "Config error")

end AccessAudit
