/-
**The configuration.**

A configuration says how to log and which checks to carry out. Each check has a name, a scope, the
path of a snapshot, and the actions that the principal has to hold.

* `Logging`, `NamedCheck`, `Config`: the parts and the whole;
* `Config.withDefaults`: the configuration with everything filled in that has a default;
* `LogOptions`: the settings of the log.
-/
import AccessAudit.Record
import AccessAudit.Text.Blank

namespace AccessAudit

/-- How to log, as far as the configuration says. -/
structure Logging where
  level : Option String := none
  /-- Whether lines on the console are JSON. -/
  json : Option Bool := none
  /-- The directory of the log file; without one there is no log file. -/
  dir : Option String := none
  deriving DecidableEq, Repr

/-- One check of a configuration. -/
structure NamedCheck where
  name : String
  /-- The scope that the snapshot was made for. -/
  scope : String := ""
  /-- The path of the snapshot. -/
  snapshot : String := ""
  requirement : Requirement := {}
  deriving DecidableEq, Repr

/-- The fields of a check that are not part of its requirement. -/
def NamedCheck.ownFields : List String := ["name", "scope", "snapshot"]

/-- A configuration. -/
structure Config where
  logging : Option Logging := none
  checks : List NamedCheck := []
  deriving DecidableEq, Repr

/-! ### Defaults -/

/-- The level of the log when none is given. -/
def defaultLevel : String := "info"

/-- The scope of a check that names none. -/
def defaultScope : String := "/"

/-- The level and the layout of the log filled in; there is no default for the directory. -/
def Logging.withDefaults (logging : Logging) : Logging :=
  { logging with
    level := some (logging.level.getD defaultLevel)
    json := some (logging.json.getD false) }

/-- A scope that is left blank filled in. -/
def NamedCheck.withDefaults (check : NamedCheck) : NamedCheck :=
  if Text.isBlankText check.scope then { check with scope := defaultScope } else check

/-- Everything filled in that has a default. -/
def Config.withDefaults (config : Config) : Config where
  logging := some (config.logging.getD {}).withDefaults
  checks := config.checks.map NamedCheck.withDefaults

/-! ### The settings of the log -/

/-- The settings of the log, all of them settled. -/
structure LogOptions where
  level : String := defaultLevel
  json : Bool := false
  dir : Option String := none
  deriving DecidableEq, Repr

/-- The settings that a configuration asks for. -/
def Config.logOptions (config : Config) : LogOptions :=
  let logging := config.logging.getD {}
  { level := logging.level.getD defaultLevel
    json := logging.json.getD false
    dir := logging.dir }

end AccessAudit
