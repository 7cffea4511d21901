/-
**Loading a configuration.**

The configuration lies in a file. Where there is no file it is the empty configuration, which
evaluates nothing; a file that cannot be read or is no configuration is a failure. After loading,
the references to environment variables are replaced, the defaults are filled in, and the whole is
looked at for findings.

* `configDirectory`, `configPath`: where the file lies unless another one is named;
* `Config.load`: the configuration as the file has it;
* `Config.resolve`: the references replaced;
* `Config.prepare`: the configuration that a run works with, and its findings.
-/
import AccessAudit.Config.Findings
import AccessAudit.Config.Json
import AccessAudit.Config.Yaml
import AccessAudit.Failure
import AccessAudit.FilePath
import AccessAudit.Files
import AccessAudit.Reference

namespace AccessAudit

/-! ### Where the file lies -/

/-- The home directory: the one the environment names, else that of the account. -/
def homeDirectory? (environment : Environment) (accountHome? : Option String) : Option String :=
  environment.filled? "HOME" <|> accountHome?

/-- The directory of the configuration: the one the environment names, else one in the home
directory, else one in the directory of the run. -/
def configDirectory (environment : Environment) (accountHome? : Option String := none) : String :=
  match environment.get? "PERMCHECK_CONFIG_DIR" with
  | some directory => directory
  | none =>
    match homeDirectory? environment accountHome? with
    | some home => FilePath.join home ".permcheck"
    | none => ".permcheck"

/-- The file of the configuration in its directory. -/
def configPath (directory : String) : String :=
  FilePath.join directory "permcheck.yaml"

/-! ### Reading the file -/

/-- The event when there is no file. -/
def absentEvent (path : String) : LogEvent where
  level := .debug
  message := "Config file does not exist; using defaults"
  fields := [("path", .plain path)]

/-- The event after a file was read. -/
def configLoadedEvent (path : String) (config : Config) : LogEvent where
  level := .info
  message := "Loaded config"
  fields := [("path", .plain path), ("checks", .count config.checks.length)]

/-- The configuration that the text of a file holds. -/
def Config.readFile (files : Files) (path : String) : Except Failure Config :=
  match files.read path with
  | .error error =>
    .error { account := "Failed to read config file: " ++ path, causes := [error.message] }
  | .ok text =>
    match Config.ofYaml? text with
    | none =>
      .error
        { account := "Failed to parse config YAML at: " ++ path
          causes := ["the text is not a configuration"] }
    | some config => .ok config

/-- The configuration in a file, or the empty one where there is no file. -/
def Config.load (files : Files) (path : String) : Logged (Except Failure Config) :=
  if files.isPresent path then
    match Config.readFile files path with
    | .error failure => { value := .error failure }
    | .ok config => { value := .ok config, events := [configLoadedEvent path config] }
  else { value := .ok {}, events := [absentEvent path] }

/-! ### Preparing it -/

/-- The configuration with the references in all its texts replaced, or the first variable that is
missing. The texts are looked at in the order of their keys in JSON. -/
def Config.resolve (environment : Environment) (config : Config) : Except Failure Config :=
  match config.toJson.resolve environment with
  | .error missing =>
    .error
      { account := "Failed to resolve env vars in config", causes := [missing.message] }
  | .ok json =>
    match Config.ofJson? json with
    | none =>
      .error
        { account := "Failed to deserialize config after processing"
          causes := ["the value is not a configuration"] }
    | some config => .ok config

/-- The names of the variables that the texts of a configuration refer to. -/
def Config.variableNames (config : Config) : List String :=
  let logging := config.logging.getD {}
  let texts := logging.level.toList ++ logging.dir.toList ++ config.checks.flatMap fun check =>
    [check.name, check.scope, check.snapshot] ++ check.requirement.actions ++
      check.requirement.dataActions
  texts.flatMap Reference.namesIn

/-- A configuration that a run can work with, and what was found in it. -/
structure Prepared where
  config : Config
  findings : Findings
  deriving DecidableEq, Repr

/-- Fill in the defaults and look for findings. -/
def Config.prepared (config : Config) : Prepared where
  config := config.withDefaults
  findings := findings config.withDefaults

/-- Load a configuration and prepare it. -/
def Config.prepare (files : Files) (environment : Environment) (path : String) :
    Logged (Except Failure Prepared) :=
  let loaded := Config.load files path
  { value := do
      let config ← loaded.value
      let config ← config.resolve environment
      return config.prepared
    events := loaded.events }

end AccessAudit
