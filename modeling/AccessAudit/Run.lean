/-
**A run of the program.**

A run is a function of what it finds: the environment, the home directory of the account, the files
and the time. It follows one command line and ends in a transcript: what it put out and the code it
exits with. A run of `check` exits with 0 when every selected check has passed, with 1 when one has
not or none has the name asked for, and with 2 when the configuration cannot be used.

The log is kept from the moment the configuration is known, so what happens before is not in it.

* `Outcome.code`: the exit code of a command that came to an end;
* `LogPlan.begin`: how the log is kept, and what is told about that;
* `run`: the whole run of a command line;
* `runWords`: the same from the words of the command line, which may not be one.
-/
import AccessAudit.CheckRun
import AccessAudit.CommandLine
import AccessAudit.Comparison
import AccessAudit.Config.Load
import AccessAudit.Config.Summary
import AccessAudit.Log

namespace AccessAudit

/-! ### Outcomes -/

/-- How a command came to its end. -/
inductive Outcome where
  | passed
  | failed
  | invalidConfig
  deriving DecidableEq, Repr

namespace Outcome

/-- The outcome of a command that passes or fails. -/
def ofPassed (passed : Bool) : Outcome :=
  if passed then .passed else .failed

/-- The exit code. -/
def code : Outcome → Nat
  | passed => 0
  | failed => 1
  | invalidConfig => 2

end Outcome

/-! ### Keeping the log -/

/-- How the log of a run is kept. -/
structure LogPlan where
  threshold : Threshold
  /-- Whether lines on the console are JSON. -/
  json : Bool
  /-- The directory of the log file, if there is one. -/
  dir? : Option String
  deriving DecidableEq, Repr

/-- Open the directory of the log file, if the settings name one. -/
def LogOptions.openDirectory (files : Files) (options : LogOptions) : Except Failure Unit :=
  match options.dir with
  | none => .ok ()
  | some dir =>
    match files.logDirectoryError? dir with
    | none => .ok ()
    | some error =>
      .error { account := "Failed to open log directory: " ++ dir, causes := [error.message] }

/-- The event when there can be no log file. -/
def consoleOnlyEvent (failure : Failure) : LogEvent where
  level := .warn
  message := "File logging disabled"
  fields := [("error", .plain failure.full)]

/-- Begin to keep the log by these settings. Where the directory cannot be opened, the log goes to
the console alone, and its first event says so. -/
def LogPlan.begin (environment : Environment) (files : Files) (options : LogOptions) :
    LogPlan × List LogEvent :=
  let threshold := Threshold.ofEnvironment environment options.level
  match options.openDirectory files with
  | .ok () => ({ threshold, json := options.json, dir? := options.dir }, [])
  | .error failure =>
    ({ threshold, json := options.json, dir? := none }, [consoleOnlyEvent failure])

/-! ### The run -/

/-- What a run finds. -/
structure Situation where
  environment : Environment
  /-- The home directory of the account that the run is started by, if it has one. -/
  accountHome? : Option String := none
  files : Files
  /-- The time of the run, as reports show it. -/
  time : String

/-- The terminal of the run. -/
def Situation.terminal (situation : Situation) : Terminal :=
  Terminal.ofEnvironment situation.environment

/-- What a run leaves behind. -/
structure Transcript where
  /-- The exit code. -/
  code : Nat
  output : List Output := []
  /-- How the log is kept, if the run comes that far. -/
  log? : Option LogPlan := none
  deriving Repr

/-- The end of a run by an error that no command deals with. -/
def Transcript.ofFailure (failure : Failure) (output : List Output) (plan : LogPlan) :
    Transcript where
  code := 1
  output := output ++ [.err ("Error: " ++ failure.account ++ "\n")]
  log? := some plan

/-- The end of a run whose configuration cannot be prepared. -/
def Transcript.ofUnusableConfig (terminal : Terminal) (path : String) (failure : Failure) :
    Transcript where
  code := Outcome.invalidConfig.code
  output := [terminal.note .failure ("Failed to load config " ++ path ++ ": " ++ failure.full)]

/-- The event when the configuration is ready. -/
def readyEvent (path : String) (config : Config) : LogEvent where
  level := .info
  message := "Using config"
  fields := [("path", .plain path), ("checks", .count config.checks.length)]

/-- Begin the log by a configuration and tell what was found in it. -/
def Prepared.beginLog (situation : Situation) (path : String) (prepared : Prepared) :
    LogPlan × List Output :=
  let (plan, events) :=
    LogPlan.begin situation.environment situation.files prepared.config.logOptions
  (plan,
    (events ++ prepared.findings.events ++ [readyEvent path prepared.config]).map .log)

/-- Show the findings of a configuration. -/
def runValidateConfig (situation : Situation) (path : String) (prepared : Prepared) :
    Transcript :=
  let (plan, logged) := prepared.beginLog situation path
  { code := if prepared.findings.isValid then Outcome.passed.code else Outcome.invalidConfig.code
    output := logged ++ summary situation.terminal prepared.config prepared.findings
    log? := some plan }

/-- Carry out the checks of a configuration, unless it has errors. -/
def runCheck (situation : Situation) (path : String) (name? : Option String) (json : Bool)
    (prepared : Prepared) : Transcript :=
  if prepared.findings.isValid then
    let (plan, logged) := prepared.beginLog situation path
    let before := logged ++ prepared.findings.notes situation.terminal
    match carryOutChecks situation.terminal situation.files prepared.config path situation.time
        name? json with
    | .error failure => Transcript.ofFailure failure before plan
    | .ok shown =>
      { code := (Outcome.ofPassed shown.value).code
        output := before ++ shown.output
        log? := some plan }
  else runValidateConfig situation path prepared

/-- Compare an action with a pattern. The log has its usual settings and nothing to tell. -/
def runCompare (situation : Situation) (action pattern : String) : Transcript :=
  let (plan, _) := LogPlan.begin situation.environment situation.files {}
  match comparison situation.terminal action pattern with
  | .error error => Transcript.ofFailure { account := error.message } [] plan
  | .ok shown =>
    { code := (Outcome.ofPassed shown.value).code
      output := shown.output
      log? := some plan }

/-- The file of the configuration: the one the command line names, else the usual one. -/
def CommandLine.configPath (situation : Situation) (line : CommandLine) : String :=
  line.config?.getD <|
    AccessAudit.configPath (configDirectory situation.environment situation.accountHome?)

/-- Follow a command line. -/
def run (situation : Situation) (line : CommandLine) : Transcript :=
  let path := line.configPath situation
  let withConfig (follow : Prepared → Transcript) : Transcript :=
    match (Config.prepare situation.files situation.environment path).value with
    | .error failure => Transcript.ofUnusableConfig situation.terminal path failure
    | .ok prepared => follow prepared
  match line.command with
  | .compare action pattern => runCompare situation action pattern
  | .validateConfig => withConfig (runValidateConfig situation path)
  | .check name? json => withConfig (runCheck situation path name? json)

/-! ### Words that are no command line -/

/-- The name of the program with its version. -/
def versionText : String := "permcheck 0.1.0\n"

/-- What the program can be asked for. -/
def usageText : String :=
  "Usage: permcheck [-c FILE] check [-n NAME] [--json]\n" ++
  "       permcheck [-c FILE] validate-config\n" ++
  "       permcheck [-c FILE] match ACTION PATTERN\n"

/-- The end of a run whose words are no command line. Help and the version go to the standard
output, and all else to the standard error with the code for wrong usage. -/
def Transcript.ofUsageError : UsageError → Transcript
  | .helpWanted => { code := 0, output := [.out usageText] }
  | .versionWanted => { code := 0, output := [.out versionText] }
  | .nothingGiven => { code := 2, output := [.err usageText] }
  | error => { code := 2, output := [.err ("error: " ++ error.message ++ "\n\n" ++ usageText)] }

/-- Follow the words after the name of the program. -/
def runWords (situation : Situation) (words : List String) : Transcript :=
  match CommandLine.ofWords words with
  | .error error => Transcript.ofUsageError error
  | .ok line => run situation line

end AccessAudit
