/-
**The program.**

What a run finds is collected first: the variables of the environment that are asked for, the home
directory of the account, the configuration, the snapshots it names, and the directory of the log.
The run itself is the pure function `run` of all that, and what it puts out is written in its order.
-/
import AccessAudit.Account
import AccessAudit.Instant
import AccessAudit.Run
import Std.Time.DateTime.Timestamp

namespace AccessAudit

/-- The time of the clock. -/
def readClock : IO Instant := do
  let stamp ← Std.Time.Timestamp.now
  return { nanoseconds := stamp.toNanosecondsSinceUnixEpoch.val.toNat }

/-! ### Collecting what a run finds -/

/-- The variables that any run asks for. -/
def commonVariables : List String :=
  ["NO_COLOR", "COLORTERM", "TERM", "PERMCHECK_CONFIG_DIR", "HOME", "RUST_LOG"]

/-- The environment as far as these variables go. -/
def readEnvironment (names : List String) : IO Environment := do
  let values ← names.mapM fun name => do return (name, ← IO.getEnv name)
  return Environment.ofList (values.filterMap fun (name, value) => value.map (name, ·))

/-- The home directory of the account that the run is started by. -/
def readAccountHome : IO (Option String) := do
  let accounts ← EIO.toBaseIO (IO.FS.readFile "/etc/passwd")
  let status ← EIO.toBaseIO (IO.FS.readFile "/proc/self/status")
  match accounts, status with
  | .ok accounts, .ok status => return (Account.numberIn? status).bind (Account.homeOf? accounts)
  | _, _ => return none

/-- The reason of an error of the system. -/
def reasonOf : IO.Error → FileError
  | .noFileOrDirectory .. => .notFound
  | .inappropriateType _ code _ => if code = 21 then .isDirectory else .notDirectory
  | .permissionDenied _ code details | .invalidArgument _ code details =>
    if code = 36 then .nameTooLong
    else .other (details ++ " (os error " ++ toString code ++ ")")
  | error => .other (toString error)

/-- What comes of reading the file at a path. -/
def readText (path : String) : IO (Except FileError String) := do
  match pathError? path with
  | some error => return .error error
  | none =>
    match ← EIO.toBaseIO (IO.FS.readBinFile path) with
    | .error error => return .error (reasonOf error)
    | .ok bytes =>
      match String.fromUTF8? bytes with
      | some text => return .ok text
      | none => return .error .notText

/-- Whether something is found at a path. -/
def isFound (path : String) : IO Bool := do
  match pathError? path with
  | some _ => return false
  | none => return (← EIO.toBaseIO (IO.FS.realPath path)).isOk

/-- The log file of a day in a directory. -/
def logPath (directory : String) (now : Instant) : String :=
  FilePath.join directory ("permcheck.log." ++ now.dateText)

/-- Make a directory and open its log file. -/
def openLog (directory : String) (now : Instant) : IO (Option FileError) := do
  let opening : IO Unit := do
    if !directory.isEmpty then IO.FS.createDirAll directory
    discard (IO.FS.Handle.mk (logPath directory now) .append)
  match ← EIO.toBaseIO opening with
  | .ok () => return none
  | .error error => return some (reasonOf error)

/-- What a run finds that loads the configuration at a path, beside what is known at its start. -/
def collectFor (start : Situation) (path : String) (now : Instant) : IO Situation := do
  let config ← readText path
  let found := if ← isFound path then [path] else []
  let known := Files.ofReadings [(path, config)] [] found
  let names := match (Config.load known path).value with
    | .ok config => config.variableNames
    | .error _ => []
  let environment ← readEnvironment (commonVariables ++ names)
  match (Config.prepare known environment path).value with
  | .error _ => return { start with environment, files := known }
  | .ok prepared =>
    let closed ← prepared.config.logOptions.dir.toList.filterMapM fun dir => do
      return (← openLog dir now).map (dir, ·)
    let paths := if prepared.findings.isValid then
        prepared.config.checks.map fun check => snapshotPath path check.snapshot
      else []
    let snapshots ← paths.mapM fun path => do return (path, ← readText path)
    let files := Files.ofReadings ((path, config) :: snapshots) closed found
    return { start with environment, files }

/-- What the run of a command line finds. -/
def collect (line : CommandLine) (now : Instant) : IO Situation := do
  let start : Situation :=
    { environment := ← readEnvironment commonVariables
      accountHome? := ← readAccountHome
      files := Files.ofReadings [] []
      time := now.exactText }
  match line.command with
  | .compare .. => return start
  | .check .. | .validateConfig => collectFor start (line.configPath start) now

/-! ### Writing what a run puts out -/

/-- Write an event to the console and to the log file. -/
def writeEvent (plan : LogPlan) (event : LogEvent) : IO Unit := do
  let now ← readClock
  if plan.threshold.admits event then
    IO.eprint (event.line plan.json (now.text 6))
    if let some directory := plan.dir? then
      let file ← IO.FS.Handle.mk (logPath directory now) .append
      file.putStr (event.line true (now.text 6))

/-- Write a piece of output. -/
def writeOutput (plan? : Option LogPlan) : Output → IO Unit
  | .out text => IO.print text
  | .err text => IO.eprint text
  | .log event =>
    match plan? with
    | some plan => writeEvent plan event
    | none => return ()

/-- Write the transcript of a run and give its exit code. -/
def write (transcript : Transcript) : IO UInt32 := do
  transcript.output.forM (writeOutput transcript.log?)
  return transcript.code.toUInt32

end AccessAudit

open AccessAudit in
/-- Follow the words after the name of the program. -/
def main (words : List String) : IO UInt32 := do
  match CommandLine.ofWords words with
  | .error error => write (Transcript.ofUsageError error)
  | .ok line => write (run (← collect line (← readClock)) line)
