/-
**Carrying out the checks of a configuration.**

The checks are carried out in the order of the configuration, and each one ends in a report. The
snapshot of a check lies where its path leads from the directory of the configuration. The reports
are shown as one JSON document, or as a table with a note for each check.

* `Config.selected`: the checks that are carried out;
* `NamedCheck.carryOut`: the report of one check, with its events;
* `reportTable`, `reportNotes`: the reports on the terminal;
* `carryOutChecks`: all of it; it holds when every report has passed.
-/
import AccessAudit.Config.Basic
import AccessAudit.FilePath
import AccessAudit.Source
import AccessAudit.Terminal
import AccessAudit.Text.Table

namespace AccessAudit

/-! ### The checks and their reports -/

/-- The checks of one name, or all of them when no name is given. -/
def Config.selected (config : Config) : Option String → List NamedCheck
  | none => config.checks
  | some name => config.checks.filter fun check => check.name == name

/-- The checks to carry out. A name that no check has is a failure. -/
def Config.select (config : Config) (name? : Option String) : Except Failure (List NamedCheck) :=
  match name? with
  | some name =>
    if (config.selected name?).isEmpty then
      .error { account := "No check named '" ++ name ++ "' in config" }
    else .ok (config.selected name?)
  | none => .ok config.checks

/-- Where the snapshot of a check lies, seen from the directory of the configuration. -/
def snapshotPath (configPath snapshot : String) : String :=
  FilePath.join ((FilePath.parent? configPath).getD ".") snapshot

/-- The event when a check could not be carried out. -/
def brokenEvent (check : NamedCheck) (failure : Failure) : LogEvent where
  level := .error
  message := "Permission check could not run"
  fields := [("check", .plain check.name), ("error", .plain failure.full)]

/-- The report of a check. A check that cannot be carried out is reported as failed. -/
def NamedCheck.carryOut (files : Files) (configPath checkedAt : String) (check : NamedCheck) :
    Logged Report :=
  let source := Source.file files (snapshotPath configPath check.snapshot)
  let audited := audit check.name check.scope check.requirement source checkedAt
  match audited.value with
  | .ok report => { value := report, events := audited.events }
  | .error failure =>
    { value := Report.errored check.name check.scope checkedAt failure
      events := audited.events ++ [brokenEvent check failure] }

/-! ### Reports on the terminal -/

/-- The columns of the table of reports. -/
def reportColumns : List Text.Table.Column :=
  [{ header := "Check" }, { header := "Scope" }, { header := "Status" },
    { header := "Failures", side := .right }]

/-- The row of a report. -/
def Report.row (terminal : Terminal) (report : Report) : List String :=
  [report.name, report.scope,
    if report.passed then terminal.paint .green "PASS" else terminal.paint .red "FAIL",
    toString report.failures.length]

/-- The table of reports. -/
def reportTable (terminal : Terminal) (reports : List Report) : String :=
  Text.Table.render reportColumns (reports.map (Report.row terminal))

/-- The note on a report, and its failures below it. -/
def reportNotes (terminal : Terminal) (report : Report) : List Output :=
  if report.passed then
    [terminal.note .success (report.name ++ ": all required permissions held")]
  else
    terminal.note .failure (report.name ++ ":") ::
      report.failures.map fun failure => .err ("    " ++ failure ++ "\n")

/-- The reports, as a JSON document or as a table with notes. -/
def showReports (terminal : Terminal) (json : Bool) (reports : List Report) : List Output :=
  if json then [.out (Report.document reports ++ "\n")]
  else .out (reportTable terminal reports) :: reports.flatMap (reportNotes terminal)

/-! ### All checks -/

/-- Carry out checks and show their reports. Nothing is shown before the last check is done. -/
def carryOutAll (terminal : Terminal) (files : Files) (configPath checkedAt : String)
    (json : Bool) (checks : List NamedCheck) : Shown Bool :=
  let carried := checks.map (NamedCheck.carryOut files configPath checkedAt)
  let reports := carried.map Logged.value
  { value := reports.all Report.passed
    output := (carried.flatMap Logged.events).map .log ++ showReports terminal json reports }

/-- Carry out the checks of a configuration, or those of one name. -/
def carryOutChecks (terminal : Terminal) (files : Files) (config : Config)
    (configPath checkedAt : String) (name? : Option String) (json : Bool) :
    Except Failure (Shown Bool) := do
  let checks ← config.select name?
  if checks.isEmpty then
    return { value := true, output := [terminal.note .warning "No checks configured"] }
  else return carryOutAll terminal files configPath checkedAt json checks

end AccessAudit
