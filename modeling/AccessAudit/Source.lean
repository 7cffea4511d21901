/-
**Where snapshots come from.**

A source delivers the snapshot for a scope or tells why it cannot. A file that is missing or is no
snapshot is a failure; it never stands for a snapshot without rules.

* `Source.file`: the snapshot in a file;
* `audit`: fetch the snapshot of one named check and carry the check out.
-/
import AccessAudit.Files
import AccessAudit.Record.Json
import AccessAudit.Report

namespace AccessAudit

/-- Something that delivers a snapshot for a scope. -/
structure Source where
  /-- What the log calls the source. -/
  name : String
  fetch : String → Logged (Except Failure Snapshot)

/-- The event before a file is read. -/
def readingEvent (path scope : String) : LogEvent where
  level := .debug
  message := "Reading rule snapshot"
  fields := [("path", .plain path), ("scope", .plain scope)]

/-- The event after a snapshot was read from a file. -/
def loadedEvent (path : String) (snapshot : Snapshot) : LogEvent where
  level := .info
  message := "Loaded rule snapshot"
  fields :=
    [("path", .plain path), ("role_assignments", .count snapshot.roleAssignments.length),
      ("deny_assignments", .count snapshot.denyAssignments.length)]

/-- The snapshot that the text of a file holds. -/
def readSnapshot (files : Files) (path : String) : Except Failure Snapshot :=
  match files.read path with
  | .error error =>
    .error { account := "Failed to read rule snapshot: " ++ path, causes := [error.message] }
  | .ok text =>
    match Snapshot.parse? text with
    | none =>
      .error
        { account := "Failed to parse rule snapshot JSON: " ++ path
          causes := ["the text is not a snapshot"] }
    | some snapshot => .ok snapshot

/-- The snapshot in a file, which is read on each fetch. -/
def Source.file (files : Files) (path : String) : Source where
  name := "file"
  fetch := fun scope =>
    match readSnapshot files path with
    | .error failure => { value := .error failure, events := [readingEvent path scope] }
    | .ok snapshot =>
      { value := .ok snapshot
        events := [readingEvent path scope, loadedEvent path snapshot] }

/-- The event that closes a check that was carried out. -/
def outcomeEvent (source : Source) (report : Report) : LogEvent :=
  if report.passed then
    { level := .info
      message := "Permission check passed"
      fields :=
        [("check", .plain report.name), ("scope", .plain report.scope),
          ("source", .name source.name)] }
  else
    { level := .warn
      message := "Permission check failed"
      fields :=
        [("check", .plain report.name), ("scope", .plain report.scope),
          ("failures", .count report.failures.length)] }

/-- Fetch the snapshot for a scope and judge the requirement by it. -/
def audit (name scope : String) (requirement : Requirement) (source : Source)
    (checkedAt : String) : Logged (Except Failure Report) :=
  let fetched := source.fetch scope
  match fetched.value with
  | .error failure => { value := .error failure, events := fetched.events }
  | .ok snapshot =>
    let checked := check requirement snapshot
    match checked.value with
    | .error error =>
      { value := .error error.failure, events := fetched.events ++ checked.events }
    | .ok outcome =>
      let report := Report.ofCheck name scope checkedAt outcome
      { value := .ok report
        events := fetched.events ++ checked.events ++ [outcomeEvent source report] }

end AccessAudit
