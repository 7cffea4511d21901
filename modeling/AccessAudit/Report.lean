/-
**Reports of named checks.**

A check is reported under its name and scope, with its outcome and the messages of its failures. A
check that could not be carried out is reported as failed, with the cause as its only failure: it
never counts as passed and is never left out.

* `Report.ofCheck`, `Report.errored`: the two kinds of report;
* `Report.toJson`, `Report.document`: reports in JSON.
-/
import AccessAudit.Check
import AccessAudit.Json.Printer
import AccessAudit.Json.Record

namespace AccessAudit

/-- The outcome of one named check. -/
structure Report where
  name : String
  scope : String
  passed : Bool
  failures : List String := []
  /-- When the check was carried out. -/
  checkedAt : String
  deriving DecidableEq, Repr

namespace Report

/-- The report of a check that was carried out. -/
def ofCheck (name scope checkedAt : String) (check : PermissionCheck) : Report where
  name := name
  scope := scope
  passed := check.passed
  failures := check.failures
  checkedAt := checkedAt

/-- The report of a check that could not be carried out. -/
def errored (name scope checkedAt : String) (failure : Failure) : Report where
  name := name
  scope := scope
  passed := false
  failures := ["Check could not run: " ++ failure.full]
  checkedAt := checkedAt

/-- The report in JSON. -/
def toJson (report : Report) : Json :=
  .object
    [("name", .string report.name), ("scope", .string report.scope),
      ("passed", .bool report.passed), ("failures", .ofTexts report.failures),
      ("checkedAt", .string report.checkedAt)]

/-- The reports of a run as one JSON document. -/
def document (reports : List Report) : String :=
  (Json.array (reports.map toJson)).pretty

end Report

end AccessAudit
