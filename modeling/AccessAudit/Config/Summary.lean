/-
**The findings of a configuration on the terminal.**

* `Findings.notes`: one note for each finding, the warnings first;
* `summary`: how many checks there are, the findings, and whether the configuration is valid.
-/
import AccessAudit.Config.Findings
import AccessAudit.Terminal

namespace AccessAudit

/-- The line of a finding. -/
def Finding.line (finding : Finding) : String :=
  finding.path ++ ": " ++ finding.message

/-- One note for each warning, then one for each error. -/
def Findings.notes (terminal : Terminal) (findings : Findings) : List Output :=
  findings.warnings.map (fun finding => terminal.note .warning finding.line) ++
    findings.errors.map (fun finding => terminal.note .failure finding.line)

/-- What there is to say about a configuration. -/
def summary (terminal : Terminal) (config : Config) (findings : Findings) : List Output :=
  [terminal.note .info (toString config.checks.length ++ " check(s) configured")] ++
    findings.notes terminal ++
    if findings.isValid then [terminal.note .success "Config is valid"] else []

end AccessAudit
