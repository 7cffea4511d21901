/-
**What the standard output of a check holds.**

A check that is asked for JSON is read by another program, which takes the whole of the standard
output for one document. The document is always there, and it tells every report of the selected
checks in full and in order. But the notes on warnings go to the standard output as well, in front
of the document, and their mark begins no JSON value. So the output can be read exactly when the
configuration draws no warning, and with a warning nothing of it can be read.

* `Report.ofJson?`, `Report.readAll?`: reports as the reader of the output gets them;
* `Report.readAll?_document`: the document of reports is read back to the reports;
* `parse?_eq_none_of_begins`: a text is no document when its first character begins no value;
* `json_output_is_read_iff_no_warnings`: what a run writes, and when it can be read.
-/
import AccessAudit.Proofs.ExitCode
import AccessAudit.Proofs.JsonRecord
import AccessAudit.Proofs.JsonText

namespace AccessAudit

/-! ### Reports read back -/

namespace Report

/-- A report from JSON; all its fields have to be there. -/
def ofJson? : Json → Option Report
  | .object members => do
    let name ← (← Json.field? "name" members).bind Json.text?
    let scope ← (← Json.field? "scope" members).bind Json.text?
    let passed ← (← Json.field? "passed" members).bind Json.bool?
    let failures ← (← Json.field? "failures" members).bind Json.texts?
    let checkedAt ← (← Json.field? "checkedAt" members).bind Json.text?
    return { name, scope, passed, failures, checkedAt }
  | _ => none

/-- The reports that a text holds, if all of it is one document of reports. -/
def readAll? (text : String) : Option (List Report) :=
  (Json.parse? text).bind (Json.listOf? ofJson?)

theorem ofJson?_toJson (report : Report) : ofJson? report.toJson = some report := by
  simp [toJson, ofJson?, Json.field?, Json.text?, Json.bool?, Json.texts?_ofTexts]

theorem isVerbal_toJson (report : Report) : report.toJson.isVerbal := by
  have failures : Json.areItemsVerbal (report.failures.map .string) := by
    induction report.failures with
    | nil => rfl
    | cons failure rest ih => exact ih
  simp [toJson, Json.isVerbal, Json.areMembersVerbal, Json.ofTexts, failures]

theorem areItemsVerbal_map_toJson (reports : List Report) :
    Json.areItemsVerbal (reports.map toJson) := by
  induction reports with
  | nil => rfl
  | cons report rest ih =>
    rw [List.map_cons, Json.areItemsVerbal, isVerbal_toJson, ih]
    rfl

/-- **The document of reports, with the end of its last line, is read back to the reports.** -/
theorem readAll?_document (reports : List Report) :
    readAll? (document reports ++ "\n") = some reports := by
  have verbal : (Json.array (reports.map toJson)).isVerbal := areItemsVerbal_map_toJson reports
  have parsed : Json.parse? (document reports ++ "\n") = some (.array (reports.map toJson)) :=
    Json.parse?_pretty verbal (by simp [Json.isSpace])
  unfold readAll?
  rw [parsed, Option.bind_some]
  exact Json.listOf?_map fun report _ => ofJson?_toJson report

end Report

/-! ### Texts that are no document -/

namespace Json

/-- A character that a value may begin with, or a blank in front of it. -/
def mayBegin (c : Char) : Bool :=
  isSpace c || c.isDigit || ['n', 't', 'f', '"', '[', '\x7b', '-'].contains c

theorem readValue_eq_none_of_begins {c : Char} (stray : mayBegin c = false) (fuel : Nat)
    (cs : List Char) : readValue fuel (c :: cs) = none := by
  cases fuel with
  | zero => rw [readValue]
  | succ fuel =>
    simp only [mayBegin, Bool.or_eq_false_iff, List.contains_eq_mem, decide_eq_false_iff_not,
      List.mem_cons, not_or] at stray
    obtain ⟨⟨-, digit⟩, noN, noT, noF, quote, bracket, brace, minus, -⟩ := stray
    rw [readValue]
    · rw [readNumber]
      · simp [readMagnitude, readDigits, digit]
      · rintro rest ⟨⟩
        exact minus rfl
    all_goals
      rintro rest ⟨⟩
      contradiction

/-- A text that begins with a character that begins no value is no document. -/
theorem parse?_eq_none_of_begins {c : Char} (stray : mayBegin c = false) {text : String}
    {cs : List Char} (begins : text.toList = c :: cs) : parse? text = none := by
  have shown : isSpace c = false := by
    simp only [mayBegin, Bool.or_eq_false_iff] at stray
    exact stray.1.1
  unfold parse? parseChars?
  rw [begins, skipSpace_cons shown, readValue_eq_none_of_begins stray]

end Json

/-- The mark in front of a warning begins no JSON value, with or without colours. -/
theorem mark_warning_begins (terminal : Terminal) :
    ∃ c cs, (terminal.mark .warning).toList = c :: cs ∧ Json.mayBegin c = false := by
  unfold Terminal.mark
  cases terminal.colour with
  | false => exact ⟨'W', _, rfl, rfl⟩
  | true => exact ⟨Text.escape, "[33m\x1b[1m⚠\x1b[0m".toList, by decide +kernel, rfl⟩

/-! ### The standard output of a run -/

/-- The notes on warnings as the terminal shows them, one line each. -/
def warningText (terminal : Terminal) (findings : Findings) : String :=
  String.join (findings.warnings.map fun finding => terminal.noteLine .warning finding.line)

/-- The reports of the selected checks, in the order of the configuration. -/
def Prepared.reports (situation : Situation) (path : String) (name? : Option String)
    (prepared : Prepared) : List Report :=
  (prepared.config.selected name?).map fun named =>
    (named.carryOut situation.files path situation.time).value

/-- The command line that asks for the reports in JSON. -/
def CommandLine.jsonCheck (config? name? : Option String) : CommandLine where
  config? := config?
  command := .check name? true

theorem stdout_append (before after : List Output) :
    Output.stdout (before ++ after) = Output.stdout before ++ Output.stdout after := by
  unfold Output.stdout
  rw [List.filterMap_append, String.join_append]

theorem stdout_out_cons (text : String) (rest : List Output) :
    Output.stdout (.out text :: rest) = text ++ Output.stdout rest :=
  String.join_cons

/-- Events go to the log alone. -/
theorem stdout_map_log (events : List LogEvent) : Output.stdout (events.map .log) = "" := by
  induction events with
  | nil => rfl
  | cons event rest ih => exact ih

/-- The notes on warnings go to the standard output. -/
theorem stdout_notes (terminal : Terminal) {findings : Findings} (clear : findings.errors = []) :
    Output.stdout (findings.notes terminal) = warningText terminal findings := by
  unfold Findings.notes warningText
  rw [clear, List.map_nil, List.append_nil]
  induction findings.warnings with
  | nil => rfl
  | cons warning rest ih =>
    rw [List.map_cons, List.map_cons, String.join_cons, ← ih]
    exact stdout_out_cons _ _

/-- A report has the name and the scope of its check. -/
theorem carryOut_name_scope (files : Files) (configPath checkedAt : String) (named : NamedCheck) :
    (named.carryOut files configPath checkedAt).value.name = named.name ∧
      (named.carryOut files configPath checkedAt).value.scope = named.scope := by
  unfold NamedCheck.carryOut
  simp only
  cases found : (audit named.name named.scope named.requirement
    (Source.file files (snapshotPath configPath named.snapshot)) checkedAt).value with
  | error failure => exact ⟨rfl, rfl⟩
  | ok report =>
    obtain ⟨_, outcome, _, _, rfl⟩ := (audit_file_eq_ok_iff ..).mp found
    exact ⟨rfl, rfl⟩

section Run

variable {situation : Situation} {path : String} {config? name? : Option String}
  {prepared : Prepared}

/-- What a check in JSON writes when the configuration has no errors and a check is selected: the
notes on warnings, then the document of the reports. -/
theorem runCheck_json_of_selected (path : String) (clear : prepared.findings.errors = [])
    (asked : prepared.config.selected name? ≠ []) :
    Output.stdout (runCheck situation path name? true prepared).output =
      warningText situation.terminal prepared.findings ++
        (Report.document (prepared.reports situation path name?) ++ "\n") ∧
    (runCheck situation path name? true prepared).code =
      (Outcome.ofPassed ((prepared.reports situation path name?).all Report.passed)).code := by
  obtain ⟨first, rest, selected⟩ := List.exists_cons_of_ne_nil asked
  have valid : prepared.findings.isValid = true := by
    unfold Findings.isValid
    rw [clear, List.isEmpty_nil]
  unfold runCheck Prepared.reports
  rw [carryOutChecks_of_selected situation.terminal situation.files path situation.time true
    selected, selected]
  simp only [valid, if_true, carryOutAll, showReports, List.map_map]
  refine ⟨?_, rfl⟩
  simp only [stdout_append, stdout_map_log, stdout_notes situation.terminal clear,
    Prepared.beginLog, stdout_out_cons, String.empty_append]
  show warningText situation.terminal prepared.findings ++ (Report.document _ ++ "\n" ++ "") = _
  rw [String.append_empty]
  rfl

/-- The text that begins with a note on a warning is no document. -/
theorem parse?_warningText_append {findings : Findings} (terminal : Terminal)
    (warned : findings.warnings ≠ []) (following : String) :
    Json.parse? (warningText terminal findings ++ following) = none := by
  obtain ⟨warning, rest, warnings⟩ := List.exists_cons_of_ne_nil warned
  obtain ⟨c, cs, mark, stray⟩ := mark_warning_begins terminal
  have begins : ∃ later, (warningText terminal findings ++ following).toList = c :: later := by
    unfold warningText Terminal.noteLine
    simp only [warnings, List.map_cons, String.join_cons, String.toList_append, mark,
      List.cons_append]
    exact ⟨_, rfl⟩
  obtain ⟨later, begins⟩ := begins
  exact Json.parse?_eq_none_of_begins stray begins

theorem run_jsonCheck (usable : (CommandLine.jsonCheck config? name?).prepared situation =
      .ok prepared) :
    run situation (.jsonCheck config? name?) =
      runCheck situation ((CommandLine.jsonCheck config? name?).configPath situation)
        name? true prepared := by
  unfold CommandLine.prepared at usable
  unfold run
  simp only [usable]
  rfl

/-- **With a configuration that loads, has no errors and selects a check, a check in JSON writes the
notes on warnings and then the document of the selected checks' reports, in the order of the
configuration. What it writes is read back to these reports exactly when there are no warnings;
with a warning it is no document at all. The run exits with 0 exactly when every report has
passed.** -/
theorem json_output_is_read_iff_no_warnings
    (usable : (CommandLine.jsonCheck config? name?).prepared situation = .ok prepared)
    (clear : prepared.findings.errors = [])
    (asked : prepared.config.selected name? ≠ []) :
    let line := CommandLine.jsonCheck config? name?
    let transcript := run situation line
    let written := Output.stdout transcript.output
    let reports := prepared.reports situation (line.configPath situation) name?
    written = warningText situation.terminal prepared.findings ++
      (Report.document reports ++ "\n") ∧
    (Report.readAll? written = some reports ↔ prepared.findings.warnings = []) ∧
    (prepared.findings.warnings ≠ [] → Json.parse? written = none) ∧
    reports.map (fun report => (report.name, report.scope)) =
      (prepared.config.selected name?).map (fun named => (named.name, named.scope)) ∧
    (transcript.code = 0 ↔ ∀ report ∈ reports, report.passed) := by
  intro line transcript written reports
  have followed : transcript = runCheck situation (line.configPath situation) name? true
      prepared := run_jsonCheck usable
  obtain ⟨text, code⟩ := @runCheck_json_of_selected situation name? prepared
    (line.configPath situation) clear asked
  rw [← followed] at text code
  have unread : prepared.findings.warnings ≠ [] → Json.parse? written = none := by
    intro warned
    show Json.parse? (Output.stdout transcript.output) = none
    rw [text]
    exact parse?_warningText_append situation.terminal warned _
  have passed : transcript.code = 0 ↔ ∀ report ∈ reports, report.passed := by
    rw [code, ← List.all_eq_true]
    cases reports.all Report.passed <;> simp [Outcome.ofPassed, Outcome.code]
  refine ⟨text, ⟨fun read => ?_, fun unwarned => ?_⟩, unread, ?_, passed⟩
  · by_contra warned
    rw [Report.readAll?, unread warned] at read
    cases read
  · show Report.readAll? (Output.stdout transcript.output) = some reports
    rw [text, warningText, unwarned, List.map_nil]
    exact Report.readAll?_document reports
  · show (List.map _ _).map _ = _
    rw [List.map_map]
    exact List.map_congr_left fun named _ => Prod.ext (carryOut_name_scope _ _ _ named).1
      (carryOut_name_scope _ _ _ named).2

end Run

/-! ### A configuration with a warning and one without -/

/-- A run that finds one snapshot, without any records, and a configuration. -/
def situationOf (config : String) : Situation where
  environment := .ofList []
  files := .ofReadings [("permcheck.yaml", .ok config), ("vault.json", .ok "\x7b\x7d")] []
  time := "2024-05-01T00:00:00Z"

/-- The configuration of the run with one check that requires these actions. -/
def vaultConfig (actions : List String) : Config where
  checks := [{ name := "vault", snapshot := "vault.json", requirement := { actions } }]

/-- One check that requires an action, which nothing grants. -/
def requiringSituation : Situation :=
  situationOf "checks:\n- name: vault\n  snapshot: vault.json\n  actions: [Vault/read]\n"

/-- What a check that requires an action writes is read back. -/
theorem required_action_is_read_back :
    let line := CommandLine.jsonCheck (some "permcheck.yaml") none
    let transcript := run requiringSituation line
    Report.readAll? (Output.stdout transcript.output) =
      some [{
        name := "vault", scope := "/", passed := false
        failures := ["Action Vault/read unpermitted because no role assignment permits it."]
        checkedAt := "2024-05-01T00:00:00Z" }] ∧
    transcript.code ≠ 0 := by
  have usable : (CommandLine.jsonCheck (some "permcheck.yaml") none).prepared requiringSituation =
      .ok (vaultConfig ["Vault/read"]).prepared := by decide +kernel
  obtain ⟨_, read, _, _, code⟩ :=
    json_output_is_read_iff_no_warnings usable (by decide +kernel) (by decide +kernel)
  refine ⟨?_, ?_⟩
  · refine (read.mpr (by decide +kernel)).trans ?_
    decide +kernel
  · rw [ne_eq, code]
    decide +kernel

/-- One check that requires nothing, which draws a warning. -/
def idleSituation : Situation :=
  situationOf "checks:\n- name: vault\n  snapshot: vault.json\n"

/-- What a check that requires nothing writes cannot be read, though its configuration has no errors
and the check is selected. -/
theorem warning_is_in_front_of_reports :
    let line := CommandLine.jsonCheck (some "permcheck.yaml") none
    line.prepared idleSituation = .ok (vaultConfig []).prepared ∧
    (vaultConfig []).prepared.findings.errors = [] ∧
    (vaultConfig []).prepared.config.selected none ≠ [] ∧
    Json.parse? (Output.stdout (run idleSituation line).output) = none := by
  have usable : (CommandLine.jsonCheck (some "permcheck.yaml") none).prepared idleSituation =
      .ok (vaultConfig []).prepared := by decide +kernel
  have clear : (vaultConfig []).prepared.findings.errors = [] := by decide +kernel
  have asked : (vaultConfig []).prepared.config.selected none ≠ [] := by decide +kernel
  have warned : (vaultConfig []).prepared.findings.warnings ≠ [] := by decide +kernel
  refine ⟨usable, clear, asked, ?_⟩
  rw [run_jsonCheck usable, (runCheck_json_of_selected _ clear asked).1]
  exact parse?_warningText_append _ warned _

end AccessAudit
