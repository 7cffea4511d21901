/-
**Checks do not touch each other, and none is lost.**

The checks of a configuration are carried out one after the other, and each of them ends in a
report, also when its snapshot cannot be used. What a report says depends on its own check and on
the file of its own snapshot, not on the checks beside it and not on the time. So the report of a
check is the same in a run of all checks, in a run that asks for its name, and in a run of a
configuration that holds nothing else. That a name leads to one check and not to several is the work
of validation, which finds every name that is used twice.

* `NamedCheck.reportOn`, `carryOut_value_eq_reportOn`: the report on the snapshot that is held;
* `untimed_carryOut`: what a report depends on;
* `names_nodup_of_isValid`: in a valid configuration no name is used twice;
* `Yields`, `carryOutChecks_yields`: the reports that a run shows;
* `NamedCheck.StandsAlone`: the report of a check by itself and in the company of others;
* `checks_are_isolated`: a run of all checks, and a run of one name.
-/
import AccessAudit.Config.Findings
import AccessAudit.Proofs.SnapshotFaults
import AccessAudit.Proofs.StandardOutput
import Mathlib.Data.List.Forall2

namespace AccessAudit

/-! ### What a report depends on -/

/-- All that a report says, its time aside. -/
def Report.untimed (report : Report) : Report :=
  { report with checkedAt := "" }

/-- The report of a check on the snapshot that is held for it, or on why there is none. -/
def NamedCheck.reportOn (checkedAt : String) (named : NamedCheck) :
    Except Failure Snapshot → Report
  | .error failure => Report.errored named.name named.scope checkedAt failure
  | .ok snapshot =>
    match (check named.requirement snapshot).value with
    | .error error => Report.errored named.name named.scope checkedAt error.failure
    | .ok outcome => Report.ofCheck named.name named.scope checkedAt outcome

/-- **A report comes from what the file of its own snapshot holds.** -/
theorem carryOut_value_eq_reportOn (files : Files) (configPath checkedAt : String)
    (named : NamedCheck) :
    (named.carryOut files configPath checkedAt).value =
      named.reportOn checkedAt (readSnapshot files (snapshotPath configPath named.snapshot)) := by
  unfold NamedCheck.carryOut audit Source.file NamedCheck.reportOn
  cases readSnapshot files (snapshotPath configPath named.snapshot) with
  | error failure => rfl
  | ok snapshot =>
    simp only
    cases (check named.requirement snapshot).value <;> rfl

theorem untimed_reportOn (checkedAt checkedAt' : String) (named : NamedCheck)
    (held : Except Failure Snapshot) :
    (named.reportOn checkedAt held).untimed = (named.reportOn checkedAt' held).untimed := by
  cases held with
  | error failure => rfl
  | ok snapshot =>
    unfold NamedCheck.reportOn
    simp only
    cases (check named.requirement snapshot).value <;> rfl

/-- **Files that agree on the snapshot of a check give it the same report, at any time.** -/
theorem untimed_carryOut {files files' : Files} {configPath : String} {named : NamedCheck}
    (same : files.read (snapshotPath configPath named.snapshot) =
      files'.read (snapshotPath configPath named.snapshot)) (checkedAt checkedAt' : String) :
    (named.carryOut files configPath checkedAt).value.untimed =
      (named.carryOut files' configPath checkedAt').value.untimed := by
  have held : readSnapshot files (snapshotPath configPath named.snapshot) =
      readSnapshot files' (snapshotPath configPath named.snapshot) := by
    unfold readSnapshot
    rw [same]
  rw [carryOut_value_eq_reportOn, carryOut_value_eq_reportOn, held]
  exact untimed_reportOn checkedAt checkedAt' named _

theorem carryOut_of_audit_error {files : Files} {configPath checkedAt : String}
    {named : NamedCheck} {failure : Failure}
    (failed : (audit named.name named.scope named.requirement
      (Source.file files (snapshotPath configPath named.snapshot)) checkedAt).value =
        .error failure) :
    (named.carryOut files configPath checkedAt).value =
      Report.errored named.name named.scope checkedAt failure := by
  unfold NamedCheck.carryOut
  simp only [failed]

/-! ### Names -/

theorem ne_of_nameErrors_eq_nil {path : String} {earlier : List NamedCheck} {named : NamedCheck}
    (clear : nameErrors path earlier named = []) :
    ∀ other ∈ earlier, other.name ≠ named.name := by
  intro other before same
  have repeated : earlier.any (·.name == named.name) = true :=
    List.any_eq_true.mpr ⟨other, before, beq_iff_eq.mpr same⟩
  unfold nameErrors at clear
  rw [repeated] at clear
  by_cases blank : Text.isBlankText named.name
  · simp [blank] at clear
  · simp [blank] at clear

/-- **In a valid configuration no name is used twice.** -/
theorem names_nodup_of_isValid {config : Config} (valid : (findings config).isValid) :
    (config.checks.map NamedCheck.name).Nodup := by
  have errors : (findings config).errors = [] := List.isEmpty_iff.mp valid
  have ofChecks := (List.append_eq_nil_iff.mp errors).2
  -- a check without an error has another name than each of the checks in front of it
  have clear : ∀ entry ∈ config.checks.zipIdx,
      nameErrors (indexed "checks" entry.2) (config.checks.take entry.2) entry.1 = [] := by
    intro entry listed
    have ofCheck := List.flatMap_eq_nil_iff.mp ofChecks entry listed
    unfold checkErrors at ofCheck
    simp only [List.append_eq_nil_iff] at ofCheck
    exact ofCheck.1.1.1
  unfold List.Nodup
  rw [List.pairwise_map, List.pairwise_iff_getElem]
  intro i j early late before
  have listed : (config.checks[j], j) ∈ config.checks.zipIdx :=
    List.mem_zipIdx_iff_getElem?.mpr (List.getElem?_eq_getElem late)
  have earlier : config.checks[i] ∈ config.checks.take j := by
    rw [List.mem_take_iff_getElem]
    exact ⟨i, by omega, rfl⟩
  exact ne_of_nameErrors_eq_nil (clear _ listed) _ earlier

/-- Among checks with distinct names, a name leads to one check. -/
theorem filter_name_eq_singleton {checks : List NamedCheck} {named : NamedCheck}
    (distinct : (checks.map NamedCheck.name).Nodup) (member : named ∈ checks) :
    (checks.filter fun other => other.name == named.name) = [named] := by
  induction checks with
  | nil => cases member
  | cons first rest ih =>
    obtain ⟨fresh, restDistinct⟩ := List.nodup_cons.mp distinct
    rcases List.mem_cons.mp member with rfl | later
    · have others : (rest.filter fun other => other.name == named.name) = [] := by
        rw [List.filter_eq_nil_iff]
        intro other inside same
        exact fresh (List.mem_map.mpr ⟨other, inside, beq_iff_eq.mp same⟩)
      rw [List.filter_cons_of_pos (by simp), others]
    · have different : first.name ≠ named.name := by
        intro same
        exact fresh (List.mem_map.mpr ⟨named, later, same.symm⟩)
      rw [List.filter_cons_of_neg (by simpa using different), ih restDistinct later]

/-! ### The reports of a run -/

/-- Beside what it logs, a run shows these reports alone, and it holds exactly when all of them have
passed. As a document the reports can be read back. -/
structure Yields (terminal : Terminal) (json : Bool) (shown : Shown Bool)
    (reports : List Report) : Prop where
  output : ∃ events : List LogEvent, shown.output = events.map .log ++
    if reports = [] then [terminal.note .warning "No checks configured"]
    else showReports terminal json reports
  read : json = true → reports ≠ [] →
    Report.readAll? (Output.stdout shown.output) = some reports
  value : shown.value = true ↔ ∀ report ∈ reports, report.passed = true

section Run

variable (terminal : Terminal) (files : Files) (configPath checkedAt : String) (json : Bool)

theorem carryOutAll_yields {checks : List NamedCheck} (asked : checks ≠ []) :
    Yields terminal json (carryOutAll terminal files configPath checkedAt json checks)
      (checks.map fun named => (named.carryOut files configPath checkedAt).value) := by
  have reported : (checks.map fun named => (named.carryOut files configPath checkedAt).value) ≠
      [] := by
    simpa using asked
  have shown : (carryOutAll terminal files configPath checkedAt json checks).output =
      ((checks.map (NamedCheck.carryOut files configPath checkedAt)).flatMap Logged.events).map
        .log ++ showReports terminal json
          (checks.map fun named => (named.carryOut files configPath checkedAt).value) := by
    unfold carryOutAll
    simp only [List.map_map]
    rfl
  refine ⟨⟨(checks.map (NamedCheck.carryOut files configPath checkedAt)).flatMap Logged.events,
    ?_⟩, fun inJson _ => ?_, ?_⟩
  · rw [if_neg reported]
    exact shown
  · subst inJson
    rw [shown, stdout_append, stdout_map_log, String.empty_append]
    show Report.readAll? (Output.stdout [.out _]) = _
    rw [stdout_out_cons]
    show Report.readAll? (_ ++ "\n" ++ "") = _
    rw [String.append_empty, Report.readAll?_document]
  · unfold carryOutAll
    simp only [List.all_map, List.all_eq_true, List.forall_mem_map, Function.comp_apply]

/-- **A run yields one report for each selected check, in their order.** -/
theorem carryOutChecks_yields {config : Config} {name? : Option String}
    {checks : List NamedCheck} (selected : config.select name? = .ok checks) :
    ∃ shown, carryOutChecks terminal files config configPath checkedAt name? json = .ok shown ∧
      Yields terminal json shown
        (checks.map fun named => (named.carryOut files configPath checkedAt).value) := by
  unfold carryOutChecks
  rw [selected]
  cases checks with
  | nil =>
    refine ⟨_, rfl, ⟨[], rfl⟩, fun _ reported => ?_, ?_⟩
    · exact absurd rfl reported
    · simp
  | cons first rest =>
    exact ⟨_, rfl, carryOutAll_yields terminal files configPath checkedAt json (by simp)⟩

/-- A run that asks for a name fails when no check has it. -/
theorem carryOutChecks_unknown_iff (config : Config) (name : String) :
    (∃ failure, carryOutChecks terminal files config configPath checkedAt (some name) json =
      .error failure) ↔ ∀ named ∈ config.checks, named.name ≠ name := by
  have unselected : (config.selected (some name)).isEmpty ↔
      ∀ named ∈ config.checks, named.name ≠ name := by
    unfold Config.selected
    simp
  rw [← unselected]
  by_cases absent : (config.selected (some name)).isEmpty
  · refine iff_of_true ⟨{ account := "No check named '" ++ name ++ "' in config" }, ?_⟩ absent
    unfold carryOutChecks Config.select
    simp only [absent, if_true]
    rfl
  · refine iff_of_false ?_ absent
    rintro ⟨failure, failed⟩
    have selected : config.select (some name) = .ok (config.selected (some name)) := by
      unfold Config.select
      simp only [absent]
      rfl
    obtain ⟨shown, ended, -⟩ :=
      carryOutChecks_yields terminal files configPath checkedAt json selected
    rw [ended] at failed
    cases failed

end Run

/-! ### Each check by itself -/

/-- The report of a check in a run of all checks says what it says when the check is the only one of
its configuration, whatever is in the files of other snapshots, and what it says when the check is
asked for by its name. If the check cannot be carried out, the report has not passed and its one
failure tells why. -/
structure NamedCheck.StandsAlone (files : Files) (configPath : String) (config : Config)
    (named : NamedCheck) (report : Report) : Prop where
  name : report.name = named.name
  scope : report.scope = named.scope
  broken : ∀ checkedAt failure, (audit named.name named.scope named.requirement
      (Source.file files (snapshotPath configPath named.snapshot)) checkedAt).value =
        .error failure →
    report.passed = false ∧ report.failures = ["Check could not run: " ++ failure.full]
  alone : ∀ files' : Files, files'.read (snapshotPath configPath named.snapshot) =
      files.read (snapshotPath configPath named.snapshot) →
    ∀ terminal checkedAt json logging, ∃ shown single,
      carryOutChecks terminal files' { logging, checks := [named] } configPath checkedAt none json =
        .ok shown ∧ Yields terminal json shown [single] ∧ single.untimed = report.untimed
  asked : ∀ terminal checkedAt json, ∃ shown single,
    carryOutChecks terminal files config configPath checkedAt (some named.name) json = .ok shown ∧
      Yields terminal json shown [single] ∧ single.untimed = report.untimed

theorem standsAlone_carryOut {config : Config} (valid : (findings config).isValid)
    {named : NamedCheck} (member : named ∈ config.checks) (files : Files)
    (configPath checkedAt : String) :
    named.StandsAlone files configPath config
      (named.carryOut files configPath checkedAt).value := by
  obtain ⟨name, scope⟩ := carryOut_name_scope files configPath checkedAt named
  refine ⟨name, scope, ?_, ?_, ?_⟩
  · intro checkedAt' failure failed
    have told : (named.carryOut files configPath checkedAt).value.untimed =
        (Report.errored named.name named.scope checkedAt' failure).untimed := by
      rw [← carryOut_of_audit_error failed]
      exact untimed_carryOut rfl checkedAt checkedAt'
    exact ⟨congrArg Report.passed told, congrArg Report.failures told⟩
  · intro files' same terminal checkedAt' json logging
    have selected : Config.select { logging, checks := [named] } none = .ok [named] := rfl
    obtain ⟨shown, ended, yields⟩ :=
      carryOutChecks_yields terminal files' configPath checkedAt' json selected
    exact ⟨shown, _, ended, yields, untimed_carryOut same checkedAt' checkedAt⟩
  · intro terminal checkedAt' json
    have single := filter_name_eq_singleton (names_nodup_of_isValid valid) member
    have selected : config.select (some named.name) = .ok [named] := by
      unfold Config.select Config.selected
      simp only [single]
      rfl
    obtain ⟨shown, ended, yields⟩ :=
      carryOutChecks_yields terminal files configPath checkedAt' json selected
    exact ⟨shown, _, ended, yields, untimed_carryOut rfl checkedAt' checkedAt⟩

/-- **A run of a valid configuration yields one report for each check, in the order of the checks,
and each of them is the report that the check has by itself. A run that asks for a name fails
exactly when no check has it.** -/
theorem checks_are_isolated {config : Config} (valid : (findings config).isValid)
    (terminal : Terminal) (files : Files) (configPath checkedAt : String) (json : Bool) :
    (∃ shown reports,
      carryOutChecks terminal files config configPath checkedAt none json = .ok shown ∧
      Yields terminal json shown reports ∧
      List.Forall₂ (NamedCheck.StandsAlone files configPath config) config.checks reports) ∧
    ∀ name, (∃ failure,
      carryOutChecks terminal files config configPath checkedAt (some name) json =
        .error failure) ↔ ∀ named ∈ config.checks, named.name ≠ name := by
  refine ⟨?_, carryOutChecks_unknown_iff terminal files configPath checkedAt json config⟩
  have selected : config.select none = .ok config.checks := rfl
  obtain ⟨shown, ended, yields⟩ :=
    carryOutChecks_yields terminal files configPath checkedAt json selected
  refine ⟨shown, _, ended, yields, ?_⟩
  rw [List.forall₂_map_right_iff, List.forall₂_same]
  exact fun named member => standsAlone_carryOut valid member files configPath checkedAt

/-! ### A check without its snapshot beside one with it -/

/-- The snapshot of the first check is lost; that of the second has no records. -/
def companyConfig : Config where
  checks :=
    [{ name := "lost", scope := "/", snapshot := "lost.json"
       requirement := { actions := ["Vault/read"] } },
      vaultCheck ["Vault/read"]]

/-- The files of the run, without the snapshot that is lost. -/
def companyFiles : Files :=
  .ofReadings [("vault.json", .ok "\x7b\x7d")] []

/-- The lost snapshot is told of in the report of its own check; the check behind it is carried out,
and it is the one to be carried out when it is asked for by name. -/
theorem lost_snapshot_stops_nothing :
    (findings companyConfig).isValid ∧
    (∃ shown lost vault,
      carryOutChecks {} companyFiles companyConfig "permcheck.yaml" "" none true = .ok shown ∧
      Report.readAll? (Output.stdout shown.output) = some [lost, vault] ∧
      lost.failures = ["Check could not run: Failed to read rule snapshot: lost.json: " ++
        "No such file or directory (os error 2)"] ∧
      vault.name = "vault" ∧
      ∃ shown single,
        carryOutChecks {} companyFiles companyConfig "permcheck.yaml" "" (some "vault") true =
          .ok shown ∧ Yields {} true shown [single] ∧ single.untimed = vault.untimed) ∧
    ∃ failure, carryOutChecks {} companyFiles companyConfig "permcheck.yaml" "" (some "admin")
      true = .error failure := by
  have valid : (findings companyConfig).isValid := by decide +kernel
  obtain ⟨⟨shown, reports, ended, yields, each⟩, unknown⟩ :=
    checks_are_isolated valid {} companyFiles "permcheck.yaml" "" true
  obtain ⟨lost, rest, first, others, rfl⟩ := List.forall₂_cons_left_iff.mp each
  obtain ⟨vault, rest, second, beyond, rfl⟩ := List.forall₂_cons_left_iff.mp others
  obtain rfl := List.forall₂_nil_left_iff.mp beyond
  refine ⟨valid, ⟨shown, lost, vault, ended, yields.read rfl (by simp), ?_, second.name, ?_⟩, ?_⟩
  · exact (first.broken "" _ rfl).2
  · exact second.asked {} "" true
  · exact (unknown "admin").mpr (by decide)

end AccessAudit
