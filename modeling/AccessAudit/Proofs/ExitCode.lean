/-
**No pass without reason.**

The code a run of `check` exits with is all that a caller sees of it, so it has to be right for
every configuration and whatever the files hold. It is 2 when the configuration cannot be used. Of a
configuration that can be used it is 0 exactly when everything asked for holds: a snapshot is there
for each selected check, nothing is wrong with it, and its records grant every required action and
deny none. In all other cases it is 1. In particular what cannot be read, what is incomplete and
what is not there at all never passes. The one thing to pass without a check is a configuration that
has none, as when there is no file of that name.

* `Snapshot.Permits`: the records grant an action and do not deny it;
* `NamedCheck.Holds`: what a check asks of the files;
* `Config.AllHold`: what is asked by the selected checks of a configuration;
* `carryOut_passed_iff`: a report has passed exactly when its check holds;
* `carryOutChecks_passed_iff`: the selected checks pass together when all that is asked for holds;
* `exit_code_says_what_holds`: the exit code of a run of `check`.
-/
import AccessAudit.Proofs.ExactVerdict
import AccessAudit.Proofs.SnapshotPlaces
import AccessAudit.Run

namespace AccessAudit

/-! ### What is asked of the files -/

/-- By the lists that are looked at, a block of some role assignment covers the action, and no block
of a deny assignment does. -/
def Snapshot.Permits (snapshot : Snapshot) (lists : PermissionBlock → Coverage)
    (action : String) : Prop :=
  (∃ assignment ∈ snapshot.roleAssignments, ∃ block ∈ assignment.blocks,
    (lists block).Covers action) ∧
  ¬ ∃ assignment ∈ snapshot.denyAssignments, ∃ block ∈ assignment.blocks,
    (lists block).Covers action

instance (snapshot : Snapshot) (lists : PermissionBlock → Coverage) (action : String) :
    Decidable (snapshot.Permits lists action) :=
  inferInstanceAs (Decidable (_ ∧ ¬ _))

/-- Where the path of the check leads from the configuration there is a file, it holds a snapshot,
nothing is wrong with that, and it permits every required action by the lists of actions and every
required data action by those of data actions. -/
def NamedCheck.Holds (files : Files) (configPath : String) (check : NamedCheck) : Prop :=
  ∃ place text snapshot, FilePath.SeenFrom configPath check.snapshot place ∧
    files.read place = .ok text ∧ Snapshot.parse? text = some snapshot ∧
    Acceptable check.requirement snapshot ∧
    (∀ action ∈ check.requirement.actions, snapshot.Permits (fun block =>
      { actions := block.actions.getD [], exceptions := block.notActions.getD [] }) action) ∧
    ∀ action ∈ check.requirement.dataActions, snapshot.Permits (fun block =>
      { actions := block.dataActions.getD [], exceptions := block.notDataActions.getD [] }) action

/-- No name is asked for, or that of the check. -/
def NamedCheck.IsSelected (name? : Option String) (check : NamedCheck) : Prop :=
  ∀ name ∈ name?, check.name = name

/-- Some check is selected and all selected checks hold, or there are no checks to select from. -/
def Config.AllHold (files : Files) (configPath : String) (name? : Option String)
    (config : Config) : Prop :=
  (name? = none ∧ config.checks = []) ∨
    (∃ check ∈ config.checks, check.IsSelected name?) ∧
      ∀ check ∈ config.checks, check.IsSelected name? → check.Holds files configPath

/-! ### One check -/

theorem readSnapshot_eq_ok_iff (files : Files) (path : String) (snapshot : Snapshot) :
    readSnapshot files path = .ok snapshot ↔
      ∃ text, files.read path = .ok text ∧ Snapshot.parse? text = some snapshot := by
  unfold readSnapshot
  cases files.read path with
  | error error => simp
  | ok text =>
    simp only [Except.ok.injEq, exists_eq_left']
    cases Snapshot.parse? text with
    | none => simp
    | some found => simp

/-- An audit of a file gives a report exactly when the file holds a snapshot on which the check is
carried out, and then the report is that of the check. -/
theorem audit_file_eq_ok_iff (files : Files) (name scope path checkedAt : String)
    (requirement : Requirement) (report : Report) :
    (audit name scope requirement (Source.file files path) checkedAt).value = .ok report ↔
      ∃ snapshot outcome, readSnapshot files path = .ok snapshot ∧
        (check requirement snapshot).value = .ok outcome ∧
        Report.ofCheck name scope checkedAt outcome = report := by
  unfold audit Source.file
  cases readSnapshot files path with
  | error failure => simp
  | ok snapshot =>
    simp only [Except.ok.injEq, exists_and_left, exists_eq_left']
    cases (check requirement snapshot).value with
    | error error => simp
    | ok outcome => simp

/-- The report of a check has passed when the check is carried out and passes; else it has not. -/
theorem carryOut_passed_iff_audit (files : Files) (configPath checkedAt : String)
    (named : NamedCheck) :
    (named.carryOut files configPath checkedAt).value.passed ↔
      ∃ report, (audit named.name named.scope named.requirement
        (Source.file files (snapshotPath configPath named.snapshot)) checkedAt).value = .ok report ∧
        report.passed := by
  unfold NamedCheck.carryOut
  simp only
  cases (audit named.name named.scope named.requirement
    (Source.file files (snapshotPath configPath named.snapshot)) checkedAt).value with
  | error failure => simp [Report.errored]
  | ok report => simp

/-- The snapshot of a check lies where its path leads from the configuration. -/
theorem seenFrom_iff (configPath snapshot place : String) :
    FilePath.SeenFrom configPath snapshot place ↔ place = snapshotPath configPath snapshot :=
  FilePath.seenFrom_iff_join configPath snapshot place

/-- What holds in both domains is what the two pairs of lists say. -/
theorem permitted_iff (requirement : Requirement) (snapshot : Snapshot) :
    (∀ domain, ∀ action ∈ requirement.inDomain domain,
      snapshot.Grants domain action ∧ ¬ snapshot.Denies domain action) ↔
    (∀ action ∈ requirement.actions, snapshot.Permits (fun block =>
      { actions := block.actions.getD [], exceptions := block.notActions.getD [] }) action) ∧
    ∀ action ∈ requirement.dataActions, snapshot.Permits (fun block =>
      { actions := block.dataActions.getD []
        exceptions := block.notDataActions.getD [] }) action :=
  Domain.forall_iff _

/-- **A report has passed exactly when its check holds.** -/
theorem carryOut_passed_iff (files : Files) (configPath checkedAt : String) (named : NamedCheck) :
    (named.carryOut files configPath checkedAt).value.passed ↔ named.Holds files configPath := by
  rw [carryOut_passed_iff_audit]
  unfold NamedCheck.Holds
  simp only [audit_file_eq_ok_iff, readSnapshot_eq_ok_iff, seenFrom_iff, ← permitted_iff]
  constructor
  · rintro ⟨_, ⟨snapshot, outcome, ⟨text, read, parsed⟩, carriedOut, rfl⟩, passed⟩
    exact ⟨_, text, snapshot, rfl, read, parsed, acceptable_of_check carriedOut,
      (passed_iff_permitted carriedOut).mp passed⟩
  · rintro ⟨_, text, snapshot, rfl, read, parsed, accepted, permitted⟩
    have carriedOut := (check_value_eq_ok_iff named.requirement snapshot _).mpr ⟨accepted, rfl⟩
    exact ⟨_, ⟨snapshot, _, ⟨text, read, parsed⟩, carriedOut, rfl⟩,
      (passed_iff_permitted carriedOut).mpr permitted⟩

/-! ### All selected checks -/

theorem mem_selected_iff (config : Config) (name? : Option String) (named : NamedCheck) :
    named ∈ config.selected name? ↔ named ∈ config.checks ∧ named.IsSelected name? := by
  unfold Config.selected NamedCheck.IsSelected
  cases name? with
  | none => simp
  | some name => simp

/-- All that is asked for, in terms of the list of selected checks. -/
theorem allHold_iff (files : Files) (configPath : String) (name? : Option String)
    (config : Config) :
    config.AllHold files configPath name? ↔
      (name? = none ∧ config.selected name? = []) ∨
        (∃ named, named ∈ config.selected name?) ∧
          ∀ named ∈ config.selected name?, named.Holds files configPath := by
  unfold Config.AllHold
  simp only [mem_selected_iff, and_imp]
  refine or_congr (and_congr_right fun unnamed => ?_) Iff.rfl
  rw [unnamed]
  rfl

theorem carryOutAll_value (terminal : Terminal) (files : Files) (configPath checkedAt : String)
    (json : Bool) (checks : List NamedCheck) :
    (carryOutAll terminal files configPath checkedAt json checks).value ↔
      ∀ named ∈ checks, named.Holds files configPath := by
  unfold carryOutAll
  simp only [List.all_map, List.all_eq_true, Function.comp_apply, carryOut_passed_iff]

/-- Where a check is selected, the selected checks are carried out. -/
theorem carryOutChecks_of_selected (terminal : Terminal) (files : Files)
    (configPath checkedAt : String) (json : Bool) {config : Config} {name? : Option String}
    {first : NamedCheck} {rest : List NamedCheck}
    (selected : config.selected name? = first :: rest) :
    carryOutChecks terminal files config configPath checkedAt name? json =
      .ok (carryOutAll terminal files configPath checkedAt json (first :: rest)) := by
  unfold carryOutChecks Config.select
  cases name? with
  | none =>
    have checks : config.checks = first :: rest := selected
    rw [checks]
    rfl
  | some name =>
    rw [selected]
    rfl

/-- **The selected checks pass together exactly when all that is asked for holds.** -/
theorem carryOutChecks_passed_iff (terminal : Terminal) (files : Files) (config : Config)
    (configPath checkedAt : String) (name? : Option String) (json : Bool) :
    (∃ shown, carryOutChecks terminal files config configPath checkedAt name? json = .ok shown ∧
      shown.value) ↔ config.AllHold files configPath name? := by
  rw [allHold_iff]
  cases selected : config.selected name? with
  | nil =>
    unfold carryOutChecks Config.select
    cases name? with
    | none =>
      have unchecked : config.checks = [] := selected
      simp [unchecked, bind, Except.bind, pure, Except.pure]
    | some name =>
      simp [selected, bind, Except.bind]
  | cons first rest =>
    rw [carryOutChecks_of_selected terminal files configPath checkedAt json selected]
    simp [carryOutAll_value]

/-! ### The exit code -/

/-- A configuration with errors is not used. -/
theorem runCheck_code_of_errors (situation : Situation) (path : String) (name? : Option String)
    (json : Bool) {prepared : Prepared} (errors : prepared.findings.errors ≠ []) :
    (runCheck situation path name? json prepared).code = 2 := by
  have invalid : prepared.findings.isValid = false := by
    unfold Findings.isValid
    simpa using errors
  unfold runCheck runValidateConfig
  simp [invalid, Outcome.code]

/-- A configuration without errors is used, and the code tells whether all that is asked holds. -/
theorem runCheck_code_of_no_errors (situation : Situation) (path : String)
    (name? : Option String) (json : Bool) {prepared : Prepared}
    (clear : prepared.findings.errors = []) :
    (prepared.config.AllHold situation.files path name? →
      (runCheck situation path name? json prepared).code = 0) ∧
    (¬ prepared.config.AllHold situation.files path name? →
      (runCheck situation path name? json prepared).code = 1) := by
  have valid : prepared.findings.isValid = true := by
    unfold Findings.isValid
    simpa using clear
  have passed := carryOutChecks_passed_iff situation.terminal situation.files prepared.config path
    situation.time name? json
  unfold runCheck
  simp only [valid, if_true]
  rw [← passed]
  cases carryOutChecks situation.terminal situation.files prepared.config path situation.time name?
    json with
  | error failure => simp [Transcript.ofFailure]
  | ok shown => cases told : shown.value <;> simp [told, Outcome.ofPassed, Outcome.code]

/-- What becomes of the configuration that a command line names. -/
def CommandLine.prepared (situation : Situation) (line : CommandLine) :
    Except Failure Prepared :=
  (Config.prepare situation.files situation.environment
    (line.configPath situation)).value

/-- **A run of `check` exits with 2 exactly when the configuration cannot be prepared or has errors.
Otherwise it exits with 0 exactly when all that is asked for holds, and with 1 exactly when it does
not.** -/
theorem exit_code_says_what_holds (situation : Situation) (config? name? : Option String)
    (json : Bool) :
    let line : CommandLine := { config?, command := .check name? json }
    let path :=
      config?.getD (configPath (configDirectory situation.environment situation.accountHome?))
    let outcome := (Config.prepare situation.files situation.environment path).value
    ((run situation line).code = 2 ↔
      (∃ failure, outcome = .error failure) ∨
        ∃ prepared, outcome = .ok prepared ∧ prepared.findings.errors ≠ []) ∧
    ((run situation line).code = 0 ↔
      ∃ prepared, outcome = .ok prepared ∧ prepared.findings.errors = [] ∧
        prepared.config.AllHold situation.files path name?) ∧
    ((run situation line).code = 1 ↔
      ∃ prepared, outcome = .ok prepared ∧ prepared.findings.errors = [] ∧
        ¬ prepared.config.AllHold situation.files path name?) := by
  intro line path outcome
  have same : line.prepared situation = outcome := rfl
  rw [← same]
  cases found : line.prepared situation with
  | error failure =>
    have unusable : (run situation line).code = 2 := by
      unfold CommandLine.prepared at found
      simp only [run, line, found]
      rfl
    simp [unusable]
  | ok prepared =>
    have used : run situation line = runCheck situation path name? json prepared := by
      unfold CommandLine.prepared at found
      simp only [run, line, found]
      rfl
    rw [used]
    simp only [reduceCtorEq, exists_false, false_or, Except.ok.injEq, exists_eq_left']
    by_cases clear : prepared.findings.errors = []
    · obtain ⟨zero, one⟩ := runCheck_code_of_no_errors situation path name? json clear
      by_cases held : prepared.config.AllHold situation.files path name?
      · simp [clear, held, zero held]
      · simp [clear, held, one held]
    · simp [clear, runCheck_code_of_errors situation path name? json clear]

/-! ### A configuration in a directory -/

/-- Two checks, the snapshot of one beside the configuration and that of the other elsewhere. -/
def confConfig : Config where
  checks :=
    [{ name := "vault", scope := "/", snapshot := "vault.json"
       requirement := { actions := ["Vault/read"] } },
      { name := "moved", scope := "/", snapshot := "/srv/vault.json"
        requirement := { dataActions := ["Vault/get"] } }]

/-- The role of the one snapshot that is there. -/
def confSnapshot : Snapshot where
  roleAssignments := [
    { permissions := some [
        { actions := some ["Vault/*"], notActions := some [], dataActions := some []
          notDataActions := some [] }] }]

/-- The directory has the configuration and the snapshot beside it. In the directory of the run lies
a snapshot of the same name, which grants nothing. -/
def confSituation : Situation where
  environment := .ofList []
  files := .ofReadings
    [("conf/permcheck.yaml", .ok <|
        "checks:\n" ++
        "- name: vault\n  snapshot: vault.json\n  actions: [Vault/read]\n" ++
        "- name: moved\n  snapshot: /srv/vault.json\n  dataActions: [Vault/get]\n"),
      ("conf/vault.json", .ok "[[[null, null, null, [[[\"Vault/*\"], [], [], []]]]]]"),
      ("vault.json", .ok "[[]]"), ("conf", .error .isDirectory)] [] ["conf"]
  time := "2024-05-01T00:00:00Z"

/-- The check with its snapshot beside the configuration passes; with the other one, whose snapshot
is not where its absolute path leads, the run fails. A directory is no configuration. -/
theorem conf_decides_exit_code :
    let ask (config : String) (name? : Option String) : CommandLine :=
      { config? := some config, command := .check name? false }
    FilePath.SeenFrom "conf/permcheck.yaml" "vault.json" "conf/vault.json" ∧
    FilePath.SeenFrom "conf/permcheck.yaml" "/srv/vault.json" "/srv/vault.json" ∧
    (run confSituation (ask "conf/permcheck.yaml" (some "vault"))).code = 0 ∧
    (run confSituation (ask "conf/permcheck.yaml" none)).code = 1 ∧
    (run confSituation (ask "conf" none)).code = 2 := by
  intro ask
  have beside : FilePath.SeenFrom "conf/permcheck.yaml" "vault.json" "conf/vault.json" :=
    (seenFrom_iff _ _ _).mpr (by decide)
  have absolute : FilePath.SeenFrom "conf/permcheck.yaml" "/srv/vault.json" "/srv/vault.json" :=
    .absolute "srv/vault.json"
  have usable : (Config.prepare confSituation.files confSituation.environment
      "conf/permcheck.yaml").value = .ok confConfig.prepared := by decide +kernel
  have clear : confConfig.prepared.findings.errors = [] := by decide +kernel
  have checks : confConfig.prepared.config.checks = confConfig.checks := by decide +kernel
  obtain ⟨-, zero, -⟩ := exit_code_says_what_holds confSituation (some "conf/permcheck.yaml")
    (some "vault") false
  obtain ⟨-, -, one⟩ := exit_code_says_what_holds confSituation (some "conf/permcheck.yaml")
    none false
  obtain ⟨two, -, -⟩ := exit_code_says_what_holds confSituation (some "conf") none false
  refine ⟨beside, absolute, ?_, ?_, ?_⟩
  · refine zero.mpr ⟨_, usable, clear, .inr ⟨?_, fun named member selected => ?_⟩⟩
    · rw [checks]
      exact ⟨_, List.mem_cons_self, by rintro _ ⟨⟩; rfl⟩
    · rw [checks] at member
      rcases List.mem_cons.mp member with rfl | other
      · have accepted := (defects_eq_nil_iff_acceptable { actions := ["Vault/read"] }
          confSnapshot).mp (by decide +kernel)
        exact ⟨_, _, confSnapshot, beside, rfl, by decide +kernel, accepted, by decide, nofun⟩
      · obtain rfl := List.mem_singleton.mp other
        exact absurd (selected "vault" rfl) (by decide)
  · refine one.mpr ⟨_, usable, clear, ?_⟩
    rintro (⟨-, empty⟩ | ⟨-, each⟩)
    · rw [checks] at empty
      cases empty
    · have moved : confConfig.checks[1] ∈ confConfig.prepared.config.checks := by
        rw [checks]
        decide
      obtain ⟨place, text, _, seen, read, _⟩ := each _ moved nofun
      rw [(seenFrom_iff _ _ _).mp seen] at read
      cases read
  · exact two.mpr (.inl ⟨_, rfl⟩)

end AccessAudit
