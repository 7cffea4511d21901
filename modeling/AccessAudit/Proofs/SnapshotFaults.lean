/-
**A valid configuration leaves only the snapshot to fail.**

What is required is looked at twice: when the configuration is validated, where a blank action is an
error and so is a wildcard, and again before a check is carried out, where an empty action is an
error and so is a wildcard. The second look never finds what the first one has let through. So of a
valid configuration a check that could not be carried out has failed by its snapshot: the file could
not be read, it held no snapshot, a record lacked a field, or a pattern of a record was malformed.
The other way round, whatever the second look would find is told as an error of the configuration,
at the place of the action.

* `Snapshot.Fault`, `SnapshotFault`: what can be wrong with a snapshot and with its file;
* `mem_errors_of_checkCandidate`: the first look finds what the second one would;
* `fault_of_check`: with concrete actions only the snapshot can be at fault;
* `carryOut_of_concrete`: the report of a check with concrete actions;
* `valid_config_fails_by_snapshot_alone`: both directions together.
-/
import AccessAudit.Config.Findings
import AccessAudit.Proofs.ExitCode

namespace AccessAudit

/-! ### What can be wrong with a snapshot -/

/-- A record of the snapshot holds the text in the list that an origin names. No record holds
required actions. -/
def Snapshot.Lists (snapshot : Snapshot) (domain : Domain) (pattern : String) : Origin → Prop
  | .candidateAction => False
  | .grantAction => ∃ assignment ∈ snapshot.roleAssignments, ∃ block ∈ assignment.blocks,
      pattern ∈ (block.coverage domain).actions
  | .grantException => ∃ assignment ∈ snapshot.roleAssignments, ∃ block ∈ assignment.blocks,
      pattern ∈ (block.coverage domain).exceptions
  | .denialAction => ∃ assignment ∈ snapshot.denyAssignments, ∃ block ∈ assignment.blocks,
      pattern ∈ (block.coverage domain).actions
  | .denialException => ∃ assignment ∈ snapshot.denyAssignments, ∃ block ∈ assignment.blocks,
      pattern ∈ (block.coverage domain).exceptions

/-- A record of the snapshot lacks a field, or one of its patterns is malformed. -/
inductive Snapshot.Fault (snapshot : Snapshot) : CheckError → Prop
  | incomplete {domain : Domain} {gap : Gap}
      (lacking : gap ∈ roleGaps domain snapshot.roleAssignments ++
        denyGaps domain snapshot.denyAssignments) :
      Fault snapshot (.incomplete gap)
  | malformed {domain : Domain} {origin : Origin} {pattern : String} {error : TokenError}
      (listed : snapshot.Lists domain pattern origin)
      (wrong : error ∈ patternDefects origin pattern) :
      Fault snapshot (.malformed error)

/-- What is wrong with the file at a path, as a failure tells it. -/
inductive SnapshotFault (files : Files) (path : String) : Failure → Prop
  | unreadable {error : FileError} (unread : files.read path = .error error) :
      SnapshotFault files path
        { account := "Failed to read rule snapshot: " ++ path, causes := [error.message] }
  | undecodable {text : String} (read : files.read path = .ok text)
      (undecoded : Snapshot.parse? text = none) :
      SnapshotFault files path
        { account := "Failed to parse rule snapshot JSON: " ++ path
          causes := ["the text is not a snapshot"] }
  | faulty {snapshot : Snapshot} {error : CheckError}
      (held : readSnapshot files path = .ok snapshot) (fault : snapshot.Fault error) :
      SnapshotFault files path error.failure

/-! ### With concrete actions only the snapshot can be at fault -/

section Fault

variable {snapshot : Snapshot} {domain : Domain} {requirement : Requirement}

theorem mem_coverage_defects_iff {ofPatterns ofExceptions : Origin} {coverage : Coverage}
    {error : TokenError} :
    error ∈ coverage.defects ofPatterns ofExceptions ↔
      (∃ pattern ∈ coverage.actions, error ∈ patternDefects ofPatterns pattern) ∨
        ∃ pattern ∈ coverage.exceptions, error ∈ patternDefects ofExceptions pattern := by
  unfold Coverage.defects
  rw [List.mem_append, List.mem_flatMap, List.mem_flatMap]

/-- What is malformed in a batch of concrete actions stands in some record. -/
theorem exists_listed_of_mem_defects {candidates : List String} {error : TokenError}
    (concrete : ∀ action ∈ candidates, IsConcrete action)
    (defect : error ∈ (snapshot.rulesIn domain).defects candidates) :
    ∃ origin pattern, snapshot.Lists domain pattern origin ∧
      error ∈ patternDefects origin pattern := by
  have clean : candidates.flatMap candidateDefects = [] :=
    List.flatMap_eq_nil_iff.mpr fun action member =>
      (candidateDefects_eq_nil_iff action).mpr (concrete action member)
  unfold RuleSet.defects at defect
  rw [clean, List.nil_append, List.mem_append, List.mem_flatMap, List.mem_flatMap] at defect
  rcases defect with ⟨grant, granting, wrong⟩ | ⟨denial, denying, wrong⟩
  · obtain ⟨assignment, held, inside⟩ := List.mem_flatMap.mp granting
    obtain ⟨block, permitted, rfl⟩ := List.mem_map.mp inside
    rcases mem_coverage_defects_iff.mp wrong with ⟨pattern, listed, bad⟩ | ⟨pattern, listed, bad⟩
    · exact ⟨.grantAction, pattern, ⟨assignment, held, block, permitted, listed⟩, bad⟩
    · exact ⟨.grantException, pattern, ⟨assignment, held, block, permitted, listed⟩, bad⟩
  · obtain ⟨assignment, held, inside⟩ := List.mem_flatMap.mp denying
    obtain ⟨block, permitted, rfl⟩ := List.mem_map.mp inside
    rcases mem_coverage_defects_iff.mp wrong with ⟨pattern, listed, bad⟩ | ⟨pattern, listed, bad⟩
    · exact ⟨.denialAction, pattern, ⟨assignment, held, block, permitted, listed⟩, bad⟩
    · exact ⟨.denialException, pattern, ⟨assignment, held, block, permitted, listed⟩, bad⟩

/-- What is wrong in a domain where the required actions are concrete is wrong with the snapshot. -/
theorem fault_of_mem_defectsIn {error : CheckError}
    (concrete : ∀ action ∈ requirement.inDomain domain, IsConcrete action)
    (defect : error ∈ defectsIn domain requirement snapshot) : snapshot.Fault error := by
  unfold defectsIn at defect
  rw [← List.map_append] at defect
  rcases List.mem_append.mp defect with lacking | malformed
  · obtain ⟨gap, inside, rfl⟩ := List.mem_map.mp lacking
    exact .incomplete inside
  · obtain ⟨token, inside, rfl⟩ := List.mem_map.mp malformed
    obtain ⟨origin, pattern, listed, wrong⟩ := exists_listed_of_mem_defects concrete inside
    exact .malformed listed wrong

/-- **A check whose required actions are concrete fails by the snapshot alone.** -/
theorem fault_of_check {error : CheckError}
    (concrete : ∀ domain, ∀ action ∈ requirement.inDomain domain, IsConcrete action)
    (failed : (check requirement snapshot).value = .error error) : snapshot.Fault error := by
  rw [check_value_eq_settled, settled_eq_error_iff] at failed
  rcases List.mem_append.mp (List.mem_of_head? failed) with control | data
  · exact fault_of_mem_defectsIn (concrete .control) control
  · exact fault_of_mem_defectsIn (concrete .data) data

/-- The fault of a snapshot is never about a required action. -/
theorem not_isOfCandidate_of_fault {error : TokenError}
    (fault : snapshot.Fault (.malformed error)) : ¬ error.IsOfCandidate := by
  cases fault with
  | @malformed domain origin pattern _ listed wrong =>
    have elsewhere : origin ≠ .candidateAction := by
      rintro rfl
      exact listed
    exact not_isOfCandidate_of_mem_patternDefects elsewhere wrong

end Fault

/-! ### The report of a check with concrete actions -/

/-- How the only failure of a check begins that could not be carried out. -/
def brokenMark : String := "Check could not run: "

/-- The report tells that the check could not be carried out. -/
def Report.IsBroken (report : Report) : Prop :=
  ∃ failure ∈ report.failures, brokenMark.toList <+: failure.toList

/-- Every failure of a verdict begins with the name of its domain. -/
theorem exists_label_of_mem_failures {domain : Domain} {verdict : Verdict} {failure : String}
    (member : failure ∈ verdict.failures domain) :
    ∃ rest, failure = domain.label ++ (" " ++ rest) := by
  unfold Verdict.failures at member
  rcases List.mem_append.mp member with denied | unpermitted
  · obtain ⟨⟨action, id⟩, _, rfl⟩ := List.mem_map.mp denied
    refine ⟨action ++ (" denied by deny assignment " ++ (id ++ ".")), ?_⟩
    simp only [deniedMessage, String.append_assoc]
  · obtain ⟨action, _, rfl⟩ := List.mem_map.mp unpermitted
    refine ⟨action ++ " unpermitted because no role assignment permits it.", ?_⟩
    simp only [unpermittedMessage, String.append_assoc]

/-- A report of a check that was carried out is not broken. -/
theorem not_isBroken_ofCheck (name scope checkedAt : String) (outcome : PermissionCheck) :
    ¬ (Report.ofCheck name scope checkedAt outcome).IsBroken := by
  have unmarked : ∀ domain verdict, ∀ failure ∈ Verdict.failures domain verdict,
      ¬ brokenMark.toList <+: failure.toList := by
    intro domain verdict failure member marked
    obtain ⟨rest, rfl⟩ := exists_label_of_mem_failures member
    rw [String.toList_append] at marked
    cases domain <;> exact absurd (List.cons_prefix_cons.mp marked).1 (by decide)
  rintro ⟨failure, member, marked⟩
  rcases List.mem_append.mp member with control | data
  · exact unmarked .control outcome.control failure control marked
  · exact unmarked .data outcome.data failure data marked

theorem isBroken_errored (name scope checkedAt : String) (failure : Failure) :
    (Report.errored name scope checkedAt failure).IsBroken := by
  refine ⟨brokenMark ++ failure.full, List.mem_singleton.mpr rfl, ?_⟩
  rw [String.toList_append]
  exact List.prefix_append _ _

section Carried

variable {files : Files} {configPath checkedAt : String} {named : NamedCheck}

/-- A snapshot is not read because its file cannot be read or holds none. -/
theorem snapshotFault_of_readSnapshot {path : String} {failure : Failure}
    (unread : readSnapshot files path = .error failure) : SnapshotFault files path failure := by
  unfold readSnapshot at unread
  cases read : files.read path with
  | error error =>
    simp only [read, Except.error.injEq] at unread
    exact unread ▸ .unreadable read
  | ok text =>
    simp only [read] at unread
    cases parsed : Snapshot.parse? text with
    | some snapshot => simp [parsed] at unread
    | none =>
      simp only [parsed, Except.error.injEq] at unread
      exact unread ▸ .undecodable read parsed

/-- **A check whose required actions are concrete is carried out, or its file is at fault.** -/
theorem carryOut_of_concrete
    (concrete : ∀ domain, ∀ action ∈ named.requirement.inDomain domain, IsConcrete action) :
    (∃ outcome, (named.carryOut files configPath checkedAt).value =
        Report.ofCheck named.name named.scope checkedAt outcome) ∨
      ∃ failure, SnapshotFault files (snapshotPath configPath named.snapshot) failure ∧
        (named.carryOut files configPath checkedAt).value =
          Report.errored named.name named.scope checkedAt failure := by
  unfold NamedCheck.carryOut audit Source.file
  cases held : readSnapshot files (snapshotPath configPath named.snapshot) with
  | error failure => exact .inr ⟨failure, snapshotFault_of_readSnapshot held, rfl⟩
  | ok snapshot =>
    simp only
    cases checked : (check named.requirement snapshot).value with
    | ok outcome => exact .inl ⟨outcome, rfl⟩
    | error error =>
      exact .inr ⟨error.failure, .faulty held (fault_of_check concrete checked), rfl⟩

/-- A report is broken exactly when the file is at fault. -/
theorem isBroken_carryOut_iff
    (concrete : ∀ domain, ∀ action ∈ named.requirement.inDomain domain, IsConcrete action) :
    (named.carryOut files configPath checkedAt).value.IsBroken ↔
      ∃ failure, SnapshotFault files (snapshotPath configPath named.snapshot) failure ∧
        (named.carryOut files configPath checkedAt).value =
          Report.errored named.name named.scope checkedAt failure := by
  constructor
  · intro broken
    rcases @carryOut_of_concrete files configPath checkedAt named concrete with
      ⟨outcome, report⟩ | fault
    · rw [report] at broken
      exact absurd broken (not_isBroken_ofCheck _ _ _ outcome)
    · exact fault
  · rintro ⟨failure, _, report⟩
    rw [report]
    exact isBroken_errored _ _ _ failure

end Carried

/-! ### What validation tells of required actions -/

/-- The words of validation for a malformed action. -/
def malformedActionMessage (action : String) : String :=
  if action = "" then "Required action cannot be empty"
  else "Required action '" ++ action ++ "' must not contain a wildcard"

/-- A text with a wildcard is not blank. -/
theorem isBlankText_eq_false_of_hasWildcard {text : String} (starred : Pattern.hasWildcard text) :
    Text.isBlankText text = false := by
  have member : '*' ∈ text.toList := List.contains_iff_mem.mp starred
  unfold Text.isBlankText
  exact List.all_eq_false.mpr ⟨'*', member, by decide⟩

/-- Where an action is refused before a check, validation has an error for it. -/
theorem mem_actionErrors_of_checkCandidate {action : String} {error : TokenError}
    (refused : checkCandidate action = .error error) (path : String) :
    { path, message := malformedActionMessage action } ∈ actionErrors path action := by
  unfold actionErrors malformedActionMessage
  by_cases empty : action = ""
  · subst empty
    exact List.mem_singleton.mpr rfl
  · have starred : Pattern.hasWildcard action = true := by
      by_contra concrete
      unfold checkCandidate at refused
      simp [empty, concrete] at refused
    rw [isBlankText_eq_false_of_hasWildcard starred, if_neg (by decide), if_pos starred,
      if_neg empty]
    exact List.mem_singleton.mpr rfl

/-- The place of a check in a configuration. -/
def checkPath (index : Nat) : String :=
  "checks[" ++ toString index ++ "]"

/-- The place of a required action in a configuration. -/
def actionPath (index : Nat) (domain : Domain) (position : Nat) : String :=
  match domain with
  | .control => "checks[" ++ toString index ++ "].actions[" ++ toString position ++ "]"
  | .data => "checks[" ++ toString index ++ "].dataActions[" ++ toString position ++ "]"

theorem indexed_checks (index : Nat) : indexed "checks" index = checkPath index :=
  String.toList_injective (by simp [indexed, checkPath])

theorem indexed_actions (index : Nat) (domain : Domain) (position : Nat) :
    indexed (checkPath index ++ "." ++ domain.actionsField) position =
      actionPath index domain position := by
  cases domain with
  | control =>
    exact String.toList_injective (by simp [indexed, checkPath, actionPath, Domain.actionsField])
  | data =>
    exact String.toList_injective (by simp [indexed, checkPath, actionPath, Domain.actionsField])

section Validated

variable {config : Config} {named : NamedCheck} {index position : Nat} {domain : Domain}

theorem requiredErrors_subset_checkErrors (path : String) (earlier : List NamedCheck)
    (named : NamedCheck) (domain : Domain) :
    requiredErrors (path ++ "." ++ domain.actionsField) (named.requirement.inDomain domain) ⊆
      checkErrors path earlier named := by
  unfold checkErrors
  rw [String.append_assoc]
  cases domain with
  | control => exact List.Subset.trans (List.subset_append_right _ _) (List.subset_append_left _ _)
  | data => exact List.subset_append_right _ _

/-- **A required action that is refused before a check is an error of the configuration, at the
place of the action.** -/
theorem mem_errors_of_checkCandidate {action : String} {error : TokenError}
    (checked : config.checks[index]? = some named)
    (required : (named.requirement.inDomain domain)[position]? = some action)
    (refused : checkCandidate action = .error error) :
    { path := actionPath index domain position, message := malformedActionMessage action } ∈
      (findings config).errors := by
  have ofAction : { path := actionPath index domain position
                    message := malformedActionMessage action } ∈
      requiredErrors (checkPath index ++ "." ++ domain.actionsField)
        (named.requirement.inDomain domain) := by
    rw [← indexed_actions]
    exact List.mem_flatMap.mpr ⟨(action, position), List.mem_zipIdx_iff_getElem?.mpr required,
      mem_actionErrors_of_checkCandidate refused _⟩
  have ofCheck := requiredErrors_subset_checkErrors (checkPath index)
    (config.checks.take index) named domain ofAction
  rw [← indexed_checks] at ofCheck
  exact List.mem_append_right _
    (List.mem_flatMap.mpr ⟨(named, index), List.mem_zipIdx_iff_getElem?.mpr checked, ofCheck⟩)

/-- A valid configuration requires concrete actions alone. -/
theorem concrete_of_isValid (valid : (findings config).isValid) (member : named ∈ config.checks) :
    ∀ domain, ∀ action ∈ named.requirement.inDomain domain, IsConcrete action := by
  intro domain action required
  rw [← candidateDefects_eq_nil_iff]
  obtain ⟨index, checked⟩ := List.mem_iff_getElem?.mp member
  obtain ⟨position, placed⟩ := List.mem_iff_getElem?.mp required
  cases refused : checkCandidate action with
  | ok =>
    rw [checkCandidate_eq_settled, settled_eq_ok_iff] at refused
    exact refused.1
  | error error =>
    have told := mem_errors_of_checkCandidate checked placed refused
    rw [List.isEmpty_iff.mp valid] at told
    exact absurd told List.not_mem_nil

end Validated

/-- **Of a valid configuration no check fails by a required action, on whatever snapshot: a report
tells that a check could not be carried out exactly when the file of its snapshot is at fault. And a
required action that would be refused before a check is an error of the configuration, under the
index of its check and its own.** -/
theorem valid_config_fails_by_snapshot_alone (config : Config) :
    ((findings config).isValid → ∀ named ∈ config.checks,
      (∀ snapshot error, (check named.requirement snapshot).value = .error (.malformed error) →
        ¬ error.IsOfCandidate) ∧
      ∀ files configPath checkedAt,
        let report := (named.carryOut files configPath checkedAt).value
        (report.IsBroken ↔ ∃ failure,
          SnapshotFault files (snapshotPath configPath named.snapshot) failure ∧
            report = Report.errored named.name named.scope checkedAt failure)) ∧
    ∀ index named domain position action error, config.checks[index]? = some named →
      (named.requirement.inDomain domain)[position]? = some action →
      checkCandidate action = .error error →
      { path := actionPath index domain position, message := malformedActionMessage action } ∈
        (findings config).errors := by
  refine ⟨fun valid named member => ?_, fun index named domain position action error => ?_⟩
  · have concrete := concrete_of_isValid valid member
    refine ⟨fun snapshot error failed => ?_, fun files configPath checkedAt => ?_⟩
    · exact not_isOfCandidate_of_fault (fault_of_check concrete failed)
    · exact isBroken_carryOut_iff concrete
  · exact mem_errors_of_checkCandidate

/-! ### A snapshot at fault and an action at fault -/

/-- A check of the vault that requires these actions. -/
def vaultCheck (actions : List String) : NamedCheck where
  name := "vault"
  scope := "/"
  snapshot := "vault.json"
  requirement := { actions }

/-- A file with one role, the fields in order, whose one pattern is empty. -/
def emptyPatternFiles : Files :=
  .ofReadings [("vault.json", .ok "[[[null, null, null, [[[\"\"], [], [], []]]]]]")] []

/-- What the report on the vault tells of the pattern. -/
def emptyPatternFailure : Failure :=
  CheckError.failure (.malformed (.empty .grantAction))

/-- The pattern of the role breaks the report of a valid configuration, and a wildcard among the
required actions is an error of the configuration that requires it. -/
theorem vault_check_fails_by_snapshot_alone :
    let report := ((vaultCheck ["Vault/read"]).carryOut emptyPatternFiles "permcheck.yaml" "").value
    report = Report.errored "vault" "/" "" emptyPatternFailure ∧
    (∃ failure, SnapshotFault emptyPatternFiles "vault.json" failure ∧
      report = Report.errored "vault" "/" "" failure) ∧
    { path := "checks[0].actions[1]"
      message := "Required action 'Vault/*' must not contain a wildcard" } ∈
      (findings { checks := [vaultCheck ["Vault/read", "Vault/*"]] }).errors := by
  intro report
  obtain ⟨sound, _⟩ :=
    valid_config_fails_by_snapshot_alone { checks := [vaultCheck ["Vault/read"]] }
  obtain ⟨_, complete⟩ :=
    valid_config_fails_by_snapshot_alone { checks := [vaultCheck ["Vault/read", "Vault/*"]] }
  have valid : (findings { checks := [vaultCheck ["Vault/read"]] }).isValid := by decide +kernel
  have told : report = Report.errored "vault" "/" "" emptyPatternFailure := by decide +kernel
  have marked : report.IsBroken := told ▸ isBroken_errored ..
  obtain ⟨_, broken⟩ := sound valid _ (List.mem_singleton.mpr rfl)
  exact ⟨told, (broken emptyPatternFiles "permcheck.yaml" "").mp marked,
    complete 0 _ .control 1 _ (.wildcardInCandidate "Vault/*") rfl rfl (by decide)⟩

end AccessAudit
