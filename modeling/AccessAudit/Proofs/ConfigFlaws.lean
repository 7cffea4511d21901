/-
**Every flaw of a configuration, once and in order.**

A flaw of a configuration has a place: the level of the log, the name or the snapshot of a check, or
one of the actions that a check requires. Places have an order, which is that of the fields: the
level, then check after check, and in a check its name, its snapshot, its actions and its data
actions. A place has one flaw at most, since a blank name is not told as a repetition and a blank
action not as one with a wildcard. Validation tells exactly the flaws that the configuration has,
each once, in the order of their places, so a configuration is valid exactly when it has none.

A name is a repetition when an earlier check has it. However often names are repeated, of all that
are not blank each distinct one is told of once less than it stands there.

* `Flaw`, `Flaw.number`, `Flaw.finding`: flaws, their places, and how they are told;
* `Config.Has`: the flaws of a configuration, `Config.IsSound`: it has none;
* `flaws_outlines`, `errors_eq_map_finding`: the errors are the flaws in order;
* `countP_tellsRepeat_add_card`: how many errors tell of repeated names;
* `Doubt`, `Config.Raises`, `doubts_outlines`: the same for warnings;
* `IsLowering`, `isKnownLevel_iff_of_isLowering`: the case of a level matters in no script;
* `validation_tells_every_flaw`: all that validation tells.
-/
import AccessAudit.Proofs.Outline
import AccessAudit.Proofs.SnapshotFaults
import Mathlib.Data.Finset.Card

namespace AccessAudit

/-! ### Flaws -/

/-- Something that makes a configuration unusable, with its place. -/
inductive Flaw where
  | unknownLevel (level : String)
  | blankName (check : Nat)
  | repeatedName (check : Nat) (name : String)
  | blankSnapshot (check : Nat)
  | blankAction (check : Nat) (domain : Domain) (position : Nat)
  | starredAction (check : Nat) (domain : Domain) (position : Nat) (action : String)
  deriving DecidableEq, Repr

namespace Flaw

/-- The number of the list of a domain in the outline of a check. -/
def listNumber : Domain → Nat
  | .control => 2
  | .data => 3

/-- The number of the place of a flaw in the outline of a configuration. -/
def number : Flaw → List Nat
  | unknownLevel _ => [0]
  | blankName check => [1, check, 0]
  | repeatedName check _ => [1, check, 0]
  | blankSnapshot check => [1, check, 1]
  | blankAction check domain position => [1, check, listNumber domain, position]
  | starredAction check domain position _ => [1, check, listNumber domain, position]

/-- How a flaw is told. -/
def finding : Flaw → Finding
  | unknownLevel level =>
    { path := "logging.level"
      message := "Unknown log level '" ++ level ++ "'. Use one of: " ++
        "trace, debug, info, warn, error" }
  | blankName check =>
    { path := "checks[" ++ toString check ++ "].name", message := "Check name cannot be empty" }
  | repeatedName check name =>
    { path := "checks[" ++ toString check ++ "].name"
      message := "Duplicate check name '" ++ name ++ "'" }
  | blankSnapshot check =>
    { path := "checks[" ++ toString check ++ "].snapshot"
      message := "Snapshot path cannot be empty" }
  | blankAction check domain position =>
    { path := actionPath check domain position, message := "Required action cannot be empty" }
  | starredAction check domain position action =>
    { path := actionPath check domain position
      message := "Required action '" ++ action ++ "' must not contain a wildcard" }

end Flaw

namespace Config

/-- The level that the configuration asks for. -/
def level? (config : Config) : Option String :=
  config.logging.bind Logging.level

/-- The name of the check with this index. -/
def name? (config : Config) (check : Nat) : Option String :=
  config.checks[check]?.map NamedCheck.name

/-- The action at a position among those that the check with this index requires. -/
def action? (config : Config) (check : Nat) (domain : Domain) (position : Nat) : Option String :=
  config.checks[check]?.bind fun named => (named.requirement.inDomain domain)[position]?

/-- The configuration has a flaw, as its level is put in lower case. -/
def Has (config : Config) (lower : String → String) : Flaw → Prop
  | .unknownLevel level => config.level? = some level ∧
      lower level ∉ ["trace", "debug", "info", "warn", "error"]
  | .blankName check => ∃ name, config.name? check = some name ∧ Text.isBlankText name
  | .repeatedName check name => config.name? check = some name ∧ ¬ Text.isBlankText name ∧
      ∃ earlier < check, config.name? earlier = some name
  | .blankSnapshot check =>
      ∃ named, config.checks[check]? = some named ∧ Text.isBlankText named.snapshot
  | .blankAction check domain position =>
      ∃ action, config.action? check domain position = some action ∧ Text.isBlankText action
  | .starredAction check domain position action =>
      config.action? check domain position = some action ∧ '*' ∈ action.toList

/-- The configuration can be used. -/
structure IsSound (config : Config) (lower : String → String) : Prop where
  level : ∀ level, config.level? = some level →
    lower level ∈ ["trace", "debug", "info", "warn", "error"]
  named : ∀ named ∈ config.checks, ¬ Text.isBlankText named.name
  distinct : (config.checks.map NamedCheck.name).Nodup
  snapshots : ∀ named ∈ config.checks, ¬ Text.isBlankText named.snapshot
  required : ∀ named ∈ config.checks, ∀ domain, ∀ action ∈ named.requirement.inDomain domain,
    ¬ Text.isBlankText action ∧ '*' ∉ action.toList

theorem name?_eq_some_iff {config : Config} {check : Nat} {name : String} :
    config.name? check = some name ↔
      ∃ named, config.checks[check]? = some named ∧ named.name = name :=
  Option.map_eq_some_iff

theorem action?_eq_some_iff {config : Config} {check position : Nat} {domain : Domain}
    {action : String} :
    config.action? check domain position = some action ↔
      ∃ named, config.checks[check]? = some named ∧
        (named.requirement.inDomain domain)[position]? = some action :=
  Option.bind_eq_some_iff

end Config

/-! ### The flaws of a configuration, in order -/

/-- The flaw of the level. -/
def levelFlaws (config : Config) : List Flaw :=
  match config.level? with
  | none => []
  | some level => if ¬ isKnownLevel level then [.unknownLevel level] else []

/-- The flaws of a required action. -/
def actionFlaws (check : Nat) (domain : Domain) (position : Nat) (action : String) : List Flaw :=
  (if Text.isBlankText action then [.blankAction check domain position] else []) ++
    if '*' ∈ action.toList then [.starredAction check domain position action] else []

/-- The flaws of a name, and of the snapshot. -/
def ownFlaws (earlier : List NamedCheck) (named : NamedCheck) (check : Nat) : List Flaw :=
  (if Text.isBlankText named.name then [.blankName check] else []) ++
    (if ¬ Text.isBlankText named.name ∧ named.name ∈ earlier.map NamedCheck.name then
      [.repeatedName check named.name] else []) ++
    if Text.isBlankText named.snapshot then [.blankSnapshot check] else []

/-- The flaws of the actions that a check requires in a domain. -/
def requiredFlaws (named : NamedCheck) (check : Nat) (domain : Domain) : List Flaw :=
  (named.requirement.inDomain domain).zipIdx.flatMap fun pair =>
    actionFlaws check domain pair.2 pair.1

/-- The flaws of a check behind earlier ones. -/
def checkFlaws (earlier : List NamedCheck) (named : NamedCheck) (check : Nat) : List Flaw :=
  ownFlaws earlier named check ++ requiredFlaws named check .control ++
    requiredFlaws named check .data

/-- The flaws of all checks. -/
def checksFlaws (checks : List NamedCheck) : List Flaw :=
  checks.zipIdx.flatMap fun pair => checkFlaws (checks.take pair.2) pair.1 pair.2

/-! ### Lower case -/

/-- What is put in lower case as the scripts of the world have it. A text of ASCII is put in lower
case letter by letter. In any other text there is a character that ASCII does not have, and in lower
case it is still there, or it has become a `k`, which is what the sign for Kelvin becomes. -/
structure IsLowering (lower : String → String) : Prop where
  ascii : ∀ text, (∀ c ∈ text.toList, c.toNat < 128) → lower text = text.map Char.toLower
  beyond : ∀ text, (∃ c ∈ text.toList, 128 ≤ c.toNat) →
    ∃ c ∈ (lower text).toList, c = 'k' ∨ 128 ≤ c.toNat

/-- The names of the levels are ASCII, and have no `k`. -/
theorem not_mem_levelNames {level : String} {c : Char} (inside : c ∈ level.toList)
    (foreign : c = 'k' ∨ 128 ≤ c.toNat) : level ∉ levelNames := by
  have plain : levelNames.all fun name => name.toList.all fun c => c ≠ 'k' ∧ c.toNat < 128 := by
    decide
  simp only [List.all_eq_true, decide_eq_true_eq] at plain
  intro member
  obtain ⟨other, small⟩ := plain level member c inside
  rcases foreign with same | large
  · exact other same
  · exact absurd small (Nat.not_lt.mpr large)

/-- A character beyond ASCII is left alone by the lower case of ASCII. -/
theorem toLower_eq_self {c : Char} (large : 128 ≤ c.toNat) : c.toLower = c := by
  unfold Char.toLower
  split
  · rename_i upper
    have small : c.toNat ≤ 'Z'.toNat := UInt32.le_iff_toNat_le.mp upper.2
    exact absurd (large.trans small) (by decide)
  · rfl

theorem isLowering_toLower : IsLowering fun text => text.map Char.toLower where
  ascii _ _ := rfl
  beyond text := by
    rintro ⟨c, inside, large⟩
    refine ⟨c, ?_, .inr large⟩
    rw [String.toList_map, List.mem_map]
    exact ⟨c, inside, toLower_eq_self large⟩

/-- **The case of a level does not matter, whatever scripts are told apart by case.** -/
theorem isKnownLevel_iff_of_isLowering {lower : String → String} (lowering : IsLowering lower)
    (level : String) :
    isKnownLevel level ↔ lower level ∈ ["trace", "debug", "info", "warn", "error"] := by
  show levelNames.contains (level.map Char.toLower) ↔ lower level ∈ levelNames
  rw [List.contains_iff_mem]
  by_cases plain : ∀ c ∈ level.toList, c.toNat < 128
  · rw [lowering.ascii level plain]
  · have beyond : ∃ c ∈ level.toList, 128 ≤ c.toNat := by
      simpa using plain
    obtain ⟨c, inside, foreign⟩ := isLowering_toLower.beyond level beyond
    obtain ⟨c', inside', foreign'⟩ := lowering.beyond level beyond
    exact iff_of_false (not_mem_levelNames inside foreign) (not_mem_levelNames inside' foreign')

/-! ### Every flaw is told -/

section Told

theorem levelErrors_eq_map (config : Config) :
    levelErrors config = (levelFlaws config).map Flaw.finding := by
  have names : ", ".intercalate levelNames = "trace, debug, info, warn, error" := by decide
  unfold levelErrors levelFlaws Config.level?
  cases config.logging.bind Logging.level with
  | none => rfl
  | some level =>
    simp only [names]
    by_cases known : isKnownLevel level
    · rw [if_pos known, if_neg (not_not_intro known)]
      rfl
    · rw [if_neg known, if_pos known]
      rfl

theorem actionErrors_eq_map (check : Nat) (domain : Domain) (position : Nat) (action : String) :
    actionErrors (actionPath check domain position) action =
      (actionFlaws check domain position action).map Flaw.finding := by
  unfold actionErrors actionFlaws
  -- a text with a wildcard is not blank, so the order of the two tests makes no difference
  by_cases starred : '*' ∈ action.toList
  · have filled := isBlankText_eq_false_of_hasWildcard (List.contains_iff_mem.mpr starred)
    rw [filled, if_pos starred]
    simp [Pattern.hasWildcard, Pattern.wildcard, starred, Flaw.finding]
  · by_cases blank : Text.isBlankText action
    · simp [blank, starred, Flaw.finding]
    · simp [blank, starred, Pattern.hasWildcard, Pattern.wildcard]

theorem requiredErrors_eq_map (check : Nat) (named : NamedCheck) (domain : Domain) :
    requiredErrors (checkPath check ++ "." ++ domain.actionsField)
        (named.requirement.inDomain domain) =
      (requiredFlaws named check domain).map Flaw.finding := by
  unfold requiredErrors requiredFlaws
  rw [List.map_flatMap]
  refine List.flatMap_congr fun pair _ => ?_
  rw [← actionErrors_eq_map, ← indexed_actions]

theorem ownErrors_eq_map (earlier : List NamedCheck) (named : NamedCheck) (check : Nat) :
    nameErrors (checkPath check) earlier named ++ snapshotErrors (checkPath check) named =
      (ownFlaws earlier named check).map Flaw.finding := by
  have field : checkPath check ++ ".name" = "checks[" ++ toString check ++ "].name" :=
    String.toList_injective (by simp [checkPath])
  have field' : checkPath check ++ ".snapshot" = "checks[" ++ toString check ++ "].snapshot" :=
    String.toList_injective (by simp [checkPath])
  have repeated : (earlier.any fun other => other.name == named.name) = true ↔
      named.name ∈ earlier.map NamedCheck.name := by
    simp only [List.any_eq_true, beq_iff_eq, List.mem_map]
  unfold nameErrors snapshotErrors ownFlaws
  simp only [field, field', repeated, List.map_append]
  refine congrArg₂ _ ?_ ?_
  · by_cases blank : Text.isBlankText named.name
    · simp [blank, Flaw.finding]
    · by_cases known : named.name ∈ earlier.map NamedCheck.name
      · simp only [blank, known]
        rfl
      · simp only [blank, known]
        rfl
  · split
    · rfl
    · rfl

theorem checkErrors_eq_map (earlier : List NamedCheck) (named : NamedCheck) (check : Nat) :
    checkErrors (checkPath check) earlier named =
      (checkFlaws earlier named check).map Flaw.finding := by
  have control := requiredErrors_eq_map check named .control
  have data := requiredErrors_eq_map check named .data
  unfold checkErrors checkFlaws
  rw [ownErrors_eq_map, List.map_append, List.map_append, ← control, ← data, String.append_assoc,
    String.append_assoc]
  rfl

/-- **The errors of a configuration tell its flaws, in order.** -/
theorem errors_eq_map_finding (config : Config) :
    (findings config).errors =
      (levelFlaws config ++ checksFlaws config.checks).map Flaw.finding := by
  unfold checksFlaws
  rw [List.map_append, ← levelErrors_eq_map, List.map_flatMap]
  refine congrArg _ (List.flatMap_congr fun pair _ => ?_)
  rw [← checkErrors_eq_map, ← indexed_checks]

end Told

/-! ### No other flaw is listed -/

section Outlined

/-- The flaws of a required action, as they are told of a check with this index. -/
def ActionHas (check : Nat) (domain : Domain) (action : String) (position : Nat) (flaw : Flaw) :
    Prop :=
  Text.isBlankText action ∧ flaw = .blankAction check domain position ∨
    '*' ∈ action.toList ∧ flaw = .starredAction check domain position action

theorem ActionHas.number_eq {check position : Nat} {domain : Domain} {action : String} {flaw : Flaw}
    (has : ActionHas check domain action position flaw) :
    flaw.number = [1, check, Flaw.listNumber domain, position] := by
  rcases has with ⟨-, rfl⟩ | ⟨-, rfl⟩
  · rfl
  · rfl

theorem actionFlaws_outlines (check : Nat) (domain : Domain) (action : String) (position : Nat) :
    Outlines Flaw.number (actionFlaws check domain position action)
      (ActionHas check domain action position) := by
  refine (outlines_if _ _).append (outlines_if _ _) ?_
  rintro flaw later ⟨blank, rfl⟩ ⟨starred, rfl⟩
  rw [isBlankText_eq_false_of_hasWildcard (List.contains_iff_mem.mpr starred)] at blank
  cases blank

/-- The flaws of the actions that a check requires in a domain. -/
def RequiredHas (named : NamedCheck) (check : Nat) (domain : Domain) (flaw : Flaw) : Prop :=
  ∃ position action, (named.requirement.inDomain domain)[position]? = some action ∧
    ActionHas check domain action position flaw

theorem RequiredHas.number_eq {named : NamedCheck} {check : Nat} {domain : Domain} {flaw : Flaw}
    (has : RequiredHas named check domain flaw) :
    ∃ position, flaw.number = [1, check, Flaw.listNumber domain, position] := by
  obtain ⟨position, action, -, has⟩ := has
  exact ⟨position, has.number_eq⟩

theorem requiredFlaws_outlines (named : NamedCheck) (check : Nat) (domain : Domain) :
    Outlines Flaw.number (requiredFlaws named check domain) (RequiredHas named check domain) := by
  refine outlines_flatMap_zipIdx (named.requirement.inDomain domain)
    (actionFlaws_outlines check domain) ?_
  intro action action' position position' flaw later smaller has has'
  rw [has.number_eq, has'.number_eq]
  exact lt_of_lead [1, check, Flaw.listNumber domain] smaller [] []

/-- The flaws of the name and the snapshot of a check behind earlier ones. -/
def OwnHas (earlier : List NamedCheck) (named : NamedCheck) (check : Nat) (flaw : Flaw) : Prop :=
  (Text.isBlankText named.name ∧ flaw = .blankName check ∨
    (¬ Text.isBlankText named.name ∧ named.name ∈ earlier.map NamedCheck.name) ∧
      flaw = .repeatedName check named.name) ∨
    Text.isBlankText named.snapshot ∧ flaw = .blankSnapshot check

theorem ownFlaws_outlines (earlier : List NamedCheck) (named : NamedCheck) (check : Nat) :
    Outlines Flaw.number (ownFlaws earlier named check) (OwnHas earlier named check) := by
  refine ((outlines_if _ _).append (outlines_if _ _) ?_).append (outlines_if _ _) ?_
  · -- the two have one place, but a name that is repeated is not blank
    rintro flaw later ⟨blank, -⟩ ⟨⟨filled, -⟩, -⟩
    exact absurd blank filled
  · rintro flaw later (⟨-, rfl⟩ | ⟨-, rfl⟩) ⟨-, rfl⟩
    · exact lt_of_lead [1, check] Nat.zero_lt_one [] []
    · exact lt_of_lead [1, check] Nat.zero_lt_one [] []

/-- The flaws of a check behind earlier ones. -/
def CheckHas (earlier : List NamedCheck) (named : NamedCheck) (check : Nat) (flaw : Flaw) : Prop :=
  (OwnHas earlier named check flaw ∨ RequiredHas named check .control flaw) ∨
    RequiredHas named check .data flaw

theorem OwnHas.number_eq {earlier : List NamedCheck} {named : NamedCheck} {check : Nat}
    {flaw : Flaw} (has : OwnHas earlier named check flaw) :
    ∃ part < 2, flaw.number = [1, check, part] := by
  rcases has with (⟨-, rfl⟩ | ⟨-, rfl⟩) | ⟨-, rfl⟩
  · exact ⟨0, by decide, rfl⟩
  · exact ⟨0, by decide, rfl⟩
  · exact ⟨1, by decide, rfl⟩

theorem CheckHas.number_eq {earlier : List NamedCheck} {named : NamedCheck} {check : Nat}
    {flaw : Flaw} (has : CheckHas earlier named check flaw) :
    ∃ rest, flaw.number = 1 :: check :: rest := by
  rcases has with (own | control) | data
  · obtain ⟨part, -, same⟩ := own.number_eq
    exact ⟨_, same⟩
  · obtain ⟨position, same⟩ := control.number_eq
    exact ⟨_, same⟩
  · obtain ⟨position, same⟩ := data.number_eq
    exact ⟨_, same⟩

theorem checkFlaws_outlines (earlier : List NamedCheck) (named : NamedCheck) (check : Nat) :
    Outlines Flaw.number (checkFlaws earlier named check) (CheckHas earlier named check) := by
  have behindOwn : ∀ domain flaw later, OwnHas earlier named check flaw →
      RequiredHas named check domain later → flaw.number < later.number := by
    intro domain flaw later own required
    obtain ⟨part, small, same⟩ := own.number_eq
    obtain ⟨position, same'⟩ := required.number_eq
    have before : part < Flaw.listNumber domain := by
      cases domain <;> simp only [Flaw.listNumber] <;> omega
    rw [same, same']
    exact lt_of_lead [1, check] before [] [position]
  refine ((ownFlaws_outlines earlier named check).append
    (requiredFlaws_outlines named check .control) (behindOwn .control)).append
    (requiredFlaws_outlines named check .data) ?_
  rintro flaw later (own | control) data
  · exact behindOwn .data flaw later own data
  · obtain ⟨position, same⟩ := RequiredHas.number_eq control
    obtain ⟨position', same'⟩ := RequiredHas.number_eq data
    rw [same, same']
    exact lt_of_lead [1, check] (Nat.lt_succ_self 2) [position] [position']

theorem checksFlaws_outlines (checks : List NamedCheck) :
    Outlines Flaw.number (checksFlaws checks) fun flaw => ∃ check named,
      checks[check]? = some named ∧ CheckHas (checks.take check) named check flaw := by
  have each : ∀ named check, Outlines Flaw.number (checkFlaws (checks.take check) named check)
      (CheckHas (checks.take check) named check) :=
    fun named check => checkFlaws_outlines _ named check
  refine outlines_flatMap_zipIdx checks each ?_
  intro named named' check check' flaw later smaller has has'
  obtain ⟨rest, same⟩ := has.number_eq
  obtain ⟨rest', same'⟩ := has'.number_eq
  rw [same, same']
  exact lt_of_lead [1] smaller rest rest'

theorem levelFlaws_outlines (config : Config) :
    Outlines Flaw.number (levelFlaws config) fun flaw => ∃ level, config.level? = some level ∧
      ¬ isKnownLevel level ∧ flaw = .unknownLevel level := by
  unfold levelFlaws
  cases config.level? with
  | none => exact ⟨fun flaw => by simp, .nil⟩
  | some level =>
    refine (outlines_if (¬ isKnownLevel level) (Flaw.unknownLevel level)).of_iff fun flaw => ?_
    simp

/-- A name among those of the first checks. -/
theorem mem_names_take_iff {config : Config} {name : String} {check : Nat} :
    name ∈ (config.checks.take check).map NamedCheck.name ↔
      ∃ earlier < check, config.name? earlier = some name := by
  rw [List.mem_iff_getElem?]
  refine exists_congr fun earlier => ?_
  rw [List.getElem?_map, List.getElem?_take, Config.name?]
  by_cases smaller : earlier < check
  · rw [if_pos smaller, and_iff_right smaller]
  · rw [if_neg smaller]
    exact iff_of_false (by simp) fun both => smaller both.1

/-- The flaws of the checks are those that the configuration has. -/
theorem checkHas_iff (config : Config) (lower : String → String) (flaw : Flaw) :
    (∃ check named, config.checks[check]? = some named ∧
      CheckHas (config.checks.take check) named check flaw) ↔
      (∀ level, flaw ≠ .unknownLevel level) ∧ config.Has lower flaw := by
  simp only [CheckHas, OwnHas, RequiredHas, ActionHas, mem_names_take_iff]
  cases flaw with
  | unknownLevel level => simp
  | blankName check => simp [Config.Has, Config.name?_eq_some_iff]
  | repeatedName check name =>
    have called := @Config.name?_eq_some_iff config check name
    simp only [reduceCtorEq, and_false, Flaw.repeatedName.injEq, false_or, or_false, exists_const,
      ↓existsAndEq, true_and, ne_eq, not_false_eq_true, implies_true, Config.Has, called]
    constructor
    · rintro ⟨named, held, ⟨filled, earlier⟩, rfl⟩
      exact ⟨⟨named, held, rfl⟩, filled, earlier⟩
    · rintro ⟨⟨named, held, rfl⟩, filled, earlier⟩
      exact ⟨named, held, ⟨filled, earlier⟩, rfl⟩
  | blankSnapshot check => simp [Config.Has]
  | blankAction check domain position =>
    cases domain with
    | control => grind [Config.Has, Config.action?_eq_some_iff]
    | data => grind [Config.Has, Config.action?_eq_some_iff]
  | starredAction check domain position action =>
    cases domain with
    | control => grind [Config.Has, Config.action?_eq_some_iff]
    | data => grind [Config.Has, Config.action?_eq_some_iff]

/-- **The list of flaws holds the flaws that the configuration has, in the order of their
places.** -/
theorem flaws_outlines (config : Config) {lower : String → String} (lowering : IsLowering lower) :
    Outlines Flaw.number (levelFlaws config ++ checksFlaws config.checks) (config.Has lower) := by
  refine ((levelFlaws_outlines config).append (checksFlaws_outlines config.checks) ?_).of_iff
    fun flaw => ?_
  · rintro flaw later ⟨level, -, -, rfl⟩ ⟨check, named, -, has⟩
    obtain ⟨rest, same⟩ := has.number_eq
    rw [same]
    exact lt_of_lead [] Nat.zero_lt_one [] (check :: rest)
  · rw [checkHas_iff config lower flaw]
    simp only [isKnownLevel_iff_of_isLowering lowering]
    cases flaw with
    | unknownLevel level => simp [Config.Has]
    | _ => simp

end Outlined

/-- A configuration has no flaw exactly when it is sound. -/
theorem isSound_iff_forall_not_has (config : Config) (lower : String → String) :
    config.IsSound lower ↔ ∀ flaw, ¬ config.Has lower flaw := by
  constructor
  · intro sound flaw has
    cases flaw with
    | unknownLevel level =>
      exact has.2 (sound.level level has.1)
    | blankName check =>
      obtain ⟨name, called, blank⟩ := has
      obtain ⟨named, held, rfl⟩ := Config.name?_eq_some_iff.mp called
      exact sound.named named (List.mem_of_getElem? held) blank
    | repeatedName check name =>
      obtain ⟨called, -, earlier, smaller, calledToo⟩ := has
      have unlike := List.nodup_iff_getElem?_ne_getElem?.mp sound.distinct earlier check smaller ?_
      · rw [List.getElem?_map, List.getElem?_map] at unlike
        exact unlike (calledToo.trans called.symm)
      · obtain ⟨named, held, -⟩ := Config.name?_eq_some_iff.mp called
        rw [List.length_map]
        exact (List.getElem?_eq_some_iff.mp held).1
    | blankSnapshot check =>
      obtain ⟨named, held, blank⟩ := has
      exact sound.snapshots named (List.mem_of_getElem? held) blank
    | blankAction check domain position =>
      obtain ⟨action, required, blank⟩ := has
      obtain ⟨named, held, required⟩ := Config.action?_eq_some_iff.mp required
      exact (sound.required named (List.mem_of_getElem? held) domain action
        (List.mem_of_getElem? required)).1 blank
    | starredAction check domain position action =>
      obtain ⟨required, starred⟩ := has
      obtain ⟨named, held, required⟩ := Config.action?_eq_some_iff.mp required
      exact (sound.required named (List.mem_of_getElem? held) domain action
        (List.mem_of_getElem? required)).2 starred
  · intro flawless
    refine { level := ?_, named := ?_, distinct := ?_, snapshots := ?_, required := ?_ }
    · intro level asked
      exact not_not.mp fun unknown => flawless (.unknownLevel level) ⟨asked, unknown⟩
    · intro named member blank
      obtain ⟨check, held⟩ := List.mem_iff_getElem?.mp member
      exact flawless (.blankName check) ⟨_, Config.name?_eq_some_iff.mpr ⟨named, held, rfl⟩, blank⟩
    · refine List.nodup_iff_getElem?_ne_getElem?.mpr fun earlier check smaller inside same => ?_
      rw [List.getElem?_map, List.getElem?_map] at same
      rw [List.length_map] at inside
      have called : config.name? check = some config.checks[check].name :=
        Config.name?_eq_some_iff.mpr ⟨_, List.getElem?_eq_getElem inside, rfl⟩
      by_cases blank : Text.isBlankText config.checks[check].name
      · exact flawless (.blankName check) ⟨_, called, blank⟩
      · exact flawless (.repeatedName check config.checks[check].name)
          ⟨called, blank, earlier, smaller, same.trans called⟩
    · intro named member blank
      obtain ⟨check, held⟩ := List.mem_iff_getElem?.mp member
      exact flawless (.blankSnapshot check) ⟨named, held, blank⟩
    · intro named member domain action required
      obtain ⟨check, held⟩ := List.mem_iff_getElem?.mp member
      obtain ⟨position, required⟩ := List.mem_iff_getElem?.mp required
      have found := Config.action?_eq_some_iff.mpr ⟨named, held, required⟩
      constructor
      · intro blank
        exact flawless (.blankAction check domain position) ⟨action, found, blank⟩
      · intro starred
        exact flawless (.starredAction check domain position action) ⟨found, starred⟩

/-! ### How often names are told as repeated -/

section Repeats

/-- How the message about a repeated name begins. -/
def repeatMark : String := "Duplicate check name '"

/-- The finding tells of a name that an earlier check has. -/
def Finding.tellsRepeat (finding : Finding) : Bool :=
  repeatMark.toList.isPrefixOf finding.message.toList

/-- The names that are not blank. -/
def filledNames (checks : List NamedCheck) : List String :=
  (checks.map NamedCheck.name).filter fun name => !Text.isBlankText name

/-- The flaw is told as the repetition of a name. -/
def Flaw.tellsRepeat (flaw : Flaw) : Bool :=
  flaw.finding.tellsRepeat

/-- Only a repeated name is told as one. -/
theorem Flaw.tellsRepeat_iff {flaw : Flaw} :
    flaw.tellsRepeat ↔ ∃ check name, flaw = .repeatedName check name := by
  unfold Flaw.tellsRepeat Finding.tellsRepeat
  cases flaw with
  | unknownLevel level =>
    refine iff_of_false ?_ (by simp)
    rw [Flaw.finding, String.toList_append, String.toList_append, String.toList_append]
    exact Bool.false_ne_true
  | repeatedName check name =>
    refine iff_of_true ?_ ⟨check, name, rfl⟩
    rw [Flaw.finding, String.toList_append, String.toList_append]
    rfl
  | starredAction check domain position action =>
    refine iff_of_false ?_ (by simp)
    rw [Flaw.finding, String.toList_append, String.toList_append]
    exact Bool.false_ne_true
  | blankName check =>
    refine iff_of_false ?_ (by simp)
    show ¬ repeatMark.toList.isPrefixOf "Check name cannot be empty".toList
    decide
  | blankSnapshot check =>
    refine iff_of_false ?_ (by simp)
    show ¬ repeatMark.toList.isPrefixOf "Snapshot path cannot be empty".toList
    decide
  | blankAction check domain position =>
    refine iff_of_false ?_ (by simp)
    show ¬ repeatMark.toList.isPrefixOf "Required action cannot be empty".toList
    decide

/-- A check with a filled name that an earlier one has is told of once, and no other is. -/
theorem countP_checkFlaws (earlier : List NamedCheck) (named : NamedCheck) (check : Nat) :
    (checkFlaws earlier named check).countP Flaw.tellsRepeat =
      if ¬ Text.isBlankText named.name ∧ named.name ∈ earlier.map NamedCheck.name then 1
      else 0 := by
  have required : ∀ domain, (requiredFlaws named check domain).countP Flaw.tellsRepeat = 0 := by
    intro domain
    refine List.countP_eq_zero.mpr fun flaw inside told => ?_
    obtain ⟨other, name, rfl⟩ := Flaw.tellsRepeat_iff.mp told
    obtain ⟨position, same⟩ := (requiredFlaws_outlines named check domain).mem_iff _ |>.mp inside
      |>.number_eq
    simp [Flaw.number] at same
  unfold checkFlaws
  rw [List.countP_append, List.countP_append, required, required]
  have single : ∀ (condition : Prop) [Decidable condition] (flaw : Flaw),
      (if condition then [flaw] else []).countP Flaw.tellsRepeat =
        if condition ∧ flaw.tellsRepeat then 1 else 0 := by
    intro condition _ flaw
    by_cases met : condition
    · simp [met, List.countP_singleton]
    · simp [met]
  unfold ownFlaws
  rw [List.countP_append, List.countP_append, single, single, single]
  simp [Flaw.tellsRepeat_iff]

theorem checksFlaws_append (checks : List NamedCheck) (named : NamedCheck) :
    checksFlaws (checks ++ [named]) =
      checksFlaws checks ++ checkFlaws checks named checks.length := by
  unfold checksFlaws
  rw [List.zipIdx_append, List.flatMap_append]
  refine congrArg₂ _ (List.flatMap_congr fun pair inside => ?_) ?_
  · have before : pair.2 ≤ checks.length := by
      have bounded := (List.mem_zipIdx inside).2.1
      omega
    rw [List.take_append_of_le_length before]
  · simp

/-- **Of all names that are not blank each is told of once less than it stands there.** -/
theorem countP_tellsRepeat_add_card (checks : List NamedCheck) :
    (checksFlaws checks).countP Flaw.tellsRepeat + (filledNames checks).toFinset.card =
      (filledNames checks).length := by
  -- from the end, since the checks in front decide whether a name is told of
  induction checks using List.reverseRecOn with
  | nil => rfl
  | append_singleton checks named ih =>
    rw [checksFlaws_append, List.countP_append, countP_checkFlaws]
    have split : filledNames (checks ++ [named]) = filledNames checks ++ filledNames [named] := by
      unfold filledNames
      rw [List.map_append, List.filter_append]
    have known : named.name ∈ (filledNames checks).toFinset ↔
        named.name ∈ checks.map NamedCheck.name ∧ ¬ Text.isBlankText named.name := by
      simp [filledNames]
    by_cases blank : Text.isBlankText named.name
    · have none : filledNames [named] = [] := by simp [filledNames, blank]
      rw [split, none, List.append_nil, if_neg fun both => both.1 blank]
      exact ih
    · have one : filledNames [named] = [named.name] := by simp [filledNames, blank]
      have joined : (filledNames checks ++ [named.name]).toFinset =
          insert named.name (filledNames checks).toFinset := by
        ext name
        simp
      rw [split, one, joined, List.length_append, List.length_singleton]
      by_cases repeated : named.name ∈ checks.map NamedCheck.name
      · rw [if_pos ⟨blank, repeated⟩, Finset.insert_eq_of_mem (known.mpr ⟨repeated, blank⟩)]
        omega
      · rw [if_neg fun both => repeated both.2,
          Finset.card_insert_of_notMem fun inside => repeated (known.mp inside).1]
        omega

end Repeats

/-! ### Warnings -/

section Warned

/-- Something that makes a configuration of little use, with its place. -/
inductive Doubt where
  | noChecks
  | nothingRequired (check : Nat)
  deriving DecidableEq, Repr

/-- The number of the place of a doubt in the outline of a configuration. -/
def Doubt.number : Doubt → List Nat
  | noChecks => [0]
  | nothingRequired check => [1, check]

/-- How a doubt is told. -/
def Doubt.finding : Doubt → Finding
  | noChecks => { path := "checks", message := "No checks configured; nothing will be evaluated" }
  | nothingRequired check =>
    { path := "checks[" ++ toString check ++ "]"
      message := "Check requires no actions and always passes" }

/-- The configuration raises a doubt. -/
def Config.Raises (config : Config) : Doubt → Prop
  | .noChecks => config.checks = []
  | .nothingRequired check => ∃ named, config.checks[check]? = some named ∧
      ∀ domain, named.requirement.inDomain domain = []

/-- The doubts that a configuration raises, in order. -/
def doubts (config : Config) : List Doubt :=
  (if config.checks = [] then [.noChecks] else []) ++
    config.checks.zipIdx.flatMap fun pair =>
      if pair.1.requirement.actions = [] ∧ pair.1.requirement.dataActions = [] then
        [.nothingRequired pair.2] else []

theorem requiresNothing_iff {requirement : Requirement} :
    requirement.actions = [] ∧ requirement.dataActions = [] ↔
      ∀ domain, requirement.inDomain domain = [] := by
  constructor
  · rintro ⟨noActions, noDataActions⟩ (_ | _)
    · exact noActions
    · exact noDataActions
  · intro nothing
    exact ⟨nothing .control, nothing .data⟩

theorem warnings_eq_map_finding (config : Config) :
    (findings config).warnings = (doubts config).map Doubt.finding := by
  unfold doubts
  rw [List.map_append, List.map_flatMap]
  refine congrArg₂ _ ?_ (List.flatMap_congr fun pair _ => ?_)
  · by_cases none : config.checks = []
    · simp [emptinessWarnings, none, Doubt.finding]
    · simp [emptinessWarnings, none]
  · show checkWarnings (indexed "checks" pair.2) pair.1 = _
    rw [indexed_checks]
    by_cases nothing : pair.1.requirement.actions = [] ∧ pair.1.requirement.dataActions = []
    · simp [checkWarnings, nothing, Doubt.finding, checkPath]
    · have required : ¬ (pair.1.requirement.actions.isEmpty &&
          pair.1.requirement.dataActions.isEmpty) := by
        simpa [List.isEmpty_iff] using nothing
      rw [if_neg nothing]
      exact if_neg required

/-- **The list of doubts holds the doubts that the configuration raises, in order.** -/
theorem doubts_outlines (config : Config) :
    Outlines Doubt.number (doubts config) config.Raises := by
  have each : ∀ (named : NamedCheck) (check : Nat), Outlines Doubt.number
      (if named.requirement.actions = [] ∧ named.requirement.dataActions = [] then
        [Doubt.nothingRequired check] else []) fun doubt =>
      (named.requirement.actions = [] ∧ named.requirement.dataActions = []) ∧
        doubt = .nothingRequired check := fun named check => outlines_if _ _
  refine ((outlines_if _ _).append (outlines_flatMap_zipIdx config.checks each ?_) ?_).of_iff ?_
  · rintro named named' check check' doubt later smaller ⟨-, rfl⟩ ⟨-, rfl⟩
    exact lt_of_lead [1] smaller [] []
  · rintro doubt later ⟨-, rfl⟩ ⟨check, named, -, -, rfl⟩
    exact lt_of_lead [] Nat.zero_lt_one [] [check]
  · intro doubt
    cases doubt with
    | noChecks => simp [Config.Raises]
    | nothingRequired check => simp [Config.Raises, requiresNothing_iff]

end Warned

/-- **Validation tells every flaw of a configuration, each once and in the order of their places,
and nothing else makes it invalid.** The doubts are told in the same way, beside the flaws. -/
theorem validation_tells_every_flaw {lower : String → String} (lowering : IsLowering lower)
    (config : Config) :
    ((findings config).isValid ↔ config.IsSound lower) ∧
    (∃! flaws, Outlines Flaw.number flaws (config.Has lower) ∧
      (findings config).errors = flaws.map Flaw.finding) ∧
    (findings config).errors.countP Finding.tellsRepeat +
        (filledNames config.checks).toFinset.card = (filledNames config.checks).length ∧
    ∃! doubts, Outlines Doubt.number doubts config.Raises ∧
      (findings config).warnings = doubts.map Doubt.finding := by
  have outlined := flaws_outlines config lowering
  have told := errors_eq_map_finding config
  refine ⟨?_, ⟨_, ⟨outlined, told⟩, fun other both => both.1.unique outlined⟩, ?_,
    ⟨_, ⟨doubts_outlines config, warnings_eq_map_finding config⟩,
      fun other both => both.1.unique (doubts_outlines config)⟩⟩
  · unfold Findings.isValid
    rw [List.isEmpty_iff, told, List.map_eq_nil_iff, outlined.eq_nil_iff,
      isSound_iff_forall_not_has]
  · have ofLevel : (levelFlaws config).countP Flaw.tellsRepeat = 0 := by
      refine List.countP_eq_zero.mpr fun flaw inside told => ?_
      obtain ⟨level, -, -, rfl⟩ := (levelFlaws_outlines config).mem_iff flaw |>.mp inside
      obtain ⟨check, name, same⟩ := Flaw.tellsRepeat_iff.mp told
      cases same
    rw [told, List.countP_map, ← countP_tellsRepeat_add_card]
    show (levelFlaws config ++ checksFlaws config.checks).countP Flaw.tellsRepeat + _ = _
    rw [List.countP_append, ofLevel, Nat.zero_add]

/-! ### A configuration with many flaws -/

/-- One name stands here three times, and one is blank. -/
def flawedConfig : Config where
  logging := some { level := some "Loud" }
  checks := [
    { name := "reader", snapshot := "vault.json", requirement := { actions := ["Vault/*", " "] } },
    { name := " ", requirement := { dataActions := ["Vault/get", "*/get"] } },
    { name := "reader", snapshot := "vault.json" },
    { name := "reader", snapshot := "vault.json", requirement := { actions := ["Vault/read"] } }]

/-- Its flaws, of every kind. -/
def flawedErrors : List Finding := [
  { path := "logging.level"
    message := "Unknown log level 'Loud'. Use one of: trace, debug, info, warn, error" },
  { path := "checks[0].actions[0]"
    message := "Required action 'Vault/*' must not contain a wildcard" },
  { path := "checks[0].actions[1]", message := "Required action cannot be empty" },
  { path := "checks[1].name", message := "Check name cannot be empty" },
  { path := "checks[1].snapshot", message := "Snapshot path cannot be empty" },
  { path := "checks[1].dataActions[1]"
    message := "Required action '*/get' must not contain a wildcard" },
  { path := "checks[2].name", message := "Duplicate check name 'reader'" },
  { path := "checks[3].name", message := "Duplicate check name 'reader'" }]

/-- The check in the middle requires nothing. -/
def flawedWarnings : List Finding := [
  { path := "checks[2]", message := "Check requires no actions and always passes" }]

/-- The name is told of twice, although a flaw of every other kind is told with it. -/
theorem repeats_among_other_flaws :
    IsLowering (fun text => text.map Char.toLower) ∧
    (findings flawedConfig).errors = flawedErrors ∧
    (∃ flaws, Outlines Flaw.number flaws (flawedConfig.Has fun text => text.map Char.toLower) ∧
      flawedErrors = flaws.map Flaw.finding) ∧
    flawedErrors.countP Finding.tellsRepeat = 2 ∧
    (findings flawedConfig).warnings = flawedWarnings ∧
    (∃ doubts, Outlines Doubt.number doubts flawedConfig.Raises ∧
      flawedWarnings = doubts.map Doubt.finding) ∧
    ¬ flawedConfig.IsSound fun text => text.map Char.toLower := by
  obtain ⟨sound, ⟨flaws, ⟨outlined, told⟩, -⟩, repeats, doubts, ⟨raised, warned⟩, -⟩ :=
    validation_tells_every_flaw isLowering_toLower flawedConfig
  have errors : (findings flawedConfig).errors = flawedErrors := by decide +kernel
  have warnings : (findings flawedConfig).warnings = flawedWarnings := by decide +kernel
  refine ⟨isLowering_toLower, errors, ⟨flaws, outlined, errors ▸ told⟩, ?_, warnings,
    ⟨doubts, raised, warnings ▸ warned⟩, ?_⟩
  · have distinct : (filledNames flawedConfig.checks).toFinset.card = 1 := by decide
    have length : (filledNames flawedConfig.checks).length = 3 := by decide
    rw [← errors]
    omega
  · rw [← sound]
    decide +kernel

end AccessAudit
