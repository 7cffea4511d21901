/-
**What becomes of a configuration when it is prepared.**

A configuration is written as JSON, the references in all its strings are replaced, it is read back,
and what has a default is filled in. The way through JSON loses nothing, so what comes of it can be
told of the fields themselves. Every text is replaced by itself with its references filled in, a
scope that is blank then becomes the root, and the settings of the log are completed; the checks and
the entries of their lists stay as many as they were and in their order. The one thing to go wrong
is a variable that is missing, and then the first text that refers to one is told with its path:
the lists of a check come before its other texts, and the checks before the settings of the log.

* `Config.places`: the texts of a configuration with their paths, in the order they are met in;
* `Config.filled`: the configuration with every text filled in;
* `Config.resolve_eq_settled`: the configuration filled in, or the first variable that is missing;
* `Config.Prepares`: what preparing makes of every field;
* `preparation_replaces_every_text`: the fields of what is prepared, or the first text at fault.
-/
import AccessAudit.Config.Load
import AccessAudit.Proofs.Gaps
import AccessAudit.Proofs.JsonRecord
import AccessAudit.Proofs.Substitution
import Mathlib.Data.List.Forall2

namespace AccessAudit

/-! ### The texts of a configuration -/

/-- The texts of a list with their paths. -/
def textPlaces (path : String) (texts : List String) : List (String × String) :=
  texts.zipIdx.map fun (text, index) => (path ++ "[" ++ toString index ++ "]", text)

/-- The texts of the check at a path, its lists first. -/
def NamedCheck.places (path : String) (check : NamedCheck) : List (String × String) :=
  textPlaces (path ++ ".actions") check.requirement.actions ++
    textPlaces (path ++ ".dataActions") check.requirement.dataActions ++
    [(path ++ ".name", check.name), (path ++ ".scope", check.scope),
      (path ++ ".snapshot", check.snapshot)]

/-- The texts of the settings of the log. -/
def Logging.places (logging : Logging) : List (String × String) :=
  logging.dir.toList.map (("logging.dir", ·)) ++ logging.level.toList.map (("logging.level", ·))

/-- The texts of a configuration with their paths, in the order in which they are met. -/
def Config.places (config : Config) : List (String × String) :=
  (config.checks.zipIdx.flatMap fun (check, index) =>
    check.places ("checks[" ++ toString index ++ "]")) ++
      config.logging.toList.flatMap Logging.places

section Places

theorem Json.itemStrings_map {α : Type} (path : String) (write : α → Json) (values : List α)
    (start : Nat) :
    Json.itemStrings path start (values.map write) =
      (values.zipIdx start).flatMap fun (value, index) =>
        Json.stringsAt (Json.itemPath path index) (write value) := by
  induction values generalizing start with
  | nil => rfl
  | cons value rest ih =>
    rw [List.map_cons, Json.itemStrings, ih, List.zipIdx_cons, List.flatMap_cons]

theorem stringsAt_ofTexts (path : String) (texts : List String) :
    Json.stringsAt path (.ofTexts texts) = textPlaces path texts := by
  rw [Json.ofTexts, Json.stringsAt, Json.itemStrings_map, textPlaces, ← List.flatMap_pure_eq_map]
  rfl

theorem itemPath_checks (index : Nat) :
    Json.itemPath "checks" index = "checks[" ++ toString index ++ "]" :=
  String.toList_injective (by simp [Json.itemPath])

/-- The way to a member of a check. -/
theorem memberPath_itemPath (path key : String) (index : Nat) :
    Json.memberPath (Json.itemPath path index) key = Json.itemPath path index ++ "." ++ key := by
  have filled : (Json.itemPath path index).isEmpty = false := by
    simp [Json.itemPath]
  rw [Json.memberPath, filled]
  rfl

theorem NamedCheck.stringsAt_sortedJson (path : String) (index : Nat) (check : NamedCheck) :
    Json.stringsAt (Json.itemPath path index) check.sortedJson =
      check.places (Json.itemPath path index) := by
  simp only [sortedJson, Json.stringsAt, Json.memberStrings, memberPath_itemPath, stringsAt_ofTexts,
    places, String.append_assoc, List.append_assoc]
  rfl

theorem Logging.stringsAt_sortedJson (logging : Logging) :
    Json.stringsAt "logging" logging.sortedJson = logging.places := by
  obtain ⟨level, json, dir⟩ := logging
  cases level <;> cases json <;> cases dir <;> rfl

/-- **The strings of a configuration in JSON are its texts.** -/
theorem Config.stringsAt_sortedJson (config : Config) :
    Json.stringsAt "" config.sortedJson = config.places := by
  obtain ⟨logging, checks⟩ := config
  have ofChecks : Json.itemStrings "checks" 0 (checks.map NamedCheck.sortedJson) =
      checks.zipIdx.flatMap fun entry =>
        entry.1.places ("checks[" ++ toString entry.2 ++ "]") := by
    rw [Json.itemStrings_map]
    simp only [NamedCheck.stringsAt_sortedJson]
    simp only [itemPath_checks]
  have rooted : ∀ key, Json.memberPath "" key = key := fun key => rfl
  cases logging with
  | none =>
    simp only [sortedJson, Json.stringsAt, Json.memberOf, Json.memberStrings, rooted, places]
    rw [ofChecks]
    rfl
  | some logging =>
    simp only [sortedJson, Json.stringsAt, Json.memberOf, Json.memberStrings, rooted, places]
    rw [ofChecks, Logging.stringsAt_sortedJson, List.append_nil, Option.toList_some,
      List.flatMap_singleton]

end Places

/-! ### The configuration filled in -/

section Filled

variable (environment : Environment)

/-- A check with every text filled in. -/
def NamedCheck.filled (check : NamedCheck) : NamedCheck where
  name := Reference.filled environment check.name
  scope := Reference.filled environment check.scope
  snapshot := Reference.filled environment check.snapshot
  requirement :=
    { actions := check.requirement.actions.map (Reference.filled environment)
      dataActions := check.requirement.dataActions.map (Reference.filled environment) }

/-- The settings of the log with every text filled in. -/
def Logging.filled (logging : Logging) : Logging where
  level := logging.level.map (Reference.filled environment)
  json := logging.json
  dir := logging.dir.map (Reference.filled environment)

/-- The configuration with every text filled in. -/
def Config.filled (config : Config) : Config where
  logging := config.logging.map (Logging.filled environment)
  checks := config.checks.map (NamedCheck.filled environment)

theorem Json.filledItems_map {α : Type} {write : α → Json} {change : α → α}
    (each : ∀ value, (write value).filled environment = write (change value)) (values : List α) :
    Json.filledItems environment (values.map write) = (values.map change).map write := by
  induction values with
  | nil => rfl
  | cons value rest ih =>
    rw [List.map_cons, Json.filledItems, each, ih, List.map_cons, List.map_cons]

theorem filled_ofTexts (texts : List String) :
    (Json.ofTexts texts).filled environment =
      .ofTexts (texts.map (Reference.filled environment)) := by
  have each : ∀ text, (Json.string text).filled environment =
      .string (Reference.filled environment text) := fun _ => rfl
  rw [Json.ofTexts, Json.filled, Json.filledItems_map environment each, Json.ofTexts]

theorem NamedCheck.filled_sortedJson (check : NamedCheck) :
    check.sortedJson.filled environment = (check.filled environment).sortedJson := by
  simp only [sortedJson, Json.filled, Json.filledMembers, filled_ofTexts, filled]

theorem Logging.filled_sortedJson (logging : Logging) :
    logging.sortedJson.filled environment = (logging.filled environment).sortedJson := by
  obtain ⟨level, json, dir⟩ := logging
  cases level <;> cases json <;> cases dir <;> rfl

theorem Config.filled_sortedJson (config : Config) :
    config.sortedJson.filled environment = (config.filled environment).sortedJson := by
  obtain ⟨logging, checks⟩ := config
  have ofChecks :=
    Json.filledItems_map environment (NamedCheck.filled_sortedJson environment) checks
  cases logging with
  | none =>
    simp only [sortedJson, Json.memberOf, Json.filled, Json.filledMembers, ofChecks, filled,
      Option.map_none]
  | some logging =>
    simp only [sortedJson, Json.memberOf, Json.filled, Json.filledMembers, ofChecks, filled,
      Option.map_some, Logging.filled_sortedJson]

/-- The failure that tells of a missing variable. -/
def MissingVariable.failure (missing : MissingVariable) : Failure where
  account := "Failed to resolve env vars in config"
  causes := [missing.message]

/-- **The way through JSON fills in every text, or it fails by the first variable that is
missing.** -/
theorem Config.resolve_eq_settled (config : Config) :
    config.resolve environment =
      settled ((config.places.flatMap (Json.missingAt environment)).map MissingVariable.failure)
        (config.filled environment) := by
  have resolved : config.toJson.resolve environment =
      settled (config.places.flatMap (Json.missingAt environment))
        (config.filled environment).sortedJson := by
    rw [Json.resolve, inKeyOrder_toJson, Json.resolveAt_eq_settled, stringsAt_sortedJson,
      filled_sortedJson]
  unfold Config.resolve
  rw [resolved]
  cases config.places.flatMap (Json.missingAt environment) with
  | nil =>
    simp only [settled_nil, ofJson?_sortedJson, List.map_nil]
  | cons missing rest => rfl

end Filled

/-! ### What preparing makes of the fields -/

section Prepares

variable (environment : Environment)

/-- The second text is the first one with its references replaced. -/
def Replaces (text result : String) : Prop :=
  Reference.substitute environment text = .ok result

/-- A setting that is given has its references replaced, and one that is not given stays so. -/
inductive ReplacesSetting : Option String → Option String → Prop
  | given {text result : String} (replaced : Replaces environment text result) :
      ReplacesSetting (some text) (some result)
  | absent : ReplacesSetting none none

/-- What preparing makes of a check. -/
structure NamedCheck.Prepares (check prepared : NamedCheck) : Prop where
  name : Replaces environment check.name prepared.name
  /-- A scope that is blank after the replacement becomes the root. -/
  scope : ∃ scope, Replaces environment check.scope scope ∧
    prepared.scope = if Text.isBlankText scope then "/" else scope
  snapshot : Replaces environment check.snapshot prepared.snapshot
  actions : List.Forall₂ (Replaces environment) check.requirement.actions
    prepared.requirement.actions
  dataActions : List.Forall₂ (Replaces environment) check.requirement.dataActions
    prepared.requirement.dataActions

/-- What preparing makes of the settings of the log. -/
structure Logging.Prepares (logging prepared : Logging) : Prop where
  /-- A level that is not given is filled in. -/
  level : ∃ level, ReplacesSetting environment logging.level level ∧
    prepared.level = some (level.getD "info")
  /-- A layout that is given stays as it is. -/
  json : prepared.json = some (logging.json.getD false)
  dir : ReplacesSetting environment logging.dir prepared.dir

/-- What preparing makes of a configuration. Settings that are not there are completed like empty
ones. -/
structure Config.Prepares (config prepared : Config) : Prop where
  checks : List.Forall₂ (NamedCheck.Prepares environment) config.checks prepared.checks
  logging : ∃ logging, prepared.logging = some logging ∧
    (config.logging.getD {}).Prepares environment logging

/-- Nothing is missing in the texts at these places. -/
def Complete (places : List (String × String)) : Prop :=
  ∀ place ∈ places, Reference.missingIn environment place.2 = []

variable {environment}

theorem replaces_iff {text result : String} :
    Replaces environment text result ↔
      Reference.missingIn environment text = [] ∧ Reference.filled environment text = result :=
  Reference.substitute_eq_ok_iff environment text result

theorem replacesSetting_iff {text? result? : Option String} :
    ReplacesSetting environment text? result? ↔
      (∀ text ∈ text?, Reference.missingIn environment text = []) ∧
        text?.map (Reference.filled environment) = result? := by
  constructor
  · intro replaced
    cases replaced with
    | given replaced =>
      obtain ⟨complete, rfl⟩ := replaces_iff.mp replaced
      exact ⟨fun text given => Option.some.inj given ▸ complete, rfl⟩
    | absent => exact ⟨fun text given => (Option.some_ne_none _ given.symm).elim, rfl⟩
  · rintro ⟨complete, rfl⟩
    cases text? with
    | none => exact .absent
    | some text => exact .given (replaces_iff.mpr ⟨complete text rfl, rfl⟩)

/-- Two lists are related entry by entry by a function on what is fit for it. -/
theorem forall₂_iff_map {α β : Type} {fit : α → Prop} {f : α → β} {related : α → β → Prop}
    (each : ∀ a b, related a b ↔ fit a ∧ f a = b) (as : List α) (bs : List β) :
    List.Forall₂ related as bs ↔ (∀ a ∈ as, fit a) ∧ as.map f = bs := by
  induction as generalizing bs with
  | nil => simp [List.forall₂_nil_left_iff, eq_comm]
  | cons a as ih =>
    simp only [List.forall₂_cons_left_iff, each, ih, List.forall_mem_cons, List.map_cons]
    constructor
    · rintro ⟨_, _, ⟨first, rfl⟩, ⟨rest, rfl⟩, rfl⟩
      exact ⟨⟨first, rest⟩, rfl⟩
    · rintro ⟨⟨first, rest⟩, rfl⟩
      exact ⟨_, _, ⟨first, rfl⟩, ⟨rest, rfl⟩, rfl⟩

theorem forall₂_replaces_iff (texts results : List String) :
    List.Forall₂ (Replaces environment) texts results ↔
      (∀ text ∈ texts, Reference.missingIn environment text = []) ∧
        texts.map (Reference.filled environment) = results :=
  forall₂_iff_map (fun text result => @replaces_iff environment text result) texts results

theorem complete_append (front back : List (String × String)) :
    Complete environment (front ++ back) ↔
      Complete environment front ∧ Complete environment back :=
  List.forall_mem_append

theorem complete_textPlaces_iff (path : String) (texts : List String) :
    Complete environment (textPlaces path texts) ↔
      ∀ text ∈ texts, Reference.missingIn environment text = [] := by
  unfold Complete textPlaces
  rw [List.forall_mem_map]
  exact forall_mem_zipIdx_iff texts fun text => Reference.missingIn environment text = []

/-- A check filled in and completed, field by field. -/
theorem NamedCheck.withDefaults_filled (check : NamedCheck) :
    (check.filled environment).withDefaults =
      { name := Reference.filled environment check.name
        scope :=
          if Text.isBlankText (Reference.filled environment check.scope) then "/"
          else Reference.filled environment check.scope
        snapshot := Reference.filled environment check.snapshot
        requirement :=
          { actions := check.requirement.actions.map (Reference.filled environment)
            dataActions := check.requirement.dataActions.map (Reference.filled environment) }
      } := by
  unfold NamedCheck.withDefaults NamedCheck.filled
  by_cases blank : Text.isBlankText (Reference.filled environment check.scope)
  · simp only [blank, if_true]
    rfl
  · simp [blank]

variable (environment) in
theorem NamedCheck.prepares_iff (path : String) (check prepared : NamedCheck) :
    check.Prepares environment prepared ↔
      Complete environment (check.places path) ∧
        (check.filled environment).withDefaults = prepared := by
  have others : Complete environment
      [(path ++ ".name", check.name), (path ++ ".scope", check.scope),
        (path ++ ".snapshot", check.snapshot)] ↔
      Reference.missingIn environment check.name = [] ∧
        Reference.missingIn environment check.scope = [] ∧
          Reference.missingIn environment check.snapshot = [] := by
    simp [Complete]
  unfold NamedCheck.places
  rw [complete_append, complete_append, complete_textPlaces_iff, complete_textPlaces_iff, others,
    withDefaults_filled]
  constructor
  · rintro ⟨name, ⟨scope, replaced, rooted⟩, snapshot, actions, dataActions⟩
    obtain ⟨nameComplete, named⟩ := replaces_iff.mp name
    obtain ⟨scopeComplete, rfl⟩ := replaces_iff.mp replaced
    obtain ⟨snapshotComplete, found⟩ := replaces_iff.mp snapshot
    obtain ⟨actionsComplete, required⟩ := (forall₂_replaces_iff _ _).mp actions
    obtain ⟨dataComplete, dataRequired⟩ := (forall₂_replaces_iff _ _).mp dataActions
    refine ⟨⟨⟨actionsComplete, dataComplete⟩, nameComplete, scopeComplete, snapshotComplete⟩, ?_⟩
    rw [named, found, required, dataRequired, ← rooted]
  · rintro ⟨⟨⟨actions, dataActions⟩, name, scope, snapshot⟩, rfl⟩
    exact {
      name := replaces_iff.mpr ⟨name, rfl⟩
      scope := ⟨_, replaces_iff.mpr ⟨scope, rfl⟩, rfl⟩
      snapshot := replaces_iff.mpr ⟨snapshot, rfl⟩
      actions := (forall₂_replaces_iff _ _).mpr ⟨actions, rfl⟩
      dataActions := (forall₂_replaces_iff _ _).mpr ⟨dataActions, rfl⟩ }

theorem Logging.prepares_iff (logging prepared : Logging) :
    logging.Prepares environment prepared ↔
      Complete environment logging.places ∧
        (logging.filled environment).withDefaults = prepared := by
  have texts : Complete environment logging.places ↔
      (∀ dir ∈ logging.dir, Reference.missingIn environment dir = []) ∧
        ∀ level ∈ logging.level, Reference.missingIn environment level = [] := by
    unfold Logging.places
    rw [complete_append]
    simp [Complete]
  rw [texts]
  constructor
  · rintro ⟨⟨level, replaced, completed⟩, json, dir⟩
    obtain ⟨levelComplete, rfl⟩ := replacesSetting_iff.mp replaced
    obtain ⟨dirComplete, placed⟩ := replacesSetting_iff.mp dir
    refine ⟨⟨dirComplete, levelComplete⟩, ?_⟩
    have filledIn : some ((logging.level.map (Reference.filled environment)).getD defaultLevel) =
        prepared.level := completed.symm
    unfold Logging.filled Logging.withDefaults
    simp only [filledIn, placed, ← json]
  · rintro ⟨⟨dir, level⟩, rfl⟩
    exact {
      level := ⟨_, replacesSetting_iff.mpr ⟨level, rfl⟩, rfl⟩
      json := rfl
      dir := replacesSetting_iff.mpr ⟨dir, rfl⟩ }

/-- Whether a check is complete does not depend on where it stands. -/
theorem NamedCheck.complete_places_iff (path path' : String) (check : NamedCheck) :
    Complete environment (check.places path) ↔ Complete environment (check.places path') := by
  have prepares := check.prepares_iff environment path (check.filled environment).withDefaults
  have prepares' := check.prepares_iff environment path' (check.filled environment).withDefaults
  rw [and_iff_left rfl] at prepares prepares'
  rw [← prepares, prepares']

theorem Config.complete_places_iff (config : Config) :
    Complete environment config.places ↔
      (∀ check ∈ config.checks, Complete environment (check.places "")) ∧
        Complete environment (config.logging.getD {}).places := by
  have checks : Complete environment (config.checks.zipIdx.flatMap fun entry =>
      entry.1.places ("checks[" ++ toString entry.2 ++ "]")) ↔
        ∀ check ∈ config.checks, Complete environment (check.places "") := by
    rw [Complete, List.forall_mem_flatMap,
      ← forall_mem_zipIdx_iff config.checks fun check => Complete environment (check.places "")]
    exact forall₂_congr fun entry _ => entry.1.complete_places_iff _ _
  have logging : config.logging.toList.flatMap Logging.places =
      (config.logging.getD {}).places := by
    cases config.logging with
    | none => rfl
    | some logging => exact List.append_nil _
  unfold Config.places
  rw [complete_append, checks, logging]

theorem Config.eq_of_parts {config config' : Config} (logging : config.logging = config'.logging)
    (checks : config.checks = config'.checks) : config = config' := by
  cases config
  cases config'
  congr

theorem Config.prepares_iff (config prepared : Config) :
    config.Prepares environment prepared ↔
      Complete environment config.places ∧
        (config.filled environment).withDefaults = prepared := by
  have checks := forall₂_iff_map (NamedCheck.prepares_iff environment "") config.checks
    prepared.checks
  have logging : (config.filled environment).withDefaults.logging =
      some (((config.logging.getD {}).filled environment).withDefaults) := by
    unfold Config.filled Config.withDefaults
    cases config.logging <;> rfl
  have completed : (config.filled environment).withDefaults.checks =
      config.checks.map fun check => (check.filled environment).withDefaults := by
    unfold Config.filled Config.withDefaults
    rw [List.map_map]
    rfl
  rw [complete_places_iff]
  constructor
  · rintro ⟨prepares, settings, set, ofLogging⟩
    obtain ⟨complete, ofChecks⟩ := checks.mp prepares
    obtain ⟨loggingComplete, rfl⟩ := (Logging.prepares_iff _ _).mp ofLogging
    refine ⟨⟨complete, loggingComplete⟩, Config.eq_of_parts ?_ ?_⟩
    · rw [logging, set]
    · rw [completed, ofChecks]
  · rintro ⟨⟨complete, loggingComplete⟩, rfl⟩
    exact {
      checks := checks.mpr ⟨complete, completed.symm⟩
      logging := ⟨_, logging, (Logging.prepares_iff _ _).mpr ⟨loggingComplete, rfl⟩⟩ }

end Prepares

/-! ### The fields of what is prepared -/

section Prepared

variable (environment : Environment) (config : Config)

/-- The first variable that is missing is that of the first text which cannot be filled in. -/
theorem head?_missing_eq_some_iff (places : List (String × String)) (missing : MissingVariable) :
    (places.flatMap (Json.missingAt environment)).head? = some missing ↔
      ∃ before text after, places = before ++ (missing.path, text) :: after ∧
        (∀ place ∈ before, ∃ result, Replaces environment place.2 result) ∧
        Reference.substitute environment text = .error missing.name := by
  have told : ∀ place : String × String, (Json.missingAt environment place).head? = some missing ↔
      Reference.substitute environment place.2 = .error missing.name ∧ place.1 = missing.path := by
    intro place
    rw [Reference.substitute_eq_error_iff, Json.missingAt, List.head?_map, Option.map_eq_some_iff]
    constructor
    · rintro ⟨name, first, rfl⟩
      exact ⟨first, rfl⟩
    · rintro ⟨first, placed⟩
      exact ⟨missing.name, first, by rw [placed]⟩
  have untold : ∀ place : String × String, (Json.missingAt environment place).head? = none ↔
      ∃ result, Replaces environment place.2 result := by
    intro place
    rw [Json.missingAt, List.head?_eq_none_iff, List.map_eq_nil_iff]
    exact ⟨fun none => ⟨_, replaces_iff.mpr ⟨none, rfl⟩⟩,
      fun ⟨_, replaced⟩ => (replaces_iff.mp replaced).1⟩
  rw [List.head?_flatMap, List.findSome?_eq_some_iff]
  simp only [told, untold]
  constructor
  · rintro ⟨before, ⟨path, text⟩, after, split, ⟨refused, rfl⟩, passed⟩
    exact ⟨before, text, after, split, passed, refused⟩
  · rintro ⟨before, text, after, split, passed, refused⟩
    exact ⟨before, (missing.path, text), after, split, ⟨refused, rfl⟩, passed⟩

/-- What follows loading. -/
theorem prepare_value_eq (files : Files) (path : String) :
    (Config.prepare files environment path).value =
      (Config.load files path).value.bind fun loaded =>
        (loaded.resolve environment).map Config.prepared := by
  have following : ∀ loaded : Config, (do
      let resolved ← loaded.resolve environment
      pure resolved.prepared) = (loaded.resolve environment).map Config.prepared := by
    intro loaded
    cases loaded.resolve environment <;> rfl
  unfold Config.prepare
  simp only [following]
  rfl

theorem prepared_eq_settled :
    (config.resolve environment).map Config.prepared =
      settled ((config.places.flatMap (Json.missingAt environment)).map MissingVariable.failure)
        (config.filled environment).prepared := by
  rw [Config.resolve_eq_settled, settled_map]

/-- **After loading, preparing a configuration replaces the references of every text, completes what
has a default, and keeps all else and every order. It fails by a missing variable alone, and then by
that of the first text with one, which it tells with its path.** -/
theorem preparation_replaces_every_text :
    (∀ files path, (Config.prepare files environment path).value =
      (Config.load files path).value.bind fun loaded =>
        (loaded.resolve environment).map Config.prepared) ∧
    (∀ prepared, (config.resolve environment).map Config.prepared = .ok prepared ↔
      config.Prepares environment prepared.config ∧
        prepared.findings = findings prepared.config) ∧
    ∀ failure, (config.resolve environment).map Config.prepared = .error failure ↔
      ∃ before path text after name, config.places = before ++ (path, text) :: after ∧
        (∀ place ∈ before, ∃ result, Replaces environment place.2 result) ∧
        Reference.substitute environment text = .error name ∧
        failure =
          { account := "Failed to resolve env vars in config"
            causes := ["Missing env var \"" ++ name ++ "\" referenced at config path: " ++ path]
          } := by
  have complete : (config.places.flatMap (Json.missingAt environment)).map MissingVariable.failure =
      [] ↔ Complete environment config.places := by
    rw [List.map_eq_nil_iff, List.flatMap_eq_nil_iff]
    simp only [Json.missingAt, List.map_eq_nil_iff]
    rfl
  refine ⟨fun files path => ?_, fun prepared => ?_, fun failure => ?_⟩
  · exact prepare_value_eq environment files path
  · obtain ⟨preparedConfig, preparedFindings⟩ := prepared
    rw [prepared_eq_settled, settled_eq_ok_iff, complete, Config.prepares_iff, and_assoc,
      Config.prepared, Prepared.mk.injEq]
    refine and_congr_right fun _ => and_congr_right fun same => ?_
    rw [same, eq_comm]
  · rw [prepared_eq_settled, settled_eq_error_iff, List.head?_map, Option.map_eq_some_iff]
    simp only [head?_missing_eq_some_iff]
    constructor
    · rintro ⟨missing, ⟨before, text, after, split, passed, refused⟩, rfl⟩
      exact ⟨before, missing.path, text, after, missing.name, split, passed, refused, rfl⟩
    · rintro ⟨before, path, text, after, name, split, passed, refused, rfl⟩
      exact ⟨{ name, path }, ⟨before, text, after, split, passed, refused⟩, rfl⟩

end Prepared

/-! ### A check with references everywhere -/

/-- Every text of the check but its scope refers to a variable. -/
def referringConfig : Config where
  checks := [
    { name := "$\x7bNAME\x7d", scope := " ", snapshot := "$\x7bDIR\x7d/vault.json"
      requirement := { dataActions := ["read", "$\x7bDATA\x7d"] } }]

/-- The same with its variables, and with all that has a default. -/
def referredConfig : Config where
  logging := some { level := some "info", json := some false, dir := none }
  checks := [
    { name := "vault", scope := "/", snapshot := "/srv/vault.json"
      requirement := { dataActions := ["read", "Vault/get"] } }]

/-- The lists of a check are met before its name and its snapshot. Where two variables are missing
it is therefore the one in the list that is told, and with all of them the check is prepared. -/
theorem first_missing_reference_is_told :
    let known : Environment := .ofList [("NAME", "vault")]
    let complete : Environment :=
      .ofList [("NAME", "vault"), ("DATA", "Vault/get"), ("DIR", "/srv")]
    referringConfig.places = [
      ("checks[0].dataActions[0]", "read"), ("checks[0].dataActions[1]", "$\x7bDATA\x7d"),
      ("checks[0].name", "$\x7bNAME\x7d"), ("checks[0].scope", " "),
      ("checks[0].snapshot", "$\x7bDIR\x7d/vault.json")] ∧
    (referringConfig.resolve known).map Config.prepared =
      .error
        { account := "Failed to resolve env vars in config"
          causes :=
            ["Missing env var \"DATA\" referenced at config path: checks[0].dataActions[1]"] } ∧
    (referringConfig.resolve complete).map Config.prepared =
      .ok { config := referredConfig, findings := {} } ∧
    referringConfig.Prepares complete referredConfig := by
  intro known complete
  have places : referringConfig.places = [
      ("checks[0].dataActions[0]", "read"), ("checks[0].dataActions[1]", "$\x7bDATA\x7d"),
      ("checks[0].name", "$\x7bNAME\x7d"), ("checks[0].scope", " "),
      ("checks[0].snapshot", "$\x7bDIR\x7d/vault.json")] := by decide +kernel
  have prepared : (referringConfig.resolve complete).map Config.prepared =
      .ok { config := referredConfig, findings := {} } := by decide +kernel
  obtain ⟨-, -, refused⟩ := preparation_replaces_every_text known referringConfig
  obtain ⟨-, replaced, -⟩ := preparation_replaces_every_text complete referringConfig
  refine ⟨places, (refused _).mpr ?_, prepared, ((replaced _).mp prepared).1⟩
  refine ⟨[("checks[0].dataActions[0]", "read")], _, _, _, "DATA", places, ?_, ?_, ?_⟩
  · refine List.forall_mem_singleton.mpr ⟨"read", ?_⟩
    show Reference.substitute known "read" = .ok "read"
    decide +kernel
  · decide +kernel
  · decide

end AccessAudit
