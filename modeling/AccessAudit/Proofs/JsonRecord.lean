/-
**Records are read back from their JSON.**

A list is read back item by item, and a record by the names of its fields, so the order of the
fields makes no difference. The configuration is written in the order of its fields and read back
from the order of its keys; what is written of it in the one order is told here in the other.

* `Json.listOf?_map`, `Json.texts?_ofTexts`: lists are read back;
* `NamedCheck.sortedJson`, `Logging.sortedJson`, `Config.sortedJson`: the parts of a configuration
  with their keys in order;
* `Config.inKeyOrder_toJson`, `Config.ofJson?_sortedJson`: a configuration is written in this form
  and read back from it.
-/
import AccessAudit.Config.Json
import Mathlib.Data.List.Basic
import Mathlib.Data.String.Basic

namespace AccessAudit

/-! ### Lists -/

namespace Json

/-- A list is read back when each of its items is. -/
theorem listOf?_map {α : Type} {read? : Json → Option α} {write : α → Json} {values : List α}
    (back : ∀ value ∈ values, read? (write value) = some value) :
    listOf? read? (array (values.map write)) = some values := by
  show (values.map write).mapM read? = some values
  induction values with
  | nil => rfl
  | cons value rest ih =>
    rw [List.map_cons, List.mapM_cons, back value List.mem_cons_self,
      ih fun later inside => back later (List.mem_cons_of_mem value inside)]
    rfl

theorem texts?_ofTexts (texts : List String) : texts? (ofTexts texts) = some texts :=
  listOf?_map fun _ _ => rfl

/-- Items are put in order one by one. -/
theorem itemsInKeyOrder_map {α : Type} {write sorted : α → Json}
    (each : ∀ value, (write value).inKeyOrder = sorted value) (values : List α) :
    itemsInKeyOrder (values.map write) = values.map sorted := by
  induction values with
  | nil => rfl
  | cons value rest ih => rw [List.map_cons, itemsInKeyOrder, each, ih, List.map_cons]

theorem inKeyOrder_ofTexts (texts : List String) : (ofTexts texts).inKeyOrder = ofTexts texts := by
  have each : ∀ text, (string text).inKeyOrder = string text := fun _ => rfl
  rw [ofTexts, inKeyOrder, itemsInKeyOrder_map each]

theorem isDefinite_ofTexts (texts : List String) : (ofTexts texts).isDefinite := by
  rw [ofTexts, isDefinite]
  induction texts with
  | nil => rfl
  | cons text rest ih => exact ih

theorem depth_ofTexts (texts : List String) : (ofTexts texts).depth = 1 := by
  rw [ofTexts, depth]
  induction texts with
  | nil => rfl
  | cons text rest ih =>
    rw [List.map_cons, itemsDepth, depth, Nat.zero_max]
    · exact ih
    all_goals simp

end Json

/-! ### Checks -/

theorem Requirement.ofJson?_toJson (requirement : Requirement) :
    ofJson? requirement.toJson = some requirement := by
  simp [ofJson?, toJson, Json.fieldsOf?, Json.listField?, Json.field?, Json.texts?_ofTexts]

namespace NamedCheck

/-- A check in JSON with its keys in order. -/
def sortedJson (check : NamedCheck) : Json :=
  .object
    [("actions", .ofTexts check.requirement.actions),
      ("dataActions", .ofTexts check.requirement.dataActions), ("name", .string check.name),
      ("scope", .string check.scope), ("snapshot", .string check.snapshot)]

theorem inKeyOrder_toJson (check : NamedCheck) : check.toJson.inKeyOrder = check.sortedJson := by
  simp only [toJson, sortedJson, Json.inKeyOrder, Json.membersInKeyOrder, Json.inKeyOrder_ofTexts,
    Text.sortedEntries, Text.insertEntry, List.foldl, String.reduceLT, String.reduceEq, if_true,
    if_false]

theorem mayHold_ofTexts (texts : List String) : mayHold (.ofTexts texts) := by
  unfold mayHold
  rw [Json.isDefinite_ofTexts, Json.depth_ofTexts]
  rfl

theorem ofJson?_sortedJson (check : NamedCheck) : ofJson? check.sortedJson = some check := by
  have requirement : Requirement.ofJson? (.object
      [("actions", .ofTexts check.requirement.actions),
        ("dataActions", .ofTexts check.requirement.dataActions)]) = some check.requirement :=
    check.requirement.ofJson?_toJson
  unfold ofJson? sortedJson guard
  simp [ownFields, textField?, Json.field?, Json.text?, mayHold_ofTexts, requirement]

end NamedCheck

/-! ### Settings of the log -/

namespace Logging

/-- The settings of the log in JSON with their keys in order. -/
def sortedJson (logging : Logging) : Json :=
  .object <|
    Json.memberOf "dir" .string logging.dir ++ Json.memberOf "json" .bool logging.json ++
      Json.memberOf "level" .string logging.level

theorem inKeyOrder_toJson (logging : Logging) :
    logging.toJson.inKeyOrder = logging.sortedJson := by
  obtain ⟨level, json, dir⟩ := logging
  cases level <;> cases json <;> cases dir <;>
    simp only [toJson, sortedJson, Json.memberOf, Json.inKeyOrder, Json.membersInKeyOrder,
      Text.sortedEntries, Text.insertEntry, List.foldl, List.cons_append, List.nil_append,
      String.reduceLT, String.reduceEq, if_true, if_false]

theorem ofJson?_sortedJson (logging : Logging) : ofJson? logging.sortedJson = some logging := by
  obtain ⟨level, json, dir⟩ := logging
  cases level <;> cases json <;> cases dir <;>
    simp [ofJson?, sortedJson, Json.memberOf, Json.fieldsOf?, Json.optionalField?, Json.field?,
      Json.text?, Json.bool?]

end Logging

/-! ### Whole configurations -/

namespace Config

/-- A configuration in JSON with the keys of all its parts in order. -/
def sortedJson (config : Config) : Json :=
  .object <|
    ("checks", .array (config.checks.map NamedCheck.sortedJson)) ::
      Json.memberOf "logging" Logging.sortedJson config.logging

/-- **Put in the order of its keys, a configuration takes its sorted form.** -/
theorem inKeyOrder_toJson (config : Config) : config.toJson.inKeyOrder = config.sortedJson := by
  obtain ⟨logging, checks⟩ := config
  cases logging <;>
    simp only [toJson, sortedJson, Json.memberOf, Json.inKeyOrder, Json.membersInKeyOrder,
      Json.itemsInKeyOrder_map NamedCheck.inKeyOrder_toJson, Logging.inKeyOrder_toJson,
      Text.sortedEntries, Text.insertEntry, List.foldl, List.cons_append, List.nil_append,
      String.reduceLT, String.reduceEq, if_true, if_false]

/-- **A configuration is read back from its sorted form.** -/
theorem ofJson?_sortedJson (config : Config) : ofJson? config.sortedJson = some config := by
  obtain ⟨logging, checks⟩ := config
  have read : Json.listOf? NamedCheck.ofJson? (.array (checks.map NamedCheck.sortedJson)) =
      some checks := Json.listOf?_map fun check _ => NamedCheck.ofJson?_sortedJson check
  cases logging with
  | none =>
    simp [ofJson?, sortedJson, Json.memberOf, Json.fieldsOf?, Json.optionalField?, Json.listField?,
      Json.field?, read]
  | some logging =>
    have kept : Json.optionalField? Logging.ofJson? "logging"
        [("checks", .array (checks.map NamedCheck.sortedJson)), ("logging", logging.sortedJson)] =
          some (some logging) := by
      have found : Json.field? "logging" [("checks", .array (checks.map NamedCheck.sortedJson)),
          ("logging", logging.sortedJson)] = some (some logging.sortedJson) := by
        simp [Json.field?]
      rw [Json.optionalField?, found]
      show (Logging.ofJson? logging.sortedJson).bind _ = _
      rw [Logging.ofJson?_sortedJson]
      rfl
    simp [ofJson?, sortedJson, Json.memberOf, Json.fieldsOf?, Json.listField?, Json.field?, read,
      kept]

end Config

end AccessAudit
