/-
**Configurations in JSON.**

Like the records of a snapshot, except that a check comes as an object only: the fields of its
requirement stand beside its own. What a check holds under unknown keys is passed over, but it has
to be definite and not nested too deep.

* `Logging.ofJson?`, `NamedCheck.ofJson?`, `Config.ofJson?`: from JSON;
* the functions `toJson` of the same types: to JSON, missing settings left out;
* `Config.parse?`: a configuration from a text.
-/
import AccessAudit.Config.Basic
import AccessAudit.Json.Reader
import AccessAudit.Record.Json

namespace AccessAudit

namespace Logging

/-- The settings of the log from JSON; each may be missing or null. -/
def ofJson? (json : Json) : Option Logging := do
  let fields ← json.fieldsOf? ["level", "json", "dir"]
  let level ← Json.optionalField? Json.text? "level" fields
  let layout ← Json.optionalField? Json.bool? "json" fields
  let dir ← Json.optionalField? Json.text? "dir" fields
  return { level, json := layout, dir }

/-- The settings of the log in JSON; a missing one is left out. -/
def toJson (logging : Logging) : Json :=
  .object <|
    Json.memberOf "level" .string logging.level ++ Json.memberOf "json" .bool logging.json ++
      Json.memberOf "dir" .string logging.dir

end Logging

namespace NamedCheck

/-- How deep a value inside a check may be nested: the whole text may be nested 127 deep, and the
check is the third level of it. -/
def nestingLimit : Nat := 124

/-- A value that a check may hold under a key that is not one of its own fields. -/
def mayHold (value : Json) : Bool :=
  value.isDefinite && value.depth ≤ nestingLimit

/-- A text that may be missing but not null. -/
def textField? (name : String) (members : List (String × Json)) : Option String := do
  match ← Json.field? name members with
  | none => return ""
  | some value => Json.text? value

/-- A check from JSON. It has to have a name; its other fields may be missing but not null. -/
def ofJson? : Json → Option NamedCheck
  | .object members => do
    let others := members.filter fun member => !ownFields.contains member.1
    guard (others.all fun member => mayHold member.2)
    let name ← (← Json.field? "name" members).bind Json.text?
    let scope ← textField? "scope" members
    let snapshot ← textField? "snapshot" members
    let requirement ← Requirement.ofJson? (.object others)
    return { name, scope, snapshot, requirement }
  | _ => none

/-- A check in JSON. -/
def toJson (check : NamedCheck) : Json :=
  .object
    [("name", .string check.name), ("scope", .string check.scope),
      ("snapshot", .string check.snapshot), ("actions", .ofTexts check.requirement.actions),
      ("dataActions", .ofTexts check.requirement.dataActions)]

end NamedCheck

namespace Config

/-- A configuration from JSON; the settings of the log may be missing or null, the checks may be
missing but not null. -/
def ofJson? (json : Json) : Option Config := do
  let fields ← json.fieldsOf? ["logging", "checks"]
  let logging ← Json.optionalField? Logging.ofJson? "logging" fields
  let checks ← Json.listField? (Json.listOf? NamedCheck.ofJson?) "checks" fields
  return { logging, checks }

/-- A configuration in JSON. -/
def toJson (config : Config) : Json :=
  .object <|
    Json.memberOf "logging" Logging.toJson config.logging ++
      [("checks", .array (config.checks.map NamedCheck.toJson))]

/-- A configuration from a text. -/
def parse? (text : String) : Option Config :=
  (Json.parse? text).bind ofJson?

end Config

end AccessAudit
