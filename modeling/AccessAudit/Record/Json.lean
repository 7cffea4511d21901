/-
**Records of the authorization service in JSON.**

The keys are the field names. Reading and writing agree: what is written is read back as it was,
and a missing list stays apart from an empty one.

* `PermissionBlock.ofJson?`, `RoleAssignment.ofJson?`, `DenyAssignment.ofJson?`,
  `Snapshot.ofJson?`, `Requirement.ofJson?`: records from JSON;
* the functions `toJson` of the same types: records to JSON;
* `Snapshot.parse?`: a snapshot from a text.
-/
import AccessAudit.Json.Reader
import AccessAudit.Json.Record
import AccessAudit.Record

namespace AccessAudit

namespace PermissionBlock

/-- A block from JSON; each list may be missing or null. -/
def ofJson? (json : Json) : Option PermissionBlock := do
  let fields ← json.fieldsOf? ["actions", "notActions", "dataActions", "notDataActions"]
  let actions ← Json.optionalField? Json.texts? "actions" fields
  let notActions ← Json.optionalField? Json.texts? "notActions" fields
  let dataActions ← Json.optionalField? Json.texts? "dataActions" fields
  let notDataActions ← Json.optionalField? Json.texts? "notDataActions" fields
  return { actions, notActions, dataActions, notDataActions }

/-- A block in JSON; a missing list is null. -/
def toJson (block : PermissionBlock) : Json :=
  .object
    [("actions", .ofTexts? block.actions), ("notActions", .ofTexts? block.notActions),
      ("dataActions", .ofTexts? block.dataActions),
      ("notDataActions", .ofTexts? block.notDataActions)]

/-- The blocks of a record in JSON; a missing list is null. -/
def listToJson : Option (List PermissionBlock) → Json
  | some blocks => .array (blocks.map toJson)
  | none => .null

end PermissionBlock

namespace RoleAssignment

/-- A role assignment from JSON; each field may be missing or null. -/
def ofJson? (json : Json) : Option RoleAssignment := do
  let fields ← json.fieldsOf? ["id", "roleDefinitionId", "roleName", "permissions"]
  let id ← Json.optionalField? Json.text? "id" fields
  let roleDefinitionId ← Json.optionalField? Json.text? "roleDefinitionId" fields
  let roleName ← Json.optionalField? Json.text? "roleName" fields
  let permissions ←
    Json.optionalField? (Json.listOf? PermissionBlock.ofJson?) "permissions" fields
  return { id, roleDefinitionId, roleName, permissions }

/-- A role assignment in JSON; missing texts are left out. -/
def toJson (assignment : RoleAssignment) : Json :=
  .object <|
    Json.memberOf "id" .string assignment.id ++
      Json.memberOf "roleDefinitionId" .string assignment.roleDefinitionId ++
      Json.memberOf "roleName" .string assignment.roleName ++
      [("permissions", PermissionBlock.listToJson assignment.permissions)]

end RoleAssignment

namespace DenyAssignment

/-- A deny assignment from JSON; each field may be missing or null. -/
def ofJson? (json : Json) : Option DenyAssignment := do
  let fields ← json.fieldsOf? ["id", "denyAssignmentName", "permissions"]
  let id ← Json.optionalField? Json.text? "id" fields
  let denyAssignmentName ← Json.optionalField? Json.text? "denyAssignmentName" fields
  let permissions ←
    Json.optionalField? (Json.listOf? PermissionBlock.ofJson?) "permissions" fields
  return { id, denyAssignmentName, permissions }

/-- A deny assignment in JSON; a missing identifier is null and a missing name is left out. -/
def toJson (assignment : DenyAssignment) : Json :=
  .object <|
    [("id", .ofText? assignment.id)] ++
      Json.memberOf "denyAssignmentName" .string assignment.denyAssignmentName ++
      [("permissions", PermissionBlock.listToJson assignment.permissions)]

end DenyAssignment

namespace Snapshot

/-- A snapshot from JSON; either list may be missing but not null. -/
def ofJson? (json : Json) : Option Snapshot := do
  let fields ← json.fieldsOf? ["roleAssignments", "denyAssignments"]
  let roleAssignments ←
    Json.listField? (Json.listOf? RoleAssignment.ofJson?) "roleAssignments" fields
  let denyAssignments ←
    Json.listField? (Json.listOf? DenyAssignment.ofJson?) "denyAssignments" fields
  return { roleAssignments, denyAssignments }

/-- A snapshot in JSON. -/
def toJson (snapshot : Snapshot) : Json :=
  .object
    [("roleAssignments", .array (snapshot.roleAssignments.map RoleAssignment.toJson)),
      ("denyAssignments", .array (snapshot.denyAssignments.map DenyAssignment.toJson))]

/-- A snapshot from a text. -/
def parse? (text : String) : Option Snapshot :=
  (Json.parse? text).bind ofJson?

end Snapshot

namespace Requirement

/-- A requirement from JSON; either list may be missing but not null. -/
def ofJson? (json : Json) : Option Requirement := do
  let fields ← json.fieldsOf? ["actions", "dataActions"]
  let actions ← Json.listField? Json.texts? "actions" fields
  let dataActions ← Json.listField? Json.texts? "dataActions" fields
  return { actions, dataActions }

/-- A requirement in JSON. -/
def toJson (requirement : Requirement) : Json :=
  .object
    [("actions", .ofTexts requirement.actions), ("dataActions", .ofTexts requirement.dataActions)]

end Requirement

end AccessAudit
