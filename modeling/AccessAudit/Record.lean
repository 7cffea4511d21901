/-
**Records of the authorization service, and what is required.**

The service delivers the role assignments and the deny assignments that apply to one principal at
one scope. Every field of a record may be missing as delivered: a missing list is not an empty one,
and it is for the rules to refuse a record that lacks a field they need.

* `PermissionBlock`: the four pattern lists of one block, two for each domain;
* `RoleAssignment`, `DenyAssignment`: the records, with the blocks of each;
* `Snapshot`: all records for a principal at a scope;
* `Requirement`: the actions that the principal has to hold.
-/
import AccessAudit.Domain

namespace AccessAudit

/-- One permission block of a role definition or of a deny assignment. -/
structure PermissionBlock where
  actions : Option (List String) := none
  notActions : Option (List String) := none
  dataActions : Option (List String) := none
  notDataActions : Option (List String) := none
  deriving DecidableEq, Repr

namespace PermissionBlock

/-- The patterns that the block lists in a domain. -/
def actionsIn (block : PermissionBlock) : Domain → Option (List String)
  | .control => block.actions
  | .data => block.dataActions

/-- The patterns that the block leaves out in a domain. -/
def exceptionsIn (block : PermissionBlock) : Domain → Option (List String)
  | .control => block.notActions
  | .data => block.notDataActions

end PermissionBlock

/-- A role that the principal holds, with the permission blocks of its definition. -/
structure RoleAssignment where
  id : Option String := none
  roleDefinitionId : Option String := none
  roleName : Option String := none
  permissions : Option (List PermissionBlock) := none
  deriving DecidableEq, Repr

/-- A record that denies actions to the principal. -/
structure DenyAssignment where
  id : Option String := none
  denyAssignmentName : Option String := none
  permissions : Option (List PermissionBlock) := none
  deriving DecidableEq, Repr

/-- All records that apply to one principal at one scope. -/
structure Snapshot where
  roleAssignments : List RoleAssignment := []
  denyAssignments : List DenyAssignment := []
  deriving DecidableEq, Repr

/-- The actions that a principal has to hold, for each domain. -/
structure Requirement where
  actions : List String := []
  dataActions : List String := []
  deriving DecidableEq, Repr

/-- The required actions of one domain. -/
def Requirement.inDomain (requirement : Requirement) : Domain → List String
  | .control => requirement.actions
  | .data => requirement.dataActions

end AccessAudit
