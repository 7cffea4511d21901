/-
**Rules made of records.**

A rule is one permission block seen from one domain: the patterns it covers less its own
exceptions. The blocks of role assignments grant, those of deny assignments deny, and a denial
keeps the identifier of its record. A record that lacks a field is refused, with the first gap in
the order of the records: a missing list is never read as an empty one.

* `Coverage.via?`: the pattern by which a block covers an action;
* `Snapshot.grants?`, `Snapshot.denials?`: the rules of a snapshot in one domain, or the first gap;
* `Gap.message`: the words for a missing field.
-/
import AccessAudit.Pattern
import AccessAudit.Record

namespace AccessAudit

/-- The patterns of one permission block in one domain, and its own exceptions. -/
structure Coverage where
  actions : List String := []
  exceptions : List String := []
  deriving DecidableEq, Repr

/-- The first pattern that covers the action, unless one of the exceptions covers it. -/
def Coverage.via? (coverage : Coverage) (action : String) : Option String :=
  if Pattern.coversAny coverage.exceptions action then none
  else Pattern.firstCovering? coverage.actions action

/-- What a deny assignment blocks, under the identifier of its record. -/
structure Denial where
  id : String
  coverage : Coverage
  deriving DecidableEq, Repr

/-- The rules of one domain. -/
structure RuleSet where
  grants : List Coverage := []
  denials : List Denial := []
  deriving DecidableEq, Repr

/-! ### Gaps -/

/-- A field that a record lacks. -/
structure Gap where
  record : String
  field : String
  deriving DecidableEq, Repr

/-- The words for a missing field. -/
def Gap.message (gap : Gap) : String :=
  gap.record ++ " is missing required field '" ++ gap.field ++ "'"

/-- The value of a field that a record needs. -/
def required {α : Type} (record field : String) : Option α → Except Gap α
  | some value => .ok value
  | none => .error { record, field }

/-! ### From records to rules -/

/-- What a block covers in a domain; both lists have to be there. -/
def PermissionBlock.coverage? (domain : Domain) (label : String) (block : PermissionBlock) :
    Except Gap Coverage := do
  let actions ← required label domain.actionsField (block.actionsIn domain)
  let exceptions ← required label domain.exceptionsField (block.exceptionsIn domain)
  return { actions, exceptions }

/-- What the blocks of one record cover, each block under its index. -/
def coverages? (domain : Domain) (label : String) (permissions : Option (List PermissionBlock)) :
    Except Gap (List Coverage) := do
  let blocks ← required label "permissions" permissions
  blocks.zipIdx.mapM fun (block, index) =>
    block.coverage? domain (label ++ " permission[" ++ toString index ++ "]")

/-- What messages call a role assignment: by its identifier, else by its role definition, else by
its position. -/
def RoleAssignment.label (assignment : RoleAssignment) (index : Nat) : String :=
  match assignment.id <|> assignment.roleDefinitionId with
  | some name => "role assignment " ++ name
  | none => "role assignment #" ++ toString index

/-- One grant for each block of a role assignment. -/
def RoleAssignment.grants? (domain : Domain) (index : Nat) (assignment : RoleAssignment) :
    Except Gap (List Coverage) :=
  coverages? domain (assignment.label index) assignment.permissions

/-- One denial for each block of a deny assignment, which has to have an identifier. -/
def DenyAssignment.denials? (domain : Domain) (index : Nat) (assignment : DenyAssignment) :
    Except Gap (List Denial) := do
  let id ← required ("deny assignment #" ++ toString index) "id" assignment.id
  let coverages ← coverages? domain ("deny assignment " ++ id) assignment.permissions
  return coverages.map fun coverage => { id, coverage }

/-- The grants of role assignments, in the order of the records and of their blocks. -/
def grantsOf? (domain : Domain) (assignments : List RoleAssignment) :
    Except Gap (List Coverage) := do
  let grants ← assignments.zipIdx.mapM fun (assignment, index) => assignment.grants? domain index
  return grants.flatten

/-- The denials of deny assignments, in the order of the records and of their blocks. -/
def denialsOf? (domain : Domain) (assignments : List DenyAssignment) :
    Except Gap (List Denial) := do
  let denials ← assignments.zipIdx.mapM fun (assignment, index) =>
    assignment.denials? domain index
  return denials.flatten

/-- The rules of a snapshot in one domain; a gap of a role assignment comes first. -/
def Snapshot.rules? (domain : Domain) (snapshot : Snapshot) : Except Gap RuleSet := do
  let grants ← grantsOf? domain snapshot.roleAssignments
  let denials ← denialsOf? domain snapshot.denyAssignments
  return { grants, denials }

end AccessAudit
