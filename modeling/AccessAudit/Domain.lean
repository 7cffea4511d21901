/-
**The two domains of actions.**

Control actions manage a resource and data actions reach what it holds. They live in separate
namespaces: each permission block lists the two apart, and each is judged against the rules of its
own domain only.

* `Domain.label`: how messages call an action of the domain;
* `Domain.actionsField`, `Domain.exceptionsField`: the fields of a block that list its patterns;
* `Domain.forall_iff`: there is no third domain.
-/

namespace AccessAudit

/-- A namespace of actions. -/
inductive Domain where
  /-- Actions that manage a resource. -/
  | control
  /-- Actions on what a resource holds. -/
  | data
  deriving DecidableEq, Repr

namespace Domain

/-- What messages call an action of the domain. -/
def label : Domain → String
  | control => "Action"
  | data => "DataAction"

/-- The field that lists the patterns a block is about. -/
def actionsField : Domain → String
  | control => "actions"
  | data => "dataActions"

/-- The field that lists the patterns a block leaves out. -/
def exceptionsField : Domain → String
  | control => "notActions"
  | data => "notDataActions"

/-- What holds in both domains holds in every domain. -/
theorem forall_iff (holds : Domain → Prop) :
    (∀ domain, holds domain) ↔ holds .control ∧ holds .data := by
  constructor
  · exact fun each => ⟨each .control, each .data⟩
  · rintro ⟨control, data⟩ domain
    cases domain
    · exact control
    · exact data

end Domain

end AccessAudit
