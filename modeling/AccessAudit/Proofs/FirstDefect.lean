/-
**The first defect decides.**

Records and texts are looked at in a fixed order, and whoever looks stops at the first thing that is
wrong. What comes of it is known by two things: everything that is wrong, in the order in which it
would be met, and the value that is there when nothing is wrong.

* `settled`: the value, unless there is a defect, and then the first one;
* `settled_eq_ok_iff`, `settled_eq_error_iff`: when there is a value and which defect is told;
* `settled_bind`, `mapM_settled`, `forM_settled`: the defects of what is done in several steps are
  those of the steps, one after the other.
-/

namespace AccessAudit

section Settled

variable {ε α β : Type}

/-- The value, unless there is a defect: then the first one. -/
def settled : List ε → α → Except ε α
  | [], value => .ok value
  | first :: _, _ => .error first

theorem settled_nil (value : α) : settled ([] : List ε) value = .ok value := rfl

/-- There is a value exactly when there is no defect. -/
theorem settled_eq_ok_iff (defects : List ε) (value result : α) :
    settled defects value = .ok result ↔ defects = [] ∧ value = result := by
  cases defects with
  | nil => simp [settled]
  | cons first rest => simp [settled]

/-- The defect that is told is the first one. -/
theorem settled_eq_error_iff (defects : List ε) (value : α) (error : ε) :
    settled defects value = .error error ↔ defects.head? = some error := by
  cases defects with
  | nil => simp [settled]
  | cons first rest => simp [settled]

theorem settled_map (defects : List ε) (value : α) (f : α → β) :
    (settled defects value).map f = settled defects (f value) := by
  cases defects with
  | nil => rfl
  | cons first rest => rfl

/-- The defects of a second step come after those of the first. -/
theorem settled_bind (defects : List ε) (value : α) (later : α → List ε) (next : α → β) :
    (settled defects value >>= fun found => settled (later found) (next found)) =
      settled (defects ++ later value) (next value) := by
  cases defects with
  | nil => rfl
  | cons first rest => rfl

/-- A last step without defects changes the value alone. -/
theorem settled_bind_pure (defects : List ε) (value : α) (next : α → β) :
    (settled defects value >>= fun found => pure (next found)) =
      settled defects (next value) := by
  cases defects with
  | nil => rfl
  | cons first rest => rfl

/-- The items of a list are settled one after the other. -/
theorem mapM_settled (items : List α) (defects : α → List ε) (value : α → β) :
    (items.mapM fun item => settled (defects item) (value item)) =
      settled (items.flatMap defects) (items.map value) := by
  induction items with
  | nil => rfl
  | cons item rest ih =>
    rw [List.mapM_cons, ih]
    simp only [settled_bind_pure, settled_bind]
    rfl

/-- The items of a list are looked at one after the other. -/
theorem forM_settled (items : List α) (defects : α → List ε) :
    (items.forM fun item => settled (defects item) ()) =
      settled (items.flatMap defects) () := by
  induction items with
  | nil => rfl
  | cons item rest ih =>
    have step : ((item :: rest).forM fun item => settled (defects item) ()) =
        (settled (defects item) () >>= fun _ =>
          rest.forM fun item => settled (defects item) ()) := rfl
    rw [step, ih, settled_bind]
    rfl

end Settled

end AccessAudit
