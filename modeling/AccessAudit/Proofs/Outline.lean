/-
**Lists in the order of an outline.**

Whoever looks through nested data meets what is in it in the order of an outline. Each thing has a
number of several parts, as in the outline of a book, and the first part in which two numbers differ
decides which thing comes first. A list that holds, in this order, everything that has a property is
known by the property and the numbers alone, and its first entry is the one that no other entry
comes before.

* `Outlines`: a list holds, in the order of their numbers, the entries with a property;
* `lt_of_lead`: how two numbers compare;
* `Outlines.append`, `Outlines.map`, `outlines_flatMap_zipIdx`: outlines made of others;
* `Outlines.head?_eq_some_iff`, `Outlines.eq_nil_iff`: the first entry, and when there is none;
* `Outlines.unique`: there is one list for each property.
-/
import Mathlib.Data.List.Sort

namespace AccessAudit

/-- The list holds the entries with a property, each once, in the order of their numbers. -/
structure Outlines {α : Type} (number : α → List Nat) (entries : List α) (holds : α → Prop) :
    Prop where
  mem_iff : ∀ entry, entry ∈ entries ↔ holds entry
  ordered : entries.Pairwise fun entry later => number entry < number later

variable {α β : Type} {number : α → List Nat} {entries entries' : List α} {holds holds' : α → Prop}

/-- The first part in which two numbers differ decides. -/
theorem lt_of_lead (lead : List Nat) {part part' : Nat} (smaller : part < part')
    (rest rest' : List Nat) : lead ++ part :: rest < lead ++ part' :: rest' :=
  List.append_left_lt (List.cons_lt_cons_iff.mpr (.inl smaller))

/-! ### Outlines made of others -/

/-- An entry that is listed when a condition holds. -/
theorem outlines_if (condition : Prop) [Decidable condition] (entry : α) :
    Outlines number (if condition then [entry] else []) fun other =>
      condition ∧ other = entry where
  mem_iff other := by
    by_cases met : condition
    · rw [if_pos met, List.mem_singleton, and_iff_right met]
    · rw [if_neg met]
      exact iff_of_false List.not_mem_nil fun both => met both.1
  ordered := by
    split
    · exact List.pairwise_singleton _ _
    · exact .nil

namespace Outlines

theorem of_iff (outlines : Outlines number entries holds)
    (same : ∀ entry, holds entry ↔ holds' entry) : Outlines number entries holds' where
  mem_iff entry := (outlines.mem_iff entry).trans (same entry)
  ordered := outlines.ordered

/-- One outline after another, when the first one has the smaller numbers. -/
theorem append (first : Outlines number entries holds) (second : Outlines number entries' holds')
    (before : ∀ entry later, holds entry → holds' later → number entry < number later) :
    Outlines number (entries ++ entries') fun entry => holds entry ∨ holds' entry where
  mem_iff entry := by rw [List.mem_append, first.mem_iff, second.mem_iff]
  ordered := by
    refine List.pairwise_append.mpr ⟨first.ordered, second.ordered, fun entry inside later after =>
      before entry later ?_ ?_⟩
    · exact (first.mem_iff entry).mp inside
    · exact (second.mem_iff later).mp after

/-- The entries of an outline under other numbers in the same order. -/
theorem map {number' : β → List Nat} (outlines : Outlines number entries holds) (f : α → β)
    (kept : ∀ entry later, number entry < number later → number' (f entry) < number' (f later)) :
    Outlines number' (entries.map f) fun image => ∃ entry, holds entry ∧ f entry = image where
  mem_iff image := by
    rw [List.mem_map]
    exact exists_congr fun entry => and_congr_left fun _ => outlines.mem_iff entry
  ordered := List.pairwise_map.mpr (outlines.ordered.imp fun {entry later} => kept entry later)

end Outlines

/-- The items of a list come in the order of their indices. -/
theorem pairwise_zipIdx (items : List β) :
    items.zipIdx.Pairwise fun pair pair' => pair.2 < pair'.2 := by
  have ascending := List.pairwise_lt_range' (s := 0) (n := items.length) 1
  rw [← List.zipIdx_map_snd, List.pairwise_map] at ascending
  exact ascending

/-- The outlines of the items of a list, when the items in front have the smaller numbers. -/
theorem outlines_flatMap_zipIdx (items : List β) {parts : β → Nat → List α}
    {holds : β → Nat → α → Prop}
    (each : ∀ item index, Outlines number (parts item index) (holds item index))
    (before : ∀ item item' index index' entry later, index < index' → holds item index entry →
      holds item' index' later → number entry < number later) :
    Outlines number (items.zipIdx.flatMap fun pair => parts pair.1 pair.2) fun entry =>
      ∃ index item, items[index]? = some item ∧ holds item index entry where
  mem_iff entry := by
    rw [List.mem_flatMap, Prod.exists, exists_comm]
    refine exists_congr fun index => exists_congr fun item => and_congr ?_ ?_
    · exact List.mem_zipIdx_iff_getElem?
    · exact (each item index).mem_iff entry
  ordered := by
    rw [List.pairwise_flatMap]
    refine ⟨fun pair _ => (each pair.1 pair.2).ordered, ?_⟩
    refine (pairwise_zipIdx items).imp fun {pair pair'} smaller entry inside later inside' => ?_
    exact before pair.1 pair'.1 pair.2 pair'.2 entry later smaller
      ((each pair.1 pair.2).mem_iff entry |>.mp inside)
      ((each pair'.1 pair'.2).mem_iff later |>.mp inside')

/-! ### What is known of an outline -/

namespace Outlines

theorem eq_nil_iff (outlines : Outlines number entries holds) :
    entries = [] ↔ ∀ entry, ¬ holds entry := by
  rw [List.eq_nil_iff_forall_not_mem]
  exact forall_congr' fun entry => not_congr (outlines.mem_iff entry)

/-- **The first entry of an outline is the one that no other entry comes before.** -/
theorem head?_eq_some_iff (outlines : Outlines number entries holds) (entry : α) :
    entries.head? = some entry ↔
      holds entry ∧ ∀ other, holds other → ¬ number other < number entry := by
  rw [← outlines.mem_iff]
  simp only [← outlines.mem_iff]
  cases entries with
  | nil => simp
  | cons first rest =>
    obtain ⟨behind, -⟩ := List.pairwise_cons.mp outlines.ordered
    rw [List.head?_cons, Option.some.injEq]
    constructor
    · rintro rfl
      refine ⟨List.mem_cons_self, fun other inside => ?_⟩
      rcases List.mem_cons.mp inside with rfl | later
      · exact List.lt_irrefl _
      · exact List.lt_asymm (behind other later)
    · rintro ⟨inside, least⟩
      rcases List.mem_cons.mp inside with same | later
      · exact same.symm
      · exact absurd (behind entry later) (least first List.mem_cons_self)

/-- **There is one list only that holds the entries with a property in order.** -/
theorem unique (outlines : Outlines number entries holds)
    (outlines' : Outlines number entries' holds) : entries = entries' := by
  have irreflexive : Std.Irrefl fun entry later : α => number entry < number later :=
    ⟨fun entry => List.lt_irrefl (number entry)⟩
  have antisymmetric : Std.Antisymm fun entry later : α => number entry < number later :=
    ⟨fun _ _ before after => absurd after (List.lt_asymm before)⟩
  refine outlines.ordered.eq_of_mem_iff outlines'.ordered fun entry => ?_
  rw [outlines.mem_iff, outlines'.mem_iff]

end Outlines

end AccessAudit
