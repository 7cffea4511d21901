/-
**Texts kept in order.**

The sets of actions that a report shows are sorted by code point, which is also the order of their
bytes in UTF-8, and hold each action once. Both containers are plain lists with one insertion each,
and an insertion keeps an ascending list ascending.

* `insertText`, `sortedTexts`: a set of texts;
* `insertEntry`, `sortedEntries`: texts with a value each, where a later value replaces an earlier
  one;
* `sortedTexts_ascending`, `keys_sortedEntries_ascending`: what comes out is in ascending order.
-/

namespace AccessAudit.Text

/-! ### Sets of texts -/

/-- Put a text at its place in a sorted list, unless it is there already. -/
def insertText (text : String) : List String → List String
  | [] => [text]
  | first :: rest =>
    if text < first then text :: first :: rest
    else if text = first then first :: rest
    else first :: insertText text rest

/-- The distinct texts of a list in ascending order. -/
def sortedTexts (texts : List String) : List String :=
  texts.foldl (fun sorted text => insertText text sorted) []

theorem mem_insertText (member text : String) (texts : List String) :
    member ∈ insertText text texts ↔ member = text ∨ member ∈ texts := by
  induction texts with
  | nil => simp [insertText]
  | cons first rest ih =>
    unfold insertText
    by_cases before : text < first
    · rw [if_pos before, List.mem_cons]
    · by_cases same : text = first
      · subst same
        rw [if_neg before, if_pos rfl, List.mem_cons, ← or_assoc, or_self]
      · rw [if_neg before, if_neg same, List.mem_cons, List.mem_cons, ih]
        exact or_left_comm

/-- Inserting keeps a list ascending. -/
theorem ascending_insertText (text : String) (texts : List String)
    (ascending : texts.Pairwise (· < ·)) : (insertText text texts).Pairwise (· < ·) := by
  induction texts with
  | nil => exact List.pairwise_singleton _ _
  | cons first rest ih =>
    obtain ⟨below, restAscending⟩ := List.pairwise_cons.mp ascending
    unfold insertText
    by_cases before : text < first
    · rw [if_pos before]
      refine List.pairwise_cons.mpr ⟨fun member inside => ?_, ascending⟩
      rcases List.mem_cons.mp inside with rfl | later
      · exact before
      · exact String.lt_trans before (below member later)
    · by_cases same : text = first
      · rw [if_neg before, if_pos same]
        exact ascending
      · rw [if_neg before, if_neg same]
        refine List.pairwise_cons.mpr ⟨fun member inside => ?_, ih restAscending⟩
        rcases (mem_insertText member text rest).mp inside with rfl | later
        · refine Decidable.byContradiction fun behind => same ?_
          exact String.le_antisymm (String.not_lt.mp behind) (String.not_lt.mp before)
        · exact below member later

/-- The set comes out in ascending order, so each text is there once. -/
theorem sortedTexts_ascending (texts : List String) :
    (sortedTexts texts).Pairwise (· < ·) := by
  have fold : ∀ sorted : List String, sorted.Pairwise (· < ·) →
      (texts.foldl (fun sorted text => insertText text sorted) sorted).Pairwise (· < ·) := by
    induction texts with
    | nil => exact fun _ ascending => ascending
    | cons first rest ih =>
      exact fun sorted ascending => ih _ (ascending_insertText first sorted ascending)
  exact fold [] List.Pairwise.nil

/-! ### Maps from texts -/

/-- Put a key at its place in a list sorted by key; a key that is there takes the new value. -/
def insertEntry {α : Type} (key : String) (value : α) :
    List (String × α) → List (String × α)
  | [] => [(key, value)]
  | (first, held) :: rest =>
    if key < first then (key, value) :: (first, held) :: rest
    else if key = first then (first, value) :: rest
    else (first, held) :: insertEntry key value rest

/-- The entries of a list in ascending order of their keys, the last one of each key. -/
def sortedEntries {α : Type} (entries : List (String × α)) : List (String × α) :=
  entries.foldl (fun sorted entry => insertEntry entry.1 entry.2 sorted) []

section Entries

variable {α : Type}

/-- The keys of a map are inserted as a set is. -/
theorem keys_insertEntry (key : String) (value : α) (entries : List (String × α)) :
    (insertEntry key value entries).map Prod.fst = insertText key (entries.map Prod.fst) := by
  induction entries with
  | nil => rfl
  | cons entry rest ih =>
    obtain ⟨first, held⟩ := entry
    simp only [insertEntry, insertText, List.map_cons]
    split
    · rfl
    · split
      · rfl
      · rw [List.map_cons, ih]

theorem keys_sortedEntries (entries : List (String × α)) :
    (sortedEntries entries).map Prod.fst = sortedTexts (entries.map Prod.fst) := by
  have fold : ∀ sorted : List (String × α),
      (entries.foldl (fun sorted entry => insertEntry entry.1 entry.2 sorted) sorted).map
          Prod.fst =
        (entries.map Prod.fst).foldl (fun sorted text => insertText text sorted)
          (sorted.map Prod.fst) := by
    induction entries with
    | nil => exact fun _ => rfl
    | cons entry rest ih =>
      intro sorted
      rw [List.foldl_cons, ih, keys_insertEntry]
      rfl
  exact fold []

/-- The keys of the map come out in ascending order, so each key has one value. -/
theorem keys_sortedEntries_ascending (entries : List (String × α)) :
    ((sortedEntries entries).map Prod.fst).Pairwise (· < ·) := by
  rw [keys_sortedEntries]
  exact sortedTexts_ascending _

end Entries

end AccessAudit.Text
