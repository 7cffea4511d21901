/-
**Sets and maps kept as ascending lists.**

The two containers of a verdict are plain lists with one insertion each. They are what they stand
for: a set of texts that forgets order and repetition, and a map from texts that keeps the last
value of each key. Both come out in ascending order, and an ascending list is known by what it
holds, so two of them with the same content are the same list.

* `mem_sortedTexts`, `lookup_sortedEntries`: the texts of a list, and the last value of each key;
* `texts_ext`, `entries_ext`: ascending lists with the same content are equal;
* `sortedTexts_of_ascending`, `sortedEntries_of_ascending`: what is in order already stays as it is.
-/
import AccessAudit.Text.Ordered
import Mathlib.Data.List.Sort
import Mathlib.Data.String.Basic

namespace AccessAudit.Text

/-! ### Sets of texts -/

/-- The set holds exactly the texts of the list. -/
theorem mem_sortedTexts (member : String) (texts : List String) :
    member ∈ sortedTexts texts ↔ member ∈ texts := by
  have fold : ∀ sorted : List String,
      member ∈ texts.foldl (fun sorted text => insertText text sorted) sorted ↔
        member ∈ sorted ∨ member ∈ texts := by
    induction texts with
    | nil => simp
    | cons first rest ih =>
      intro sorted
      rw [List.foldl_cons, ih, mem_insertText, List.mem_cons, or_assoc, or_left_comm]
  simpa [sortedTexts] using fold []

/-- An ascending list of texts is known by its members. -/
theorem texts_ext {texts texts' : List String} (ascending : texts.Pairwise (· < ·))
    (ascending' : texts'.Pairwise (· < ·))
    (same : ∀ member, member ∈ texts ↔ member ∈ texts') : texts = texts' :=
  ascending.eq_of_mem_iff ascending' same

/-- A set of texts that is in order is left as it is. -/
theorem sortedTexts_of_ascending {texts : List String} (ascending : texts.Pairwise (· < ·)) :
    sortedTexts texts = texts :=
  texts_ext (sortedTexts_ascending texts) ascending fun member => mem_sortedTexts member texts

/-! ### Maps from texts -/

section Entries

variable {α : Type}

theorem lookup_cons_eq_ite (asked first : String) (held : α) (rest : List (String × α)) :
    ((first, held) :: rest).lookup asked =
      if asked = first then some held else rest.lookup asked := by
  rw [List.lookup_cons]
  by_cases hit : asked = first
  · rw [if_pos hit, beq_iff_eq.mpr hit]
  · rw [if_neg hit, beq_eq_false_iff_ne.mpr hit]

theorem lookup_insertEntry (asked key : String) (value : α) (entries : List (String × α)) :
    (insertEntry key value entries).lookup asked =
      if asked = key then some value else entries.lookup asked := by
  induction entries with
  | nil => rw [insertEntry, lookup_cons_eq_ite]
  | cons entry rest ih =>
    obtain ⟨first, held⟩ := entry
    unfold insertEntry
    by_cases before : key < first
    · rw [if_pos before, lookup_cons_eq_ite]
    · by_cases same : key = first
      · subst same
        rw [if_neg before, if_pos rfl, lookup_cons_eq_ite, lookup_cons_eq_ite]
        by_cases hit : asked = key
        · rw [if_pos hit, if_pos hit]
        · rw [if_neg hit, if_neg hit, if_neg hit]
      · rw [if_neg before, if_neg same, lookup_cons_eq_ite, lookup_cons_eq_ite, ih]
        by_cases hit : asked = first
        · subst hit
          rw [if_pos rfl, if_pos rfl, if_neg (Ne.symm same)]
        · rw [if_neg hit, if_neg hit]

/-- The map keeps the last value of each key. -/
theorem lookup_sortedEntries (asked : String) (entries : List (String × α)) :
    (sortedEntries entries).lookup asked = entries.reverse.lookup asked := by
  have fold : ∀ sorted : List (String × α),
      (entries.foldl (fun sorted entry => insertEntry entry.1 entry.2 sorted) sorted).lookup
          asked = (entries.reverse ++ sorted).lookup asked := by
    induction entries with
    | nil => exact fun _ => rfl
    | cons entry rest ih =>
      intro sorted
      obtain ⟨key, value⟩ := entry
      rw [List.foldl_cons, ih, List.reverse_cons, List.append_assoc, List.lookup_append,
        List.lookup_append, lookup_insertEntry, List.singleton_append, lookup_cons_eq_ite]
  simpa [sortedEntries] using fold []

/-- A change of the values does not change the order of the keys. -/
theorem insertEntry_map {β : Type} (change : α → β) (key : String) (value : α)
    (entries : List (String × α)) :
    insertEntry key (change value) (entries.map fun entry => (entry.1, change entry.2)) =
      (insertEntry key value entries).map fun entry => (entry.1, change entry.2) := by
  induction entries with
  | nil => rfl
  | cons entry rest ih =>
    obtain ⟨first, held⟩ := entry
    simp only [insertEntry, List.map_cons]
    by_cases before : key < first
    · simp only [if_pos before, List.map_cons]
    · by_cases same : key = first
      · simp only [if_neg before, if_pos same, List.map_cons]
      · simp only [if_neg before, if_neg same, List.map_cons, ih]

/-- It makes no difference whether values are changed before or after they are put in order. -/
theorem sortedEntries_map {β : Type} (change : α → β) (entries : List (String × α)) :
    sortedEntries (entries.map fun entry => (entry.1, change entry.2)) =
      (sortedEntries entries).map fun entry => (entry.1, change entry.2) := by
  have fold : ∀ sorted : List (String × α),
      (entries.map fun entry => (entry.1, change entry.2)).foldl
          (fun sorted entry => insertEntry entry.1 entry.2 sorted)
          (sorted.map fun entry => (entry.1, change entry.2)) =
        (entries.foldl (fun sorted entry => insertEntry entry.1 entry.2 sorted) sorted).map
          fun entry => (entry.1, change entry.2) := by
    induction entries with
    | nil => exact fun _ => rfl
    | cons entry rest ih =>
      intro sorted
      have inserted := insertEntry_map change entry.1 entry.2 sorted
      rw [List.map_cons, List.foldl_cons, List.foldl_cons, ← ih, ← inserted]
  exact fold []

/-- An entry is one of a map with distinct keys exactly when its value is found under its key. -/
theorem mem_iff_lookup {entries : List (String × α)}
    (ascending : (entries.map Prod.fst).Pairwise (· < ·)) (key : String) (value : α) :
    (key, value) ∈ entries ↔ entries.lookup key = some value := by
  induction entries with
  | nil => simp
  | cons entry rest ih =>
    obtain ⟨first, held⟩ := entry
    obtain ⟨below, restAscending⟩ := List.pairwise_cons.mp ascending
    rw [List.mem_cons, lookup_cons_eq_ite, ih restAscending]
    by_cases same : key = first
    · subst same
      have absent : rest.lookup key = none := by
        rw [List.lookup_eq_none_iff]
        intro other inside
        have later := below other.1 (List.mem_map_of_mem inside)
        simpa using later.ne
      simp [absent, eq_comm]
    · simp [same]

/-- Where no key has two values, the map holds every entry of the list. -/
theorem mem_sortedEntries_of_functional {entries : List (String × α)}
    (functional : ∀ key value value', (key, value) ∈ entries → (key, value') ∈ entries →
      value = value') (key : String) (value : α) :
    (key, value) ∈ sortedEntries entries ↔ (key, value) ∈ entries := by
  rw [mem_iff_lookup (keys_sortedEntries_ascending entries), lookup_sortedEntries]
  have found : ∀ held, entries.reverse.lookup key = some held → (key, held) ∈ entries := by
    intro held hit
    obtain ⟨before, after, split, -⟩ := List.lookup_eq_some_iff.mp hit
    rw [← List.mem_reverse, split]
    exact List.mem_append_right _ List.mem_cons_self
  constructor
  · exact found value
  · intro inside
    cases hit : entries.reverse.lookup key with
    | none =>
      have apart := List.lookup_eq_none_iff.mp hit (key, value) (List.mem_reverse.mpr inside)
      simp at apart
    | some held => rw [functional key held value (found held hit) inside]

/-- An ascending map is known by what is found under each key. -/
theorem entries_ext {entries entries' : List (String × α)}
    (ascending : (entries.map Prod.fst).Pairwise (· < ·))
    (ascending' : (entries'.map Prod.fst).Pairwise (· < ·))
    (same : ∀ key, entries.lookup key = entries'.lookup key) : entries = entries' := by
  have irreflexive : Std.Irrefl fun entry entry' : String × α => entry.1 < entry'.1 :=
    ⟨fun entry => lt_irrefl entry.1⟩
  have antisymmetric : Std.Antisymm fun entry entry' : String × α => entry.1 < entry'.1 :=
    ⟨fun _ _ before after => absurd after before.asymm⟩
  refine (List.pairwise_map.mp ascending).eq_of_mem_iff (List.pairwise_map.mp ascending') ?_
  rintro ⟨key, value⟩
  rw [mem_iff_lookup ascending, mem_iff_lookup ascending', same]

/-- A map that is in order is left as it is. -/
theorem sortedEntries_of_ascending {entries : List (String × α)}
    (ascending : (entries.map Prod.fst).Pairwise (· < ·)) : sortedEntries entries = entries := by
  refine entries_ext (keys_sortedEntries_ascending entries) ascending fun key => ?_
  ext value
  rw [← mem_iff_lookup (keys_sortedEntries_ascending entries), ← mem_iff_lookup ascending]
  refine mem_sortedEntries_of_functional (fun key value value' inside inside' => ?_) key value
  rw [mem_iff_lookup ascending] at inside inside'
  exact Option.some.inj (inside.symm.trans inside')

/-- What is found in a list that gives each of its keys the value of one function. -/
theorem lookup_graph (f : String → Option α) (keys : List String) (asked : String) :
    (keys.filterMap fun key => (f key).map fun value => (key, value)).lookup asked =
      if asked ∈ keys then f asked else none := by
  induction keys with
  | nil => rfl
  | cons key rest ih =>
    rw [List.filterMap_cons]
    by_cases same : asked = key
    · subst same
      cases found : f asked with
      | none => simp [ih, found]
      | some value => simp
    · cases f key with
      | none => simp [ih, same]
      | some value =>
        rw [Option.map_some, lookup_cons_eq_ite, if_neg same, ih]
        simp [same]

end Entries

end AccessAudit.Text
