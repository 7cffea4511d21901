/-
**Where a path leads from the file that holds it.**

A configuration names its snapshots by paths. An absolute path leads where it says, and any other is
looked for in the directory of the configuration, so something is put in front of it. What that is
can be told from the names between the slashes of the configuration's own path. An empty name and a
dot lead nowhere. The file is the last name that does lead somewhere, its directory is all in front
of that, and the names between the two that lead nowhere are left out. Only the first name always
counts: an empty one stands for the root, and a dot for the directory of the run.

* `FilePath.LeadsNowhere`, `FilePath.Stem`: the names of a path, and what they put in front of
  another;
* `FilePath.SeenFrom`: where a path leads from a file;
* `FilePath.trimEnd_reverse`: what is left of names when those that lead nowhere are taken off;
* `FilePath.stem_eq`, `FilePath.exists_stem`: the directory of a file puts its stem in front of a
  path;
* `FilePath.seenFrom_iff_join`: a path is joined with the directory of the file that holds it.
-/
import AccessAudit.FilePath
import Mathlib.Data.List.Induction
import Mathlib.Data.String.Basic
import Mathlib.Tactic.SplitIfs

namespace AccessAudit.FilePath

/-! ### The stem of a file -/

/-- The names between the slashes of a path. -/
def names (path : String) : List (List Char) :=
  path.toList.splitOn '/'

/-- The name is empty or a dot. -/
def LeadsNowhere (name : List Char) : Prop :=
  name = [] ∨ name = ['.']

instance (name : List Char) : Decidable (LeadsNowhere name) :=
  inferInstanceAs (Decidable (_ ∨ _))

/-- What the directory of a file with these names puts in front of a path. -/
inductive Stem : List (List Char) → String → Prop
  /-- The file is the first name: its directory is that of the run, and nothing is put in front. -/
  | here {name : List Char} {after : List (List Char)} (named : name ≠ [])
      (idle : ∀ other ∈ after, LeadsNowhere other) : Stem (name :: after) ""
  /-- There are names in front of the file, and its directory ends with the first of them or with
  one that leads somewhere. They are put in front, with a slash behind them. -/
  | within {first name : List Char} {front between after : List (List Char)}
      (ends : ∀ last ∈ front.getLast?, ¬ LeadsNowhere last)
      (skipped : ∀ other ∈ between, LeadsNowhere other) (leads : ¬ LeadsNowhere name)
      (idle : ∀ other ∈ after, LeadsNowhere other) :
      Stem (first :: front ++ between ++ name :: after)
        (String.ofList (['/'].intercalate (first :: front)) ++ "/")
  /-- No name leads anywhere, as in the root: the directory of the run is put in front. -/
  | nowhere {after : List (List Char)} (idle : ∀ other ∈ after, LeadsNowhere other) :
      Stem ([] :: after) "./"

/-- Where a path leads from a file that holds it. -/
inductive SeenFrom (file : String) : String → String → Prop
  /-- A path that begins with a slash leads where it says. -/
  | absolute (rest : String) : SeenFrom file ("/" ++ rest) ("/" ++ rest)
  /-- Any other has the stem of the file in front of it. -/
  | relative {path stem : String} (free : ¬ ∃ rest, path = "/" ++ rest)
      (held : Stem (names file) stem) : SeenFrom file path (stem ++ path)

/-! ### Names that lead nowhere -/

theorem segments_eq_splitOn (cs : List Char) : segments cs = cs.splitOn '/' := by
  fun_induction segments cs with
  | case1 => rfl
  | case2 rest ih => rw [List.splitOn_cons_eq_if_modifyHead, if_pos (by rfl), ih]
  | case3 c rest other first others found ih =>
    rw [List.splitOn_cons_eq_if_modifyHead, if_neg (by simpa using other), ← ih, found]
    rfl
  | case4 c rest other found ih =>
    exact absurd (ih.symm.trans found) (List.splitOn_ne_nil _ _)

theorem slash_not_mem_of_mem_names {path : String} {name : List Char}
    (inside : name ∈ names path) : '/' ∉ name := by
  unfold names at inside
  generalize path.toList = cs at inside
  induction cs generalizing name with
  | nil =>
    rw [List.splitOn_nil, List.mem_singleton] at inside
    simp [inside]
  | cons c rest ih =>
    obtain ⟨first, others, found⟩ := List.exists_cons_of_ne_nil (List.splitOn_ne_nil '/' rest)
    have unbroken : ∀ other ∈ first :: others, '/' ∉ other := fun other held => ih (found ▸ held)
    rw [List.splitOn_cons_eq_if_modifyHead, found] at inside
    split_ifs at inside with slash
    · rcases List.mem_cons.mp inside with rfl | later
      · exact List.not_mem_nil
      · exact unbroken name later
    · rcases List.mem_cons.mp inside with rfl | later
      · rw [List.mem_cons, not_or]
        exact ⟨fun same => slash (beq_iff_eq.mpr same.symm), unbroken first List.mem_cons_self⟩
      · exact unbroken name (List.mem_cons_of_mem _ later)

theorem isIdle_iff (name : List Char) : isIdle name ↔ LeadsNowhere name := by
  unfold isIdle LeadsNowhere
  rw [Bool.or_eq_true, List.isEmpty_iff, beq_iff_eq]

theorem trimEnd_append {idle kept : List (List Char)}
    (nowhere : ∀ name ∈ idle, LeadsNowhere name) (some : kept ≠ []) :
    trimEnd (idle ++ kept) = trimEnd kept := by
  induction idle with
  | nil => rfl
  | cons name rest ih =>
    obtain ⟨here, later⟩ := List.forall_mem_cons.mp nowhere
    obtain ⟨before, others, found⟩ :=
      List.exists_cons_of_ne_nil (List.append_ne_nil_of_right_ne_nil rest some)
    rw [List.cons_append, found, trimEnd, if_pos ((isIdle_iff name).mpr here), ← found, ih later]

theorem trimEnd_of_leads {last : List Char} (leads : ¬ LeadsNowhere last)
    (rest : List (List Char)) : trimEnd (last :: rest) = last :: rest := by
  cases rest with
  | nil => rfl
  | cons before others => rw [trimEnd, if_neg (mt (isIdle_iff last).mp leads)]

/-- **What is left of names behind the first one, when those at the end that lead nowhere are taken
off.** -/
theorem trimEnd_reverse (first : List Char) {front idle : List (List Char)}
    (ends : ∀ last ∈ front.getLast?, ¬ LeadsNowhere last)
    (nowhere : ∀ name ∈ idle, LeadsNowhere name) :
    trimEnd (first :: front ++ idle).reverse = (first :: front).reverse := by
  rw [List.reverse_append, trimEnd_append (by simpa using nowhere) (by simp)]
  rcases List.eq_nil_or_concat front with rfl | ⟨init, last, rfl⟩
  · rfl
  · have leads := ends last (by simp)
    rw [List.concat_eq_append, ← List.cons_append, List.reverse_append]
    exact trimEnd_of_leads leads _

/-- Names can be cut where the last one of them leads somewhere. -/
theorem exists_trimmed (names : List (List Char)) :
    ∃ front idle, names = front ++ idle ∧ (∀ last ∈ front.getLast?, ¬ LeadsNowhere last) ∧
      ∀ name ∈ idle, LeadsNowhere name := by
  induction names using List.reverseRecOn with
  | nil => exact ⟨[], [], rfl, by simp, by simp⟩
  | append_singleton rest name ih =>
    by_cases nowhere : LeadsNowhere name
    · obtain ⟨front, idle, rfl, ends, all⟩ := ih
      refine ⟨front, idle ++ [name], (List.append_assoc ..), ends, ?_⟩
      exact List.forall_mem_append.mpr ⟨all, List.forall_mem_singleton.mpr nowhere⟩
    · exact ⟨rest ++ [name], [], (List.append_nil _).symm, by simpa using nowhere, by simp⟩

/-! ### The directory of a file -/

/-- A directory as it stands in front of a path, with a slash behind it. -/
def asStem (directory : String) : String :=
  if directory.isEmpty ∨ directory.toList.getLast? = some '/' then directory else directory ++ "/"

theorem join_of_relative {directory path : String} (relative : isAbsolute path = false) :
    join directory path = asStem directory ++ path := by
  unfold join asStem
  rw [if_neg (by simp [relative])]
  split <;> rfl

/-- Names that end with one that is not empty make a text that ends with no slash. -/
theorem getLast?_intercalate_concat {names : List (List Char)} {last : List Char} {c : Char}
    (ends : last.getLast? = some c) :
    (['/'].intercalate (names ++ [last])).getLast? = some c := by
  induction names with
  | nil => rwa [List.nil_append, List.intercalate_singleton]
  | cons name rest ih =>
    have filled : rest ++ [last] ≠ [] :=
      List.append_ne_nil_of_right_ne_nil rest (List.cons_ne_nil last [])
    obtain ⟨next, others, found⟩ := List.exists_cons_of_ne_nil filled
    rw [found] at ih
    rw [List.cons_append, found, List.intercalate_cons_cons, List.getLast?_append, ih]
    rfl

theorem asStem_of_filled {directory : String} {c : Char}
    (ends : directory.toList.getLast? = some c) (other : c ≠ '/') :
    asStem directory = directory ++ "/" := by
  have filled : ¬ directory.isEmpty := by
    rw [String.isEmpty_iff]
    rintro rfl
    cases ends
  unfold asStem
  rw [if_neg (not_or.mpr ⟨filled, by simpa [ends] using other⟩)]

/-- The text of a directory below the root, with a slash behind it. -/
theorem asStem_ofList_intercalate {first : List Char} {front : List (List Char)}
    (ends : ∀ last ∈ front.getLast?, ¬ LeadsNowhere last) (below : first :: front ≠ [[]])
    (slashless : ∀ name ∈ first :: front, '/' ∉ name) :
    asStem (String.ofList (['/'].intercalate (first :: front))) =
      String.ofList (['/'].intercalate (first :: front)) ++ "/" := by
  obtain ⟨init, last, split⟩ : ∃ init last, first :: front = init ++ [last] :=
    ⟨_, _, (List.dropLast_append_getLast (List.cons_ne_nil first front)).symm⟩
  have filled : last ≠ [] := by
    rintro rfl
    cases init with
    | nil => exact below split
    | cons _ rest =>
      obtain ⟨rfl, rfl⟩ := List.cons.inj split
      exact ends [] (by simp) (.inl rfl)
  obtain ⟨c, cs, shape⟩ : ∃ c cs, last = cs ++ [c] :=
    ⟨_, _, (List.dropLast_append_getLast filled).symm⟩
  have other : c ≠ '/' := by
    rintro rfl
    refine slashless last ?_ ?_
    · simp [split]
    · simp [shape]
  refine asStem_of_filled ?_ other
  rw [String.toList_ofList, split]
  exact getLast?_intercalate_concat (by simp [shape])

/-- **The directory of a file puts its stem in front of a path.** -/
theorem stem_eq {file stem : String} (held : Stem (names file) stem) :
    asStem ((parent? file).getD ".") = stem := by
  have slashless : ∀ name ∈ names file, '/' ∉ name := fun _ => slash_not_mem_of_mem_names
  unfold parent?
  rw [segments_eq_splitOn, show file.toList.splitOn '/' = names file from rfl]
  generalize names file = names at held slashless
  cases held with
  | @here name after named idle =>
    have left : trimEnd (name :: after).reverse = [name] :=
      @trimEnd_reverse name [] after nofun idle
    rw [left]
    simp [named, asStem]
  | @within first name front between after ends skipped leads idle =>
    have outer : trimEnd (first :: front ++ between ++ name :: after).reverse =
        name :: (first :: front ++ between).reverse := by
      have trimmed := @trimEnd_reverse first (front ++ between ++ [name]) after
        (by simpa using leads) idle
      simpa using trimmed
    have inner := trimEnd_reverse first ends skipped
    obtain ⟨before, others, found⟩ :=
      List.exists_cons_of_ne_nil (show (first :: front ++ between).reverse ≠ [] by simp)
    rw [outer, found]
    rw [found] at inner
    simp only [inner]
    by_cases root : first :: front = [[]]
    · rw [root]
      decide
    · split
      · rename_i same
        exact absurd (List.reverse_eq_iff.mp same) root
      · rw [List.reverse_reverse]
        exact asStem_ofList_intercalate ends root fun other inside =>
          slashless other (List.mem_append_left _ (List.mem_append_left _ inside))
  | @nowhere after idle =>
    have left : trimEnd ([] :: after).reverse = [[]] :=
      @trimEnd_reverse [] [] after nofun idle
    rw [left]
    decide

/-- Every file has a stem. -/
theorem exists_stem (file : String) : ∃ stem, Stem (names file) stem := by
  obtain ⟨first, rest, found⟩ :=
    List.exists_cons_of_ne_nil (show names file ≠ [] from List.splitOn_ne_nil _ _)
  obtain ⟨front, after, rfl, ends, idle⟩ := exists_trimmed rest
  rw [found]
  rcases List.eq_nil_or_concat front with rfl | ⟨init, name, rfl⟩
  · -- the first name alone may lead somewhere
    by_cases named : first = []
    · subst named
      exact ⟨_, .nowhere idle⟩
    · exact ⟨_, .here named idle⟩
  · have leads : ¬ LeadsNowhere name := ends name (by simp)
    obtain ⟨front, between, rfl, ends, skipped⟩ := exists_trimmed init
    have cut : first :: ((front ++ between).concat name ++ after) =
        first :: front ++ between ++ name :: after := by simp
    rw [cut]
    exact ⟨_, .within ends skipped leads idle⟩

theorem isAbsolute_iff (path : String) : isAbsolute path ↔ ∃ rest, path = "/" ++ rest := by
  unfold isAbsolute
  rw [beq_iff_eq, List.head?_eq_some_iff]
  constructor
  · rintro ⟨cs, begins⟩
    refine ⟨String.ofList cs, String.toList_injective ?_⟩
    rw [begins, String.toList_append, String.toList_ofList]
    simp
  · rintro ⟨rest, rfl⟩
    exact ⟨rest.toList, String.toList_append⟩

/-- **A path has the stem of the file in front of it, unless it is absolute: so it is joined with
the directory of the file.** -/
theorem seenFrom_iff_join (file path place : String) :
    SeenFrom file path place ↔ place = join ((parent? file).getD ".") path := by
  constructor
  · rintro (rest | ⟨free, held⟩)
    · have absolute := (isAbsolute_iff ("/" ++ rest)).mpr ⟨rest, rfl⟩
      unfold join
      rw [if_pos absolute]
    · have relative := Bool.eq_false_iff.mpr (mt (isAbsolute_iff path).mp free)
      rw [join_of_relative relative, stem_eq held]
  · rintro rfl
    by_cases absolute : isAbsolute path
    · obtain ⟨rest, rfl⟩ := (isAbsolute_iff path).mp absolute
      unfold join
      rw [if_pos absolute]
      exact .absolute rest
    · obtain ⟨stem, held⟩ := exists_stem file
      rw [join_of_relative (Bool.eq_false_iff.mpr absolute), stem_eq held]
      exact .relative (mt (isAbsolute_iff path).mpr absolute) held

/-- What leads nowhere is left out behind the directory, but not in front of it. -/
example : SeenFrom "./conf/.//permcheck.yaml/." "vault.json" "./conf/vault.json" :=
  (seenFrom_iff_join _ _ _).mpr (by decide)

end AccessAudit.FilePath
