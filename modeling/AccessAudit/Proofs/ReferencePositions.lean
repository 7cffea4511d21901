/-
**What becomes of a text is told by its positions.**

A reference stands at a position when its dollar, its braces and a name between them begin there. It
is escaped when the character right before it is a dollar. Nothing else about a position matters: an
unescaped reference comes to the value of its variable, whatever that value looks like; the dollar
in front of an escaped one comes to nothing; and every other character comes to itself. The text is
cut from the front to the end, and still no part can be read in two ways, because no reference
begins inside another one.

* `StandsAt`, `EscapedAt`, `UnescapedAt`: where references stand;
* `FirstLacking`: the leftmost unescaped reference to a variable that has no value;
* `Comes`: what each position comes to, and `Comes.unique`: it comes to one thing alone;
* `Placed`: parts that lie end to end from a position on, as those of a text do (`placed_segments`);
* `substitution_goes_by_positions`: the text put together from its positions, or the variable that
  is lacking first.
-/
import AccessAudit.Proofs.Escaping

namespace AccessAudit

/-! ### Variables without a value -/

/-- The variable is not set, or it is set to nothing. -/
def Environment.Lacks (environment : Environment) (name : String) : Prop :=
  ∀ value, environment.get? name = some value → value = ""

theorem Environment.filled?_eq_some_iff (environment : Environment) (name value : String) :
    environment.filled? name = some value ↔ environment.get? name = some value ∧ value ≠ "" := by
  unfold filled?
  rw [Option.filter_eq_some_iff]
  simp

theorem Environment.lacks_iff (environment : Environment) (name : String) :
    environment.Lacks name ↔ environment.filled? name = none := by
  rw [Option.eq_none_iff_forall_ne_some]
  simp only [ne_eq, filled?_eq_some_iff, not_and, not_not]
  rfl

namespace Reference

/-! ### Where references stand -/

/-- A reference to the variable of this name begins at the position. -/
def StandsAt (cs : List Char) (position : Nat) (name : List Char) : Prop :=
  IsName name ∧ written name <+: cs.drop position

/-- A reference begins at the position, and the character right before it is a dollar. -/
def EscapedAt (cs : List Char) (position : Nat) (name : List Char) : Prop :=
  StandsAt cs position name ∧ ∃ before, position = before + 1 ∧ cs[before]? = some '$'

/-- A reference begins at the position, and no dollar is right before it. -/
def UnescapedAt (cs : List Char) (position : Nat) (name : List Char) : Prop :=
  StandsAt cs position name ∧ ∀ before, position = before + 1 → cs[before]? ≠ some '$'

section Standing

variable {cs : List Char} {position other : Nat} {name name' : List Char}

theorem begins_drop_iff : Begins (cs.drop position) ↔ ∃ name, StandsAt cs position name := by
  constructor
  · rintro ⟨name, after, named, split⟩
    exact ⟨name, named, after, split.symm⟩
  · rintro ⟨name, named, after, split⟩
    exact ⟨name, after, named, split.symm⟩

theorem StandsAt.length_le (stands : StandsAt cs position name) :
    position + (written name).length ≤ cs.length := by
  have fits := stands.2.length_le
  have filled : 0 < (written name).length := by simp [written]
  rw [List.length_drop] at fits
  omega

/-- The characters of a reference are those of its written form. -/
theorem StandsAt.getElem?_eq (stands : StandsAt cs position name) {offset : Nat}
    (within : offset < (written name).length) :
    cs[position + offset]? = (written name)[offset]? := by
  obtain ⟨-, after, split⟩ := stands
  rw [← List.getElem?_drop, ← split, List.getElem?_append_left within]

theorem StandsAt.dollar (stands : StandsAt cs position name) : cs[position]? = some '$' := by
  have filled : 0 < (written name).length := by simp [written]
  exact stands.getElem?_eq filled

/-- Only the first character of a reference is a dollar. -/
theorem StandsAt.ne_dollar (stands : StandsAt cs position name) (after : position < other)
    (before : other < position + (written name).length) : cs[other]? ≠ some '$' := by
  obtain ⟨offset, rfl⟩ : ∃ offset, other = position + (offset + 1) :=
    ⟨other - position - 1, by omega⟩
  rw [stands.getElem?_eq (by omega)]
  intro dollar
  exact not_mem_of_isName stands.1 (List.mem_of_getElem? dollar)

/-- No reference begins inside another one. -/
theorem StandsAt.not_standsAt (stands : StandsAt cs position name) (after : position < other)
    (before : other < position + (written name).length) : ¬ StandsAt cs other name' :=
  fun inside => stands.ne_dollar after before inside.dollar

/-- One reference at most begins at a position. -/
theorem StandsAt.name_unique (stands : StandsAt cs position name)
    (stands' : StandsAt cs position name') : name = name' := by
  obtain ⟨named, after, split⟩ := stands
  obtain ⟨named', after', split'⟩ := stands'
  have same : name ++ '\x7d' :: after = name' ++ '\x7d' :: after' := by
    have whole := split.trans split'.symm
    simpa [written] using whole
  have read := (readName?_eq_some_iff _ name after).mpr ⟨named, rfl⟩
  have read' := (readName?_eq_some_iff _ name' after').mpr ⟨named', same⟩
  exact (Prod.mk.inj (Option.some.inj (read.symm.trans read'))).1

end Standing

/-- The unescaped reference to this variable is the first one from a position on to a variable
without a value. -/
def FirstLackingFrom (environment : Environment) (cs : List Char) (start : Nat)
    (name : String) : Prop :=
  ∃ position chars, start ≤ position ∧ UnescapedAt cs position chars ∧
    String.ofList chars = name ∧ environment.Lacks name ∧
    ∀ earlier other, start ≤ earlier → earlier < position → UnescapedAt cs earlier other →
      ¬ environment.Lacks (String.ofList other)

/-- The leftmost unescaped reference to a variable without a value is to this variable. -/
def FirstLacking (environment : Environment) (text name : String) : Prop :=
  FirstLackingFrom environment text.toList 0 name

/-- Some unescaped reference is to a variable without a value. -/
def HasLacking (environment : Environment) (text : String) : Prop :=
  ∃ position chars, UnescapedAt text.toList position chars ∧
    environment.Lacks (String.ofList chars)

/-! ### What a position comes to -/

/-- What one position of a text comes to when its references are replaced. -/
inductive Comes (environment : Environment) (cs : List Char) (position : Nat) : List Char → Prop
  /-- An unescaped reference begins here and comes to the value of its variable, as it is. -/
  | value {name : List Char} {value : String} (begins : UnescapedAt cs position name)
      (found : environment.get? (String.ofList name) = some value) (filled : value ≠ "") :
      Comes environment cs position value.toList
  /-- An unescaped reference goes on here. -/
  | inside {start : Nat} {name : List Char} (begun : UnescapedAt cs start name)
      (after : start < position) (before : position < start + (written name).length) :
      Comes environment cs position []
  /-- The dollar in front of an escaped reference. -/
  | dollar {name : List Char} (next : EscapedAt cs (position + 1) name) :
      Comes environment cs position []
  /-- Any other character. -/
  | kept {c : Char} (here : cs[position]? = some c)
      (free : ∀ start name, UnescapedAt cs start name → start ≤ position →
        start + (written name).length ≤ position)
      (plain : ∀ name, ¬ EscapedAt cs (position + 1) name) :
      Comes environment cs position [c]

section Positions

variable {environment : Environment} {cs : List Char} {position : Nat} {name piece : List Char}

theorem EscapedAt.dollar (escaped : EscapedAt cs (position + 1) name) :
    cs[position]? = some '$' := by
  obtain ⟨-, before, next, dollar⟩ := escaped
  obtain rfl : position = before := by omega
  exact dollar

theorem EscapedAt.not_standsAt (escaped : EscapedAt cs (position + 1) name) {name' : List Char} :
    ¬ StandsAt cs position name' := by
  intro stands
  have longer : 1 < (written name').length := by simp [written]
  exact stands.not_standsAt (Nat.lt_succ_self position) (by omega) escaped.1

theorem Comes.eq_of_unescapedAt (comes : Comes environment cs position piece)
    (begins : UnescapedAt cs position name) :
    ∃ value, environment.get? (String.ofList name) = some value ∧ value ≠ "" ∧
      piece = value.toList := by
  have filledIn : 0 < (written name).length := by simp [written]
  cases comes with
  | value begins' found filled =>
    obtain rfl := begins'.1.name_unique begins.1
    exact ⟨_, found, filled, rfl⟩
  | inside begun after before => exact absurd begins.1 (begun.1.not_standsAt after before)
  | dollar next => exact absurd begins.1 next.not_standsAt
  | kept here free plain =>
    have ended := free position name begins le_rfl
    omega

theorem Comes.eq_of_inside (comes : Comes environment cs position piece) {start : Nat}
    (begun : UnescapedAt cs start name) (after : start < position)
    (before : position < start + (written name).length) : piece = [] := by
  cases comes with
  | value begins found filled => exact absurd begins.1 (begun.1.not_standsAt after before)
  | inside => rfl
  | dollar => rfl
  | kept here free plain =>
    have ended := free start name begun after.le
    omega

theorem Comes.eq_of_escapedAt (comes : Comes environment cs position piece)
    (next : EscapedAt cs (position + 1) name) : piece = [] := by
  cases comes with
  | value begins found filled => exact absurd begins.1 next.not_standsAt
  | inside => rfl
  | dollar => rfl
  | kept here free plain => exact absurd next (plain name)

/-- **A position comes to one thing alone.** -/
theorem Comes.unique {piece' : List Char} (comes : Comes environment cs position piece)
    (comes' : Comes environment cs position piece') : piece = piece' := by
  cases comes' with
  | value begins found filled =>
    obtain ⟨value, found', -, rfl⟩ := comes.eq_of_unescapedAt begins
    obtain rfl := Option.some.inj (found'.symm.trans found)
    rfl
  | inside begun after before => exact comes.eq_of_inside begun after before
  | dollar next => exact comes.eq_of_escapedAt next
  | kept here free plain =>
    cases comes with
    | value begins found filled =>
      have ended := free position _ begins le_rfl
      simp [written] at ended
    | inside begun after before =>
      have ended := free _ _ begun after.le
      omega
    | dollar next => exact absurd next (plain _)
    | kept here' => rw [Option.some.inj (here'.symm.trans here)]

/-- Where no variable is lacking, every position comes to something. -/
theorem exists_comes (complete : ∀ position name, UnescapedAt cs position name →
      ¬ environment.Lacks (String.ofList name)) (inside : position < cs.length) :
    ∃ piece, Comes environment cs position piece := by
  by_cases begins : ∃ name, UnescapedAt cs position name
  · obtain ⟨name, begins⟩ := begins
    have given := complete position name begins
    rw [environment.lacks_iff] at given
    obtain ⟨value, found⟩ := Option.ne_none_iff_exists'.mp given
    obtain ⟨found, filled⟩ := (environment.filled?_eq_some_iff _ _).mp found
    exact ⟨_, .value begins found filled⟩
  · by_cases covered : ∃ start name, UnescapedAt cs start name ∧ start < position ∧
        position < start + (written name).length
    · obtain ⟨start, name, begun, after, before⟩ := covered
      exact ⟨_, .inside begun after before⟩
    · by_cases next : ∃ name, EscapedAt cs (position + 1) name
      · obtain ⟨name, next⟩ := next
        exact ⟨_, .dollar next⟩
      · refine ⟨_, .kept (List.getElem?_eq_getElem inside) (fun start name begun reached => ?_)
          fun name escaped => next ⟨name, escaped⟩⟩
        by_contra ended
        rcases reached.lt_or_eq with earlier | rfl
        · exact covered ⟨start, name, begun, earlier, by omega⟩
        · exact begins ⟨name, begun⟩

end Positions

/-! ### The parts of a text at their positions -/

/-- The parts lie end to end from a position on: each character that is no part of a reference, each
escaped reference with its dollar, and each unescaped one. -/
inductive Placed (cs : List Char) : Nat → List Segment → Prop
  | done : Placed cs cs.length []
  | char {position : Nat} {c : Char} {parts : List Segment} (here : cs[position]? = some c)
      (unreferenced : ∀ name, ¬ StandsAt cs position name)
      (plain : ∀ name, ¬ EscapedAt cs (position + 1) name)
      (later : Placed cs (position + 1) parts) :
      Placed cs position (.char c :: parts)
  | escaped {position : Nat} {name : List Char} {parts : List Segment}
      (next : EscapedAt cs (position + 1) name)
      (later : Placed cs (position + 1 + (written name).length) parts) :
      Placed cs position (.escaped name :: parts)
  | reference {position : Nat} {name : List Char} {parts : List Segment}
      (begins : UnescapedAt cs position name)
      (later : Placed cs (position + (written name).length) parts) :
      Placed cs position (.reference name :: parts)

theorem segments_reference {name : List Char} (named : IsName name) (after : List Char) :
    segments (written name ++ after) = .reference name :: segments after := by
  have read := (readName?_eq_some_iff (name ++ '\x7d' :: after) name after).mpr ⟨named, rfl⟩
  have front : written name ++ after = '$' :: '\x7b' :: (name ++ '\x7d' :: after) := by
    simp [written]
  rw [front, segments]
  split
  · rename_i name' after' found
    rw [read] at found
    cases found
    rfl
  · rename_i found
    rw [read] at found
    cases found

theorem StandsAt.drop_eq {cs : List Char} {position : Nat} {name : List Char}
    (stands : StandsAt cs position name) :
    cs.drop position = written name ++ cs.drop (position + (written name).length) := by
  obtain ⟨-, after, split⟩ := stands
  rw [← List.drop_drop, ← split, List.drop_left]

/-- What follows a reference is not escaped by it. -/
theorem StandsAt.not_escapedAt {cs : List Char} {position : Nat} {name name' : List Char}
    (stands : StandsAt cs position name) :
    ¬ EscapedAt cs (position + (written name).length) name' := by
  rintro ⟨-, before, next, dollar⟩
  have longer : 1 < (written name).length := by simp [written]
  exact stands.ne_dollar (by omega) (by omega) dollar

theorem placed_segments_drop (cs : List Char) (position : Nat) (reached : position ≤ cs.length)
    (unescaped : ∀ name, ¬ EscapedAt cs position name) :
    Placed cs position (segments (cs.drop position)) := by
  -- by how much is left, since a reference is read as a whole
  induction left : cs.length - position using Nat.strong_induction_on generalizing position with
  | _ n ih =>
    subst left
    by_cases begun : ∃ name, StandsAt cs position name
    · obtain ⟨name, stands⟩ := begun
      have filled : 0 < (written name).length := by simp [written]
      have fits := stands.length_le
      have begins : UnescapedAt cs position name :=
        ⟨stands, fun before here dollar => unescaped name ⟨stands, before, here, dollar⟩⟩
      rw [stands.drop_eq, segments_reference stands.1]
      exact .reference begins
        (ih _ (by omega) _ fits (fun name' => stands.not_escapedAt) rfl)
    · have unreferenced : ∀ name, ¬ StandsAt cs position name := not_exists.mp begun
      rcases reached.eq_or_lt with rfl | further
      · rw [List.drop_length, segments]
        exact .done
      · have here := List.getElem?_eq_getElem further
        have split := List.drop_eq_getElem_cons further
        generalize cs[position] = c at here split
        by_cases next : ∃ name, EscapedAt cs (position + 1) name
        · obtain ⟨name, next⟩ := next
          obtain rfl := Option.some.inj (here.symm.trans next.dollar)
          have fits := next.1.length_le
          rw [split, next.1.drop_eq, segments_escaped next.1.1]
          exact .escaped next
            (ih _ (by omega) _ fits (fun name' => next.1.not_escapedAt) rfl)
        · have plain : ∀ name, ¬ EscapedAt cs (position + 1) name := not_exists.mp next
          have unbegun : ¬ Begins (c :: cs.drop (position + 1)) := by
            rw [← split, begins_drop_iff]
            exact begun
          have unfollowed : c = '$' → ¬ Begins (cs.drop (position + 1)) := by
            rintro rfl follows
            obtain ⟨name, stands⟩ := begins_drop_iff.mp follows
            exact plain name ⟨stands, position, rfl, here⟩
          rw [split, segments_char unbegun unfollowed]
          exact .char here unreferenced plain (ih _ (by omega) _ (by omega) plain rfl)

/-- **The parts of a text lie end to end from its beginning.** -/
theorem placed_segments (cs : List Char) : Placed cs 0 (segments cs) := by
  refine placed_segments_drop cs 0 (Nat.zero_le _) ?_
  rintro name ⟨-, before, next, -⟩
  omega

/-! ### What the parts come to -/

section Parts

variable {environment : Environment} {cs : List Char} {position start stop : Nat}
  {name : List Char} {parts : List Segment}

/-- No unescaped reference begins at any of the positions. -/
def Free (cs : List Char) (start stop : Nat) : Prop :=
  ∀ position name, start ≤ position → position < stop → ¬ UnescapedAt cs position name

/-- Every unescaped reference that begins before the position ends before it. -/
def Clear (cs : List Char) (position : Nat) : Prop :=
  ∀ start name, UnescapedAt cs start name → start < position →
    start + (written name).length ≤ position

theorem Clear.of_free (clear : Clear cs start) (free : Free cs start stop) (le : start ≤ stop) :
    Clear cs stop := by
  intro position name begins before
  by_cases earlier : position < start
  · exact (clear position name begins earlier).trans le
  · exact absurd begins (free position name (by omega) before)

theorem Clear.of_reference (clear : Clear cs position) (begins : UnescapedAt cs position name) :
    Clear cs (position + (written name).length) := by
  intro start name' begins' before
  rcases lt_trichotomy start position with earlier | rfl | later
  · exact (clear start name' begins' earlier).trans (Nat.le_add_right _ _)
  · rw [begins.1.name_unique begins'.1]
  · exact absurd begins'.1 (begins.1.not_standsAt later before)

theorem free_of_char (unreferenced : ∀ name, ¬ StandsAt cs position name) :
    Free cs position (position + 1) := by
  intro other name after before begins
  obtain rfl : position = other := by omega
  exact unreferenced name begins.1

theorem free_of_escapedAt (next : EscapedAt cs (position + 1) name) :
    Free cs position (position + 1 + (written name).length) := by
  intro other name' after before begins
  rcases lt_trichotomy other (position + 1) with earlier | rfl | later
  · obtain rfl : position = other := by omega
    exact next.not_standsAt begins.1
  · exact begins.2 position rfl next.dollar
  · exact next.1.not_standsAt later before begins.1

/-- The search goes on behind positions that hold no reference to a lacking variable. -/
theorem firstLackingFrom_iff_of_given (le : start ≤ stop)
    (given : ∀ position name, start ≤ position → position < stop → UnescapedAt cs position name →
      ¬ environment.Lacks (String.ofList name)) (asked : String) :
    FirstLackingFrom environment cs start asked ↔ FirstLackingFrom environment cs stop asked := by
  unfold FirstLackingFrom
  refine exists_congr fun position => exists_congr fun chars => ?_
  constructor
  · rintro ⟨after, begins, rfl, lacks, first⟩
    have behind : stop ≤ position := by
      by_contra before
      exact given position chars after (by omega) begins lacks
    exact ⟨behind, begins, rfl, lacks, fun earlier other reached =>
      first earlier other (le.trans reached)⟩
  · rintro ⟨after, begins, rfl, lacks, first⟩
    refine ⟨le.trans after, begins, rfl, lacks, fun earlier other reached before standing => ?_⟩
    by_cases behind : stop ≤ earlier
    · exact first earlier other behind before standing
    · exact given earlier other reached (by omega) standing

theorem firstLackingFrom_iff_of_free (free : Free cs start stop) (le : start ≤ stop)
    (asked : String) :
    FirstLackingFrom environment cs start asked ↔ FirstLackingFrom environment cs stop asked :=
  firstLackingFrom_iff_of_given le
    (fun position name after before begins => absurd begins (free position name after before)) asked

theorem firstLackingFrom_of_lacks (begins : UnescapedAt cs position name)
    (lacks : environment.Lacks (String.ofList name)) (asked : String) :
    FirstLackingFrom environment cs position asked ↔ String.ofList name = asked := by
  constructor
  · rintro ⟨found, chars, after, begins', rfl, -, first⟩
    rcases after.lt_or_eq with later | rfl
    · exact absurd lacks (first position name le_rfl later begins)
    · rw [begins.1.name_unique begins'.1]
  · rintro rfl
    exact ⟨position, name, le_rfl, begins, rfl, lacks, fun earlier _ reached before => by omega⟩

theorem firstLackingFrom_of_reference (begins : UnescapedAt cs position name)
    (given : ¬ environment.Lacks (String.ofList name)) (asked : String) :
    FirstLackingFrom environment cs position asked ↔
      FirstLackingFrom environment cs (position + (written name).length) asked := by
  refine firstLackingFrom_iff_of_given (Nat.le_add_right _ _) ?_ asked
  intro other name' after before begins'
  rcases after.lt_or_eq with later | rfl
  · exact absurd begins'.1 (begins.1.not_standsAt later before)
  · rw [← begins.1.name_unique begins'.1]
    exact given

/-- The names of the references among the parts. -/
def namesOf (parts : List Segment) : List String :=
  parts.filterMap fun
    | .reference name => some (String.ofList name)
    | _ => none

/-- **The first variable that the parts lack is that of the first position to lack one.** -/
theorem head?_namesOf_eq_some_iff (placed : Placed cs position parts) (asked : String) :
    ((namesOf parts).filter fun name => (environment.filled? name).isNone).head? = some asked ↔
      FirstLackingFrom environment cs position asked := by
  induction placed with
  | done =>
    refine iff_of_false (by simp [namesOf]) ?_
    rintro ⟨position, chars, after, begins, -⟩
    have fits := begins.1.length_le
    simp [written] at fits
    omega
  | char here unreferenced plain later ih =>
    rw [firstLackingFrom_iff_of_free (free_of_char unreferenced) (Nat.le_succ _), ← ih]
    rfl
  | escaped next later ih =>
    rw [firstLackingFrom_iff_of_free (free_of_escapedAt next) (by omega), ← ih]
    rfl
  | @reference position name parts begins later ih =>
    have names : namesOf (.reference name :: parts) = String.ofList name :: namesOf parts := rfl
    rw [names, List.filter_cons]
    by_cases lacks : environment.Lacks (String.ofList name)
    · rw [firstLackingFrom_of_lacks begins lacks]
      rw [environment.lacks_iff] at lacks
      simp [lacks]
    · rw [firstLackingFrom_of_reference begins lacks, ← ih]
      rw [environment.lacks_iff] at lacks
      simp [lacks]

variable {piece : Nat → List Char}

/-- What comes of the positions up to the end, cut at a position in between. -/
theorem flatMap_range'_split (piece : Nat → List Char) {stop last : Nat} (after : position ≤ stop)
    (before : stop ≤ last) :
    (List.range' position (last - position)).flatMap piece =
      (List.range' position (stop - position)).flatMap piece ++
        (List.range' stop (last - stop)).flatMap piece := by
  have ends : position + (stop - position) = stop := by omega
  have lengths : stop - position + (last - stop) = last - position := by omega
  have whole : List.range' position (stop - position) ++ List.range' stop (last - stop) =
      List.range' position (last - position) := by
    rw [← lengths, ← List.range'_append_1, ends]
  rw [← whole, List.flatMap_append]

/-- Positions that are kept come to the characters there. -/
theorem flatMap_range'_kept {count : Nat}
    (kept : ∀ offset < count, ∃ c, cs[position + offset]? = some c ∧
      piece (position + offset) = [c]) :
    (List.range' position count).flatMap piece = (cs.drop position).take count := by
  induction count generalizing position with
  | zero => rfl
  | succ count ih =>
    obtain ⟨c, here, piece_eq⟩ := kept 0 (Nat.succ_pos count)
    rw [Nat.add_zero] at here piece_eq
    obtain ⟨inside, rfl⟩ := List.getElem?_eq_some_iff.mp here
    rw [List.range'_succ, List.flatMap_cons, piece_eq, List.drop_eq_getElem_cons inside,
      List.take_succ_cons, ih, List.singleton_append]
    intro offset before
    have later := kept (offset + 1) (Nat.succ_lt_succ before)
    rw [show position + (offset + 1) = position + 1 + offset by omega] at later
    exact later

/-- An escaped reference comes to itself without the dollar in front. -/
theorem flatMap_escaped (clear : Clear cs position) (next : EscapedAt cs (position + 1) name)
    (comes : ∀ other < cs.length, Comes environment cs other (piece other)) :
    (List.range' position ((written name).length + 1)).flatMap piece = written name := by
  have fits := next.1.length_le
  have kept : ∀ offset < (written name).length, ∃ c, cs[position + 1 + offset]? = some c ∧
      piece (position + 1 + offset) = [c] := by
    intro offset before
    have inside : position + 1 + offset < cs.length := by omega
    refine ⟨_, List.getElem?_eq_getElem inside, ?_⟩
    refine (comes _ inside).unique (.kept (List.getElem?_eq_getElem inside) ?_ ?_)
    · intro start name' begins reached
      by_cases earlier : start < position
      · exact (clear start name' begins earlier).trans (by omega)
      · exact absurd begins
          (free_of_escapedAt next start name' (by omega) (by omega))
    · intro name' escaped
      -- only the first character of the reference is a dollar, and what follows it is a brace
      have longer : 1 < (written name).length := by simp [written]
      rcases Nat.eq_zero_or_pos offset with rfl | later
      · exact next.1.not_standsAt (Nat.lt_succ_self _) (by omega) escaped.1
      · exact next.1.ne_dollar (by omega) (by omega) escaped.dollar
  obtain ⟨-, after, split⟩ := next.1
  rw [List.range'_succ, List.flatMap_cons, (comes position (by omega)).eq_of_escapedAt next,
    flatMap_range'_kept kept, ← split, List.take_left, List.nil_append]

/-- An unescaped reference comes to the value of its variable. -/
theorem flatMap_reference (begins : UnescapedAt cs position name)
    (comes : ∀ other < cs.length, Comes environment cs other (piece other)) :
    (List.range' position (written name).length).flatMap piece =
      ((environment.filled? (String.ofList name)).getD "").toList := by
  have fits := begins.1.length_le
  obtain ⟨left, long⟩ : ∃ left, (written name).length = left + 1 :=
    ⟨name.length + 2, by simp [written]⟩
  rw [long] at fits ⊢
  obtain ⟨value, found, filled, piece_eq⟩ := (comes position (by omega)).eq_of_unescapedAt begins
  have nothing : (List.range' (position + 1) left).flatMap piece = [] := by
    rw [List.flatMap_eq_nil_iff]
    intro other inside
    obtain ⟨after, before⟩ := List.mem_range'_1.mp inside
    exact (comes other (by omega)).eq_of_inside begins (by omega) (by omega)
  rw [List.range'_succ, List.flatMap_cons, piece_eq, nothing, List.append_nil,
    (environment.filled?_eq_some_iff _ _).mpr ⟨found, filled⟩, Option.getD_some]

/-- **What the positions come to is what the parts come to.** -/
theorem flatMap_comes_eq (placed : Placed cs position parts) (clear : Clear cs position)
    (comes : ∀ other < cs.length, Comes environment cs other (piece other)) :
    (List.range' position (cs.length - position)).flatMap piece =
      parts.flatMap (Segment.filled environment) := by
  induction placed with
  | done => simp
  | @char position c parts here unreferenced plain later ih =>
    obtain ⟨inside, -⟩ := List.getElem?_eq_some_iff.mp here
    have free := free_of_char unreferenced
    have kept : piece position = [c] := by
      refine (comes position inside).unique (.kept here (fun start name begins reached => ?_) plain)
      rcases reached.lt_or_eq with earlier | rfl
      · exact clear start name begins earlier
      · exact absurd begins.1 (unreferenced name)
    rw [flatMap_range'_split piece (Nat.le_succ position) inside,
      ih (clear.of_free free (Nat.le_succ _)), Nat.succ_sub (le_refl position), Nat.sub_self]
    simp [kept, Segment.filled]
  | @escaped position name parts next later ih =>
    have fits := next.1.length_le
    have behind := ih (clear.of_free (free_of_escapedAt next) (by omega))
    rw [flatMap_range'_split piece (by omega : position ≤ _) fits, behind,
      show position + 1 + (written name).length - position = (written name).length + 1 by omega,
      flatMap_escaped clear next comes]
    rfl
  | @reference position name parts begins later ih =>
    have fits := begins.1.length_le
    have behind := ih (clear.of_reference begins)
    rw [flatMap_range'_split piece (Nat.le_add_right position _) fits, behind,
      Nat.add_sub_cancel_left, flatMap_reference begins comes]
    rfl

end Parts

/-! ### A whole text -/

section Whole

variable (environment : Environment) (text : String)

/-- **A text cannot be filled in exactly when an unescaped reference lacks its variable, and then
the leftmost one is told.** -/
theorem substitute_eq_error_iff_firstLacking (name : String) :
    substitute environment text = .error name ↔ FirstLacking environment text name := by
  unfold FirstLacking
  rw [substitute_eq_error_iff, ← head?_namesOf_eq_some_iff (placed_segments text.toList)]
  rfl

theorem exists_firstLacking_iff :
    (∃ name, FirstLacking environment text name) ↔ HasLacking environment text := by
  constructor
  · rintro ⟨_, position, chars, -, begins, rfl, lacks, -⟩
    exact ⟨position, chars, begins, lacks⟩
  · rintro ⟨position, chars, begins, lacks⟩
    -- of all positions to lack a variable, the least
    induction position using Nat.strong_induction_on generalizing chars with
    | _ position ih =>
      by_cases first : ∀ earlier other, earlier < position → UnescapedAt text.toList earlier other →
          ¬ environment.Lacks (String.ofList other)
      · exact ⟨_, position, chars, Nat.zero_le _, begins, rfl, lacks, fun earlier other _ =>
          first earlier other⟩
      · push Not at first
        obtain ⟨earlier, other, before, standing, lacks'⟩ := first
        exact ih earlier before other standing lacks'

theorem missingIn_eq_nil_iff : missingIn environment text = [] ↔ ¬ HasLacking environment text := by
  rw [← exists_firstLacking_iff, ← List.head?_eq_none_iff, Option.eq_none_iff_forall_ne_some,
    not_exists]
  simp only [ne_eq, ← substitute_eq_error_iff, substitute_eq_error_iff_firstLacking]

/-- What the positions of a text come to, put together, is the text filled in. -/
theorem ofList_flatMap_comes_eq {piece : Nat → List Char}
    (comes : ∀ position < text.toList.length,
      Comes environment text.toList position (piece position)) :
    String.ofList ((List.range text.toList.length).flatMap piece) = filled environment text := by
  have clear : Clear text.toList 0 := fun start name _ before => absurd before (Nat.not_lt_zero _)
  rw [List.range_eq_range', filled,
    ← flatMap_comes_eq (placed_segments text.toList) clear comes, Nat.sub_zero]

/-- Every position of a text comes to something exactly when no variable is lacking. -/
theorem exists_pieces_iff :
    (∃ piece : Nat → List Char, ∀ position < text.toList.length,
      Comes environment text.toList position (piece position)) ↔
      ¬ HasLacking environment text := by
  constructor
  · rintro ⟨piece, comes⟩ ⟨position, name, begins, lacks⟩
    have fits := begins.1.length_le
    have filled : 0 < (written name).length := by simp [written]
    obtain ⟨value, found, given, -⟩ := (comes position (by omega)).eq_of_unescapedAt begins
    exact given (lacks value found)
  · intro complete
    have given : ∀ position name, UnescapedAt text.toList position name →
        ¬ environment.Lacks (String.ofList name) :=
      fun position name begins lacks => complete ⟨position, name, begins, lacks⟩
    have each : ∀ position, ∃ piece, position < text.toList.length →
        Comes environment text.toList position piece := by
      intro position
      by_cases inside : position < text.toList.length
      · obtain ⟨piece, comes⟩ := exists_comes given inside
        exact ⟨piece, fun _ => comes⟩
      · exact ⟨[], fun within => absurd within inside⟩
    choose piece comes using each
    exact ⟨piece, comes⟩

/-- **A text is filled in with what its positions come to.** -/
theorem substitute_eq_ok_iff_comes (result : String) :
    substitute environment text = .ok result ↔
      ∃ piece : Nat → List Char,
        (∀ position < text.toList.length,
          Comes environment text.toList position (piece position)) ∧
        result = String.ofList ((List.range text.toList.length).flatMap piece) := by
  rw [substitute_eq_ok_iff, missingIn_eq_nil_iff, ← exists_pieces_iff]
  constructor
  · rintro ⟨⟨piece, comes⟩, rfl⟩
    exact ⟨piece, comes, (ofList_flatMap_comes_eq environment text comes).symm⟩
  · rintro ⟨piece, comes, rfl⟩
    exact ⟨⟨piece, comes⟩, (ofList_flatMap_comes_eq environment text comes).symm⟩

/-- A text without a dollar is left as it is. -/
theorem substitute_of_undollared (undollared : '$' ∉ text.toList) :
    substitute environment text = .ok text := by
  have absent : ∀ position, text.toList[position]? ≠ some '$' :=
    fun position dollar => undollared (List.mem_of_getElem? dollar)
  refine (substitute_eq_ok_iff_comes environment text text).mpr
    ⟨fun position => text.toList[position]?.toList, fun position inside => ?_, ?_⟩
  · show Comes environment text.toList position text.toList[position]?.toList
    rw [List.getElem?_eq_getElem inside]
    exact .kept (List.getElem?_eq_getElem inside)
      (fun start name begins _ => absurd begins.1.dollar (absent start))
      (fun name escaped => absent position escaped.dollar)
  · have kept : ∀ offset < text.toList.length, ∃ c, text.toList[0 + offset]? = some c ∧
        text.toList[0 + offset]?.toList = [c] := by
      intro offset inside
      rw [Nat.zero_add, List.getElem?_eq_getElem inside]
      exact ⟨_, rfl, rfl⟩
    rw [List.range_eq_range', flatMap_range'_kept kept, List.drop_zero, List.take_length,
      String.ofList_toList]

/-- **Replacing the references of a text goes by its positions.** It fails exactly when an unescaped
reference is to a variable without a value, and then by the leftmost one; otherwise the result is
what the positions come to, one after the other. A text without a dollar is left as it is. -/
theorem substitution_goes_by_positions :
    ((∃ name, substitute environment text = .error name) ↔ HasLacking environment text) ∧
    (∀ name, substitute environment text = .error name ↔ FirstLacking environment text name) ∧
    (∀ result, substitute environment text = .ok result ↔
      ∃ piece : Nat → List Char,
        (∀ position < text.toList.length,
          Comes environment text.toList position (piece position)) ∧
        result = String.ofList ((List.range text.toList.length).flatMap piece)) ∧
    ('$' ∉ text.toList → substitute environment text = .ok text) := by
  refine ⟨?_, substitute_eq_error_iff_firstLacking environment text,
    substitute_eq_ok_iff_comes environment text, substitute_of_undollared environment text⟩
  simp only [substitute_eq_error_iff_firstLacking, exists_firstLacking_iff]

end Whole

/-- Of three dollars in a row the last two belong to an escaped reference. What a variable holds is
put in as it is, also where it looks like a reference. -/
theorem values_are_not_read_again :
    (∃ piece : Nat → List Char,
      (∀ position < 10, Comes (.ofList [("B", "$\x7bA\x7d")])
        "$$$\x7bA\x7d$\x7bB\x7d".toList position (piece position)) ∧
      "$$\x7bA\x7d$\x7bA\x7d" = String.ofList ((List.range 10).flatMap piece)) ∧
    FirstLacking (.ofList [("B", "")]) "$$$\x7bA\x7d$\x7bB\x7d" "B" ∧
    substitute (.ofList []) "\x7bA\x7d" = .ok "\x7bA\x7d" := by
  obtain ⟨-, -, put, -⟩ :=
    substitution_goes_by_positions (.ofList [("B", "$\x7bA\x7d")]) "$$$\x7bA\x7d$\x7bB\x7d"
  obtain ⟨-, told, -⟩ :=
    substitution_goes_by_positions (.ofList [("B", "")]) "$$$\x7bA\x7d$\x7bB\x7d"
  obtain ⟨-, -, -, kept⟩ := substitution_goes_by_positions (.ofList []) "\x7bA\x7d"
  exact ⟨(put _).mp (by decide +kernel), (told _).mp (by decide +kernel), kept (by decide)⟩

end Reference

end AccessAudit
