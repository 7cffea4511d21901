/-
**Patterns that cover what other patterns cover.**

Of two patterns one may name every action that the other one names. To find out it is enough to ask
whether it names the text of the other one, the wildcard in it taken as a character like others. If
it does, its front begins the front of the other one and its back ends the back, since it cannot
reach over a wildcard; so it names whatever the other one names. If it does not, some action tells
the two apart: the other pattern itself when it has no wildcard, and otherwise the pattern with one
letter in place of the wildcard, where of two letters one at least will do.

* `prefix_or_of_prefix_append_cons`, `suffix_or_of_suffix_append_cons`: what begins a text ends
  before one of its characters or reaches over it;
* `covers_halves_iff`: when a pattern with a wildcard names the text of another one;
* `covers_trans`: a pattern that names the text of another one names all its actions;
* `covers_of_forall`: a pattern that names all its actions names the text;
* `covers_decides_inclusion`: both directions, and what they mean for rules.
-/
import AccessAudit.Proofs.Coverage
import AccessAudit.Proofs.PatternLanguage
import AccessAudit.Proofs.Tokens

namespace AccessAudit

namespace Pattern

/-! ### Beginnings and ends around a character -/

section Around

variable {α : Type} {part before after : List α} {a b : α}

/-- What begins a list ends before one of its items or reaches over it. -/
theorem prefix_or_of_prefix_append_cons (begins : part <+: before ++ a :: after) :
    part <+: before ∨ before ++ [a] <+: part := by
  rcases Nat.lt_or_ge before.length part.length with long | short
  · have reached : before ++ [a] <+: before ++ a :: after := ⟨after, by simp⟩
    have fits : (before ++ [a]).length ≤ part.length := by
      rw [List.length_append]
      exact long
    exact .inr (List.prefix_of_prefix_length_le reached begins fits)
  · exact .inl (List.prefix_of_prefix_length_le begins (List.prefix_append _ _) short)

/-- What ends a list begins behind one of its items or reaches over it. -/
theorem suffix_or_of_suffix_append_cons (ends : part <:+ before ++ a :: after) :
    part <:+ after ∨ a :: after <:+ part := by
  rcases Nat.lt_or_ge after.length part.length with long | short
  · exact .inr (List.suffix_of_suffix_length_le (List.suffix_append _ _) ends long)
  · have behind : after <:+ before ++ a :: after := ⟨before ++ [a], by simp⟩
    exact .inl (List.suffix_of_suffix_length_le ends behind short)

/-- What begins a list and does not hold an item ends before it. -/
theorem prefix_of_not_mem (plain : a ∉ part) (begins : part <+: before ++ a :: after) :
    part <+: before := by
  refine (prefix_or_of_prefix_append_cons begins).resolve_right fun reached => plain ?_
  exact reached.subset (by simp)

theorem suffix_of_not_mem (plain : a ∉ part) (ends : part <:+ before ++ a :: after) :
    part <:+ after := by
  refine (suffix_or_of_suffix_append_cons ends).resolve_right fun reached => plain ?_
  exact reached.subset List.mem_cons_self

/-- What begins two lists ends before the first item in which they differ. -/
theorem prefix_of_ne (different : a ≠ b) (begins : part <+: before ++ a :: after)
    (begins' : part <+: before ++ b :: after) : part <+: before := by
  rcases prefix_or_of_prefix_append_cons begins with short | reached
  · exact short
  · rcases prefix_or_of_prefix_append_cons begins' with short | reached'
    · exact short
    · have same := List.prefix_of_prefix_length_le reached reached' (by simp)
      simp [different] at same

theorem suffix_of_ne (different : a ≠ b) (ends : part <:+ before ++ a :: after)
    (ends' : part <:+ before ++ b :: after) : part <:+ after := by
  rcases suffix_or_of_suffix_append_cons ends with short | reached
  · exact short
  · rcases suffix_or_of_suffix_append_cons ends' with short | reached'
    · exact short
    · have within := List.suffix_of_suffix_length_le reached reached' (by simp)
      have same := within.eq_of_length (by simp)
      exact absurd (List.cons.inj same).1 different

end Around

/-! ### A pattern on the text of another one -/

/-- A well-formed pattern names one action, or it has a front and a back without wildcards. -/
theorem isConcrete_or_exists_halves {pattern : String} (formed : IsPattern pattern) :
    IsConcrete pattern ∨ ∃ front back : String, wildcard ∉ front.toList ∧
      wildcard ∉ back.toList ∧ pattern = front ++ "*" ++ back := by
  by_cases starred : wildcard ∈ pattern.toList
  · obtain ⟨front, back, plain, rfl⟩ := exists_halves starred
    refine .inr ⟨front, back, plain, fun another => ?_, rfl⟩
    have single := formed.2
    have more := List.count_pos_iff.mpr another
    rw [toList_halves, List.count_append] at single
    simp only [wildcard, List.count_cons_self] at single more
    omega
  · exact .inl ⟨formed.1, starred⟩

/-- **A pattern with a wildcard names the text of another one exactly when its front begins the
front of the other one and its back ends the back.** -/
theorem covers_halves_iff {front back : String} (plainFront : wildcard ∉ front.toList)
    (plainBack : wildcard ∉ back.toList) (front' back' : String) :
    covers (front ++ "*" ++ back) (front' ++ "*" ++ back') ↔
      front.toList <+: front'.toList ∧ back.toList <:+ back'.toList := by
  rw [covers_iff_prefix_and_suffix plainFront, toList_halves]
  constructor
  · rintro ⟨begins, ends⟩
    exact ⟨prefix_of_not_mem plainFront begins, suffix_of_not_mem plainBack ends⟩
  · rintro ⟨begins, ends⟩
    exact ⟨List.prefix_append_of_prefix begins, ends.trans ⟨front'.toList ++ [wildcard], by simp⟩⟩

theorem covers_self (pattern : String) : covers pattern pattern := by
  by_cases starred : wildcard ∈ pattern.toList
  · obtain ⟨front, back, plain, rfl⟩ := exists_halves starred
    rw [covers_iff_begins_and_ends plain]
    exact ⟨⟨"*" ++ back, String.append_assoc⟩, front ++ "*", rfl⟩
  · exact (covers_of_plain starred pattern).mpr rfl

/-- **A pattern that names the text of another one names all its actions.** -/
theorem covers_trans {wide narrow action : String} (formed : IsPattern wide)
    (included : covers wide narrow) (named : covers narrow action) : covers wide action := by
  rcases isConcrete_or_exists_halves formed with ⟨-, plain⟩ | ⟨front, back, plain, plain', rfl⟩
  · rwa [← (covers_of_plain plain narrow).mp included]
  · by_cases starred : wildcard ∈ narrow.toList
    · obtain ⟨front', back', plainFront', rfl⟩ := exists_halves starred
      rw [covers_halves_iff plain plain'] at included
      rw [covers_iff_prefix_and_suffix plainFront'] at named
      rw [covers_iff_prefix_and_suffix plain]
      exact ⟨included.1.trans named.1, included.2.trans named.2⟩
    · rwa [(covers_of_plain starred action).mp named]

/-- A pattern with a letter in place of its wildcard. -/
def filledWith (front back : String) (letter : Char) : String :=
  front ++ String.singleton letter ++ back

section Filled

variable {front back : String} {letter : Char}

theorem toList_filledWith :
    (filledWith front back letter).toList = front.toList ++ letter :: back.toList := by
  simp [filledWith]

theorem filledWith_isConcrete (plain : wildcard ∉ front.toList) (plain' : wildcard ∉ back.toList)
    (other : letter ≠ wildcard) : IsConcrete (filledWith front back letter) := by
  refine ⟨fun empty => ?_, ?_⟩
  · have nothing := congrArg String.toList empty
    simp [toList_filledWith] at nothing
  · rw [toList_filledWith]
    simp only [List.mem_append, List.mem_cons, not_or]
    exact ⟨plain, other.symm, plain'⟩

theorem covers_filledWith (plain : wildcard ∉ front.toList) :
    covers (front ++ "*" ++ back) (filledWith front back letter) :=
  (covers_iff_globs_or_overlaps plain).mpr (.inl ⟨String.singleton letter, rfl⟩)

end Filled

/-- **A pattern that names all the actions of another one names its text.** -/
theorem covers_of_forall {wide narrow : String} (formed : IsPattern narrow)
    (formedWide : IsPattern wide)
    (included : ∀ action, IsConcrete action → covers narrow action → covers wide action) :
    covers wide narrow := by
  rcases isConcrete_or_exists_halves formed with concrete | ⟨front, back, plain, plain', rfl⟩
  · exact included narrow concrete (covers_self narrow)
  · have filled : ∀ letter ≠ wildcard, covers wide (filledWith front back letter) :=
      fun letter other => included _ (filledWith_isConcrete plain plain' other)
        (covers_filledWith plain)
    have withA := filled 'a' (by decide)
    have withB := filled 'b' (by decide)
    rcases isConcrete_or_exists_halves formedWide with
      ⟨-, plainWide⟩ | ⟨frontWide, backWide, plainFront, plainBack, rfl⟩
    · -- no single action is the pattern filled with both letters
      rw [covers_of_plain plainWide] at withA withB
      have same := congrArg String.toList (withA.trans withB.symm)
      simp [toList_filledWith] at same
    · rw [covers_iff_prefix_and_suffix plainFront, toList_filledWith] at withA withB
      rw [covers_halves_iff plainFront plainBack]
      have different : 'a' ≠ 'b' := by decide
      exact ⟨prefix_of_ne different withA.1 withB.1, suffix_of_ne different withA.2 withB.2⟩

end Pattern

/-! ### A pattern replaced in a rule -/

/-- A rule covers an action that another one covers, if its patterns name it as well and its
exceptions name it only where those of the other one do. -/
theorem Coverage.Covers.of_named {coverage coverage' : Coverage} {action : String}
    (covered : coverage.Covers action)
    (patterns : ∀ pattern ∈ coverage.actions, Pattern.covers pattern action →
      ∃ other ∈ coverage'.actions, Pattern.covers other action)
    (exceptions : ∀ pattern ∈ coverage'.exceptions, Pattern.covers pattern action →
      ∃ other ∈ coverage.exceptions, Pattern.covers other action) : coverage'.Covers action := by
  obtain ⟨⟨pattern, listed, names⟩, spared⟩ := covered
  refine ⟨patterns pattern listed names, fun pattern listed names => ?_⟩
  obtain ⟨other, member, excepted⟩ := exceptions pattern listed names
  exact spared other member excepted

/-- An item of a list is still there when another one has been replaced. -/
theorem eq_or_mem_set {α : Type} {items : List α} {place : Nat} {old item : α} (new : α)
    (there : items[place]? = some old) (member : item ∈ items) :
    item = old ∨ item ∈ items.set place new := by
  obtain ⟨index, found⟩ := List.mem_iff_getElem?.mp member
  by_cases same : place = index
  · subst same
    exact .inl (Option.some.inj (found.symm.trans there))
  · rw [← List.getElem?_set_ne same] at found
    exact .inr (List.mem_of_getElem? found)

/-- Patterns name an action as before when one of them is replaced by a pattern that names its
text. -/
theorem exists_mem_set_covers {patterns : List String} {place : Nat} {narrow wide action : String}
    (formed : IsPattern wide) (included : Pattern.covers wide narrow)
    (there : patterns[place]? = some narrow) :
    ∀ pattern ∈ patterns, Pattern.covers pattern action →
      ∃ other ∈ patterns.set place wide, Pattern.covers other action := by
  intro pattern listed names
  rcases eq_or_mem_set wide there listed with rfl | kept
  · obtain ⟨inside, -⟩ := List.getElem?_eq_some_iff.mp there
    exact ⟨wide, List.mem_set inside wide, Pattern.covers_trans formed included names⟩
  · exact ⟨pattern, kept, names⟩

/-! ### Inclusion of patterns -/

/-- **Whether a pattern names every action that another one names is told by putting the text of
the other one to it.** So well-formed patterns include themselves and the patterns that those they
include do. Where a pattern of a rule is replaced by one that names its text, the rule covers what
it covered before; where this is done to an exception, the rule covers nothing that it did not. -/
theorem covers_decides_inclusion :
    (∀ narrow wide, IsPattern narrow → IsPattern wide →
      (Pattern.covers wide narrow ↔ ∀ action, IsConcrete action →
        Pattern.covers narrow action → Pattern.covers wide action)) ∧
    (∀ pattern, IsPattern pattern → Pattern.covers pattern pattern) ∧
    (∀ narrow middle wide, IsPattern narrow → IsPattern middle → IsPattern wide →
      Pattern.covers middle narrow → Pattern.covers wide middle → Pattern.covers wide narrow) ∧
    ∀ (coverage : Coverage) place narrow wide, IsPattern narrow → IsPattern wide →
      Pattern.covers wide narrow →
        (coverage.actions[place]? = some narrow → ∀ action, coverage.Covers action →
          { coverage with actions := coverage.actions.set place wide }.Covers action) ∧
        (coverage.exceptions[place]? = some narrow → ∀ action,
          { coverage with exceptions := coverage.exceptions.set place wide }.Covers action →
            coverage.Covers action) := by
  refine ⟨fun narrow wide formed formedWide => ⟨fun included action _ =>
      Pattern.covers_trans formedWide included, Pattern.covers_of_forall formed formedWide⟩,
    fun pattern _ => Pattern.covers_self pattern,
    fun narrow middle wide _ _ formedWide inner outer =>
      Pattern.covers_trans formedWide outer inner, ?_⟩
  intro coverage place narrow wide _ formedWide included
  have same : ∀ patterns : List String, ∀ action, ∀ pattern ∈ patterns,
      Pattern.covers pattern action → ∃ other ∈ patterns, Pattern.covers other action :=
    fun _ _ pattern listed names => ⟨pattern, listed, names⟩
  refine ⟨fun there action covered => ?_, fun there action covered => ?_⟩
  · exact covered.of_named (exists_mem_set_covers formedWide included there) (same _ _)
  · exact covered.of_named (same _ _) (exists_mem_set_covers formedWide included there)

/-- `Vault/s*s` names the text of `Vault/s*sets` and so all its actions. In `Vault/sets` the front
and the back of the narrower pattern share a letter, and the wider one names it too. The other way
round some action tells them apart. A rule still covers `Vault/sets` by the wider pattern, and what
is covered beside the wider exception was covered beside the narrower one. -/
theorem vault_patterns_include_by_text :
    let narrow := "Vault/s*sets"
    let wide := "Vault/s*s"
    (∀ action, IsConcrete action → Pattern.covers narrow action → Pattern.covers wide action) ∧
    Pattern.covers narrow "Vault/sets" ∧ Pattern.covers wide "Vault/sets" ∧
    (¬ ∀ action, IsConcrete action → Pattern.covers wide action → Pattern.covers narrow action) ∧
    Pattern.covers narrow narrow ∧ Pattern.covers "*" narrow ∧
    ({ actions := ["Vault/read", wide], exceptions := ["*/keys"] } : Coverage).Covers
      "Vault/sets" ∧
    ({ actions := ["*"], exceptions := [narrow] } : Coverage).Covers "Vault/secret" := by
  intro narrow wide
  obtain ⟨decided, reflexive, transitive, replaced⟩ := covers_decides_inclusion
  have formed : IsPattern narrow := by decide
  have formedWide : IsPattern wide := by decide
  have formedAll : IsPattern "*" := by decide
  have included : Pattern.covers wide narrow := by decide
  have inside := (decided narrow wide formed formedWide).mp included
  have widened := (replaced { actions := ["Vault/read", narrow], exceptions := ["*/keys"] } 1
    narrow wide formed formedWide included).1 rfl "Vault/sets" (by decide)
  have narrowed := (replaced { actions := ["*"], exceptions := [narrow] } 0
    narrow wide formed formedWide included).2 rfl "Vault/secret" (by decide)
  refine ⟨inside, by decide, inside "Vault/sets" (by decide) (by decide), fun back => ?_,
    reflexive narrow formed,
    transitive narrow wide "*" formed formedWide formedAll included (by decide), widened, narrowed⟩
  exact absurd ((decided wide narrow formedWide formed).mpr back) (by decide)

end AccessAudit
