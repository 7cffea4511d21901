/-
**What is visible of a text.**

The visible characters are found by a scan that is outside or inside an escape sequence. An escape
character takes it inside, the next `m` takes it out, and only what it meets outside is visible. So
one text has a hold on what follows it by one thing alone, which is where the scan stands at its
end. A text in which an `m` follows every escape character leaves the scan outside, and what is
visible of two texts, of which the first is such a text, is what is visible of each of them.

The sequences of styles take the scan out on their own, wherever it stands, and nothing of them is
visible. This is why a painted text reads like the bare one even if that one holds an escape
character with no end: what is left of the sequence is ended by the one that switches the style off.

* `insideAfter`: where the scan stands behind some characters;
* `IsClosed`: an `m` follows every escape character, and `isClosed_iff`: the scan ends outside;
* `visible_append`: a closed text and a text behind it;
* `escape_notMem_visible`, `visible_visible`: no escape character is visible, and nothing more is
  lost when the visible text is scanned again;
* `Painted`, `Painted.visible_eq`: a text in some style or in none reads the same.
-/
import AccessAudit.Terminal
import Mathlib.Tactic.SplitIfs

namespace AccessAudit.Text

/-! ### Where the scan stands -/

/-- Whether the scan is inside an escape sequence behind these characters. -/
def insideAfter (inside : Bool) : List Char → Bool
  | [] => inside
  | c :: rest => insideAfter (if inside then c != 'm' else c == escape) rest

/-- Behind every escape character of the text stands the letter that ends a sequence. -/
def IsClosed (text : String) : Prop :=
  ∀ rest, escape :: rest <:+ text.toList → 'm' ∈ rest

theorem insideAfter_append (inside : Bool) (front back : List Char) :
    insideAfter inside (front ++ back) = insideAfter (insideAfter inside front) back := by
  induction front generalizing inside with
  | nil => rfl
  | cons c front ih => exact ih _

/-- **The scan of two parts is the scan of the first, and that of the second from where the first
one ends.** -/
theorem visibleFrom_append (inside : Bool) (front back : List Char) :
    visibleFrom inside (front ++ back) =
      visibleFrom inside front ++ visibleFrom (insideAfter inside front) back := by
  induction front generalizing inside with
  | nil => rfl
  | cons c front ih =>
    rw [List.cons_append, visibleFrom, visibleFrom, insideAfter]
    cases inside with
    | true => exact ih _
    | false =>
      by_cases escaped : c = escape
      · simpa [escaped] using ih true
      · simpa [escaped, beq_eq_false_iff_ne.mpr escaped] using ih false

/-- The scan ends outside exactly when it comes out, should it begin inside, and whenever an escape
character has taken it inside. -/
theorem insideAfter_eq_false_iff (inside : Bool) (cs : List Char) :
    insideAfter inside cs = false ↔
      (inside = true → 'm' ∈ cs) ∧ ∀ rest, escape :: rest <:+ cs → 'm' ∈ rest := by
  induction cs generalizing inside with
  | nil => cases inside <;> simp [insideAfter]
  | cons c cs ih =>
    have first : (∀ rest, escape :: rest <:+ c :: cs → 'm' ∈ rest) ↔
        (c = escape → 'm' ∈ cs) ∧ ∀ rest, escape :: rest <:+ cs → 'm' ∈ rest := by
      simp only [List.suffix_cons_iff, List.cons.injEq, or_imp, forall_and, and_imp]
      refine and_congr_left' ⟨fun ends same => ends cs same.symm rfl, ?_⟩
      rintro ends rest rfl rfl
      exact ends rfl
    rw [insideAfter, ih, first]
    cases inside with
    | true =>
      -- An escape character inside a sequence changes nothing: an `m` is still to come.
      by_cases last : c = 'm'
      · simp [last, escape]
      · simp +contextual [last, Ne.symm last]
    | false => simp

theorem isClosed_iff {text : String} : IsClosed text ↔ insideAfter false text.toList = false := by
  rw [insideAfter_eq_false_iff]
  simp [IsClosed]

instance : DecidablePred IsClosed := fun _ => decidable_of_iff _ isClosed_iff.symm

theorem IsClosed.append {front back : String} (closed : IsClosed front) (closed' : IsClosed back) :
    IsClosed (front ++ back) := by
  rw [isClosed_iff] at closed closed' ⊢
  rw [String.toList_append, insideAfter_append, closed, closed']

/-! ### The visible text -/

theorem toList_visible (text : String) : (visible text).toList = visibleFrom false text.toList :=
  String.toList_ofList

/-- **What is visible of a closed text and of a text behind it is what is visible of each.** -/
theorem visible_append {front : String} (closed : IsClosed front) (back : String) :
    visible (front ++ back) = visible front ++ visible back := by
  rw [String.ext_iff, String.toList_append]
  simp only [toList_visible]
  rw [String.toList_append, visibleFrom_append, isClosed_iff.mp closed]

/-- What is visible are characters of the text other than the escape character. -/
theorem mem_visible {c : Char} {text : String} (shown : c ∈ (visible text).toList) :
    c ∈ text.toList ∧ c ≠ escape := by
  have scanned : ∀ inside cs, c ∈ visibleFrom inside cs → c ∈ cs ∧ c ≠ escape := by
    intro inside cs
    induction cs generalizing inside with
    | nil => exact fun found => absurd found List.not_mem_nil
    | cons first cs ih =>
      intro found
      rw [visibleFrom] at found
      split_ifs at found with within escaped
      · exact (ih _ found).imp_left (List.mem_cons_of_mem _)
      · exact (ih _ found).imp_left (List.mem_cons_of_mem _)
      · rcases List.mem_cons.mp found with rfl | found
        · exact ⟨List.mem_cons_self, escaped⟩
        · exact (ih _ found).imp_left (List.mem_cons_of_mem _)
  rw [toList_visible] at shown
  exact scanned _ _ shown

/-- **No escape character is visible.** -/
theorem escape_notMem_visible (text : String) : escape ∉ (visible text).toList :=
  fun shown => (mem_visible shown).2 rfl

/-- A text without escape characters is closed. -/
theorem isClosed_of_plain {text : String} (plain : escape ∉ text.toList) : IsClosed text :=
  fun _ ended => absurd (ended.subset List.mem_cons_self) plain

/-- A text without escape characters is visible as it is. -/
theorem visible_of_plain {text : String} (plain : escape ∉ text.toList) : visible text = text := by
  rw [String.ext_iff, toList_visible]
  generalize text.toList = cs at plain
  induction cs with
  | nil => rfl
  | cons c cs ih =>
    rw [List.mem_cons, not_or] at plain
    simp [visibleFrom, Ne.symm plain.1, ih plain.2]

/-- **What is visible is all visible.** -/
theorem visible_visible (text : String) : visible (visible text) = visible text :=
  visible_of_plain (escape_notMem_visible text)

/-! ### Texts in colour -/

/-- The sequence of a style shows nothing and takes the scan out, wherever it stands. -/
theorem Style.scan_sequence (style : Style) (inside : Bool) :
    visibleFrom inside style.sequence.toList = [] ∧
      insideAfter inside style.sequence.toList = false := by
  cases style <;> cases inside <;> decide +kernel

/-- **What is visible of a painted text is what is visible of the text**, whether it is closed or
not, and whether the terminal shows colours or not. -/
theorem visible_paint (terminal : Terminal) (style : Style) (text : String) :
    visible (terminal.paint style text) = visible text := by
  unfold Terminal.paint
  split_ifs with coloured
  · -- The text may leave the scan inside; the last sequence is not visible from there either.
    rw [String.ext_iff]
    simp only [toList_visible, String.toList_append, visibleFrom_append, insideAfter_append,
      style.scan_sequence, Style.plain.scan_sequence, List.nil_append, List.append_nil]
  · rfl

theorem IsClosed.paint {text : String} (closed : IsClosed text) (terminal : Terminal)
    (style : Style) : IsClosed (terminal.paint style text) := by
  unfold Terminal.paint
  split_ifs with coloured
  · rw [isClosed_iff]
    simp only [String.toList_append, insideAfter_append, Style.plain.scan_sequence]
  · exact closed

/-- The text as it is, or in some style. -/
def Painted (terminal : Terminal) (text painted : String) : Prop :=
  painted = text ∨ ∃ style, painted = terminal.paint style text

section Painted

variable {terminal : Terminal} {text painted : String}

theorem Painted.visible_eq (paint : Painted terminal text painted) :
    visible painted = visible text := by
  rcases paint with rfl | ⟨style, rfl⟩
  · rfl
  · exact visible_paint terminal style text

theorem Painted.isClosed (paint : Painted terminal text painted) (closed : IsClosed text) :
    IsClosed painted := by
  rcases paint with rfl | ⟨style, rfl⟩
  · exact closed
  · exact closed.paint terminal style

end Painted

end AccessAudit.Text
