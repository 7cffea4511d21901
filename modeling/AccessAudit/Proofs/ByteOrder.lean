/-
**The order of texts is the order of their bytes.**

Texts are compared by code point and shown in UTF-8, where another program compares them by byte.
Both orders are the same. Of two characters the one with the smaller code point has the smaller
bytes: the first byte tells how many follow, and a longer encoding has a larger first byte; with the
same number of bytes, each holds the next six bits of the code point. So the first character in
which two texts differ decides, and so does its first byte that differs.

* `Text.bytes`: the bytes of a text;
* `Text.KeepsOrder`: an encoding of numbers keeps their order, whatever follows;
* `Text.encodeChar_append_lt`: the encoding of characters does;
* `Text.lt_iff_bytes_lt`: texts are in the order of their bytes.
-/
import Mathlib.Data.String.Basic

namespace AccessAudit.Text

/-- The bytes of a text in UTF-8. -/
def bytes (text : String) : List UInt8 :=
  text.toByteArray.data.toList

theorem bytes_eq_flatMap (text : String) :
    bytes text = text.toList.flatMap String.utf8EncodeChar := by
  unfold bytes
  rw [← String.utf8Encode_toList]
  exact List.toList_data_toByteArray

/-! ### Numbers in bytes -/

/-- The encoding keeps the order of the numbers below a bound, whatever follows them. -/
def KeepsOrder (encode : Nat → List UInt8) (bound : Nat) : Prop :=
  ∀ ⦃n m⦄, n < m → m < bound → ∀ after after', encode n ++ after < encode m ++ after'

theorem cons_lt_of_lead {lead lead' : Nat} (fits : lead' < 256) (before : lead < lead')
    (after after' : List UInt8) : UInt8.ofNat lead :: after < UInt8.ofNat lead' :: after' := by
  refine List.cons_lt_cons_iff.mpr (.inl ?_)
  rw [UInt8.lt_iff_toNat_lt, UInt8.toNat_ofNat', UInt8.toNat_ofNat', Nat.mod_eq_of_lt fits,
    Nat.mod_eq_of_lt (before.trans fits)]
  exact before

/-- One byte that holds the whole number beside a mark. -/
theorem keepsOrder_lead (mark bound : Nat) (fits : bound + mark ≤ 256) :
    KeepsOrder (fun n => [UInt8.ofNat (n % bound + mark)]) bound := by
  intro n m before below after after'
  show UInt8.ofNat (n % bound + mark) :: after < UInt8.ofNat (m % bound + mark) :: after'
  rw [Nat.mod_eq_of_lt below, Nat.mod_eq_of_lt (before.trans below)]
  exact cons_lt_of_lead (by omega) (by omega) after after'

/-- One more byte at the end, which holds six more bits. -/
theorem KeepsOrder.continued {encode : Nat → List UInt8} {bound : Nat}
    (kept : KeepsOrder encode bound) :
    KeepsOrder (fun n => encode (n / 64) ++ [UInt8.ofNat (n % 64 + 128)]) (64 * bound) := by
  intro n m before below after after'
  rw [List.append_assoc, List.append_assoc]
  -- either the bits in front of the last six decide, or they are the same and these do
  by_cases ahead : n / 64 < m / 64
  · exact kept ahead (by omega) _ _
  · have same : n / 64 = m / 64 := by omega
    have last : n % 64 + 128 < m % 64 + 128 := by omega
    rw [same]
    exact List.append_left_lt (cons_lt_of_lead (by omega) last _ _)

/-! ### Characters in bytes -/

/-- **Of two characters the smaller one has the smaller bytes, whatever follows them.** -/
theorem encodeChar_append_lt {c d : Char} (before : c < d) (after after' : List UInt8) :
    String.utf8EncodeChar c ++ after < String.utf8EncodeChar d ++ after' := by
  have codes : c.val.toNat < d.val.toNat := before
  have bounded : d.val.toNat < 2097152 := by
    rcases d.valid with low | high <;> omega
  have two := (keepsOrder_lead 192 32 (by decide)).continued codes
  have three := (keepsOrder_lead 224 16 (by decide)).continued.continued codes
  have four := (keepsOrder_lead 240 8 (by decide)).continued.continued.continued codes
  simp only [Nat.div_div_eq_div_mul, List.append_assoc] at two three four
  unfold String.utf8EncodeChar
  simp only
  generalize c.val.toNat = code at *
  generalize d.val.toNat = code' at *
  split_ifs
  -- a smaller code point never takes more bytes
  any_goals omega
  -- one byte for the first character
  · exact cons_lt_of_lead (by omega) codes _ _
  · exact cons_lt_of_lead (by omega) (by omega) _ _
  · exact cons_lt_of_lead (by omega) (by omega) _ _
  · exact cons_lt_of_lead (by omega) (by omega) _ _
  -- two bytes
  · exact two (by omega) after after'
  · exact cons_lt_of_lead (by omega) (by omega) _ _
  · exact cons_lt_of_lead (by omega) (by omega) _ _
  -- three bytes
  · exact three (by omega) after after'
  · exact cons_lt_of_lead (by omega) (by omega) _ _
  -- four bytes
  · exact four bounded after after'

/-! ### Texts in bytes -/

theorem flatMap_encodeChar_lt {cs ds : List Char} (before : cs < ds) :
    cs.flatMap String.utf8EncodeChar < ds.flatMap String.utf8EncodeChar := by
  induction ds generalizing cs with
  | nil => exact absurd before (List.not_lt_nil cs)
  | cons d ds ih =>
    cases cs with
    | nil =>
      have spelled : String.utf8EncodeChar d ≠ [] := String.utf8EncodeChar_ne_nil
      obtain ⟨byte, others, first⟩ := List.exists_cons_of_ne_nil spelled
      rw [List.flatMap_nil, List.flatMap_cons, first, List.cons_append]
      exact List.nil_lt_cons _ _
    | cons c cs =>
      rw [List.flatMap_cons, List.flatMap_cons]
      rcases List.cons_lt_cons_iff.mp before with smaller | ⟨rfl, later⟩
      · exact encodeChar_append_lt smaller _ _
      · exact List.append_left_lt (ih later)

/-- **Texts are in the order of their bytes.** -/
theorem lt_iff_bytes_lt (text text' : String) : text < text' ↔ bytes text < bytes text' := by
  have kept : ∀ {s t : String}, s < t → bytes s < bytes t := by
    intro s t before
    rw [bytes_eq_flatMap, bytes_eq_flatMap]
    exact flatMap_encodeChar_lt (String.lt_iff_toList_lt.mp before)
  constructor
  · exact kept
  · intro before
    rcases lt_trichotomy text text' with smaller | same | larger
    · exact smaller
    · subst same
      exact absurd before (List.lt_irrefl _)
    · exact absurd before (List.lt_asymm (kept larger))

end AccessAudit.Text
