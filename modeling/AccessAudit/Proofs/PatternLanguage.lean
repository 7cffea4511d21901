/-
**The actions that a pattern names.**

A pattern with one wildcard is a front and a back with the wildcard between them. As a glob it names
what is left when the wildcard is replaced by any text. Looking for the front at the beginning of an
action and for the back at its end finds more than that: both may be there and share characters in
the middle. These overlaps are all there is beside the glob, and they are shorter than the front and
the back together.

Patterns are texts in UTF-8, and the same question can be put to their bytes: cut the pattern around
the first byte that is a wildcard and compare the two slices with the bytes of the action. The
answers are the same. The wildcard is a character of one byte, and that byte is no part of any other
character, so the cuts are between characters; and bytes that are a text, at the beginning or at the
end of those of another text, are a part of that text.

* `halves_append`, `exists_halves`: a pattern as its front and its back;
* `Globs`, `Overlaps`: the two ways to be named by a pattern with a wildcard;
* `covers_iff_globs_or_overlaps`: there is no other way;
* `coversBytes`: the question put to bytes, and `covers_eq_coversBytes`: its answer;
* `patterns_name_globs_and_overlaps`: all of it together.
-/
import AccessAudit.Pattern
import AccessAudit.Proofs.ByteOrder
import Mathlib.Data.List.Basic

namespace AccessAudit

/-! ### Parts of a text in bytes -/

namespace Text

theorem bytes_append (front back : String) : bytes (front ++ back) = bytes front ++ bytes back := by
  simp only [bytes_eq_flatMap, String.toList_append, List.flatMap_append]

theorem length_bytes (text : String) : (bytes text).length = text.utf8ByteSize := by
  rw [← String.size_toByteArray]
  rfl

theorem bytes_injective {text text' : String} (same : bytes text = bytes text') : text = text' := by
  rw [← String.toByteArray_inj, ByteArray.ext_iff]
  exact Array.toList_inj.mp same

theorem toByteArray_bytes (text : String) : (bytes text).toByteArray = text.toByteArray := by
  rw [ByteArray.ext_iff]
  exact Array.toList_inj.mp List.toList_data_toByteArray

/-- The bytes of a text, cut where two characters meet, are those of two texts. -/
theorem exists_texts_of_isValid {text : String} {front back : List UInt8}
    (split : bytes text = front ++ back) (valid : String.Pos.Raw.IsValid text ⟨front.length⟩) :
    ∃ first last, text = first ++ last ∧ bytes first = front ∧ bytes last = back := by
  obtain ⟨first, last, rfl, reached⟩ := String.Pos.Raw.isValid_iff_exists_append.mp valid
  have asLong : (bytes first).length = front.length := by
    rw [length_bytes]
    exact (congrArg String.Pos.Raw.byteIdx reached).symm
  rw [bytes_append] at split
  obtain ⟨same, same'⟩ := List.append_inj split asLong
  exact ⟨first, last, rfl, same, same'⟩

theorem le_rawEndPos_of_split {text : String} {front back : List UInt8}
    (split : bytes text = front ++ back) :
    (⟨front.length⟩ : String.Pos.Raw) ≤ text.rawEndPos := by
  have whole := congrArg List.length split
  rw [length_bytes, List.length_append] at whole
  show front.length ≤ text.utf8ByteSize
  omega

theorem toByteArray_of_split {text : String} {front back : List UInt8}
    (split : bytes text = front ++ back) :
    text.toByteArray = front.toByteArray ++ back.toByteArray := by
  rw [← toByteArray_bytes, split, List.toByteArray_append]

/-- **The bytes of a text begin those of another one exactly when the text begins it.** -/
theorem bytes_prefix_iff {front text : String} :
    bytes front <+: bytes text ↔ ∃ rest, text = front ++ rest := by
  constructor
  · rintro ⟨rest, split⟩
    have cut : text.toByteArray.extract 0 (bytes front).length = front.toByteArray := by
      rw [toByteArray_of_split split.symm, toByteArray_bytes,
        ByteArray.extract_append_eq_left (by rw [length_bytes, String.size_toByteArray])]
    have valid : String.Pos.Raw.IsValid text ⟨(bytes front).length⟩ := by
      rw [String.Pos.Raw.isValid_iff_isValidUTF8_extract_zero, cut]
      exact ⟨le_rawEndPos_of_split split.symm, front.isValidUTF8⟩
    obtain ⟨first, last, rfl, same, -⟩ := exists_texts_of_isValid split.symm valid
    exact ⟨last, by rw [bytes_injective same]⟩
  · rintro ⟨rest, rfl⟩
    exact ⟨bytes rest, (bytes_append front rest).symm⟩

/-- **The bytes of a text end those of another one exactly when the text ends it.** -/
theorem bytes_suffix_iff {back text : String} :
    bytes back <:+ bytes text ↔ ∃ lead, text = lead ++ back := by
  constructor
  · rintro ⟨lead, split⟩
    have cut : text.toByteArray.extract lead.length text.utf8ByteSize = back.toByteArray := by
      have whole := toByteArray_of_split split.symm
      have size := congrArg ByteArray.size whole
      rw [String.size_toByteArray, ByteArray.size_append, toByteArray_bytes] at size
      rw [size, whole, toByteArray_bytes]
      refine ByteArray.extract_append_eq_right List.size_toByteArray.symm ?_
      rw [List.size_toByteArray]
    have valid : String.Pos.Raw.IsValid text ⟨lead.length⟩ := by
      rw [String.Pos.Raw.isValid_iff_isValidUTF8_extract_utf8ByteSize, cut]
      exact ⟨le_rawEndPos_of_split split.symm, back.isValidUTF8⟩
    obtain ⟨first, last, rfl, -, same⟩ := exists_texts_of_isValid split.symm valid
    exact ⟨first, by rw [bytes_injective same]⟩
  · rintro ⟨lead, rfl⟩
    exact ⟨bytes lead, (bytes_append lead back).symm⟩

/-- Two ways to cut a text in two: one of the cuts comes first. -/
theorem append_eq_append_cases {front rest lead back : String}
    (same : front ++ rest = lead ++ back) :
    (∃ middle, lead = front ++ middle ∧ rest = middle ++ back) ∨
      ∃ shared, front = lead ++ shared ∧ back = shared ++ rest := by
  simp only [String.ext_iff, String.toList_append] at same ⊢
  rcases List.append_eq_append_iff.mp same with ⟨middle, first, last⟩ | ⟨shared, first, last⟩
  · exact .inl ⟨String.ofList middle, by simpa using first, by simpa using last⟩
  · exact .inr ⟨String.ofList shared, by simpa using first, by simpa using last⟩

theorem toList_prefix_iff {front text : String} :
    front.toList <+: text.toList ↔ ∃ rest, text = front ++ rest := by
  constructor
  · rintro ⟨rest, split⟩
    exact ⟨String.ofList rest, by rw [String.ext_iff, ← split]; simp⟩
  · rintro ⟨rest, rfl⟩
    exact ⟨rest.toList, String.toList_append.symm⟩

theorem toList_suffix_iff {back text : String} :
    back.toList <:+ text.toList ↔ ∃ lead, text = lead ++ back := by
  constructor
  · rintro ⟨lead, split⟩
    exact ⟨String.ofList lead, by rw [String.ext_iff, ← split]; simp⟩
  · rintro ⟨lead, rfl⟩
    exact ⟨lead.toList, String.toList_append.symm⟩

end Text

namespace Pattern

/-! ### The halves of a pattern -/

theorem halves_eq_none_iff (pattern : List Char) : halves pattern = none ↔ wildcard ∉ pattern := by
  induction pattern with
  | nil => simp [halves]
  | cons c rest ih =>
    rw [halves, List.mem_cons]
    by_cases starred : c = wildcard
    · simp [starred]
    · rw [if_neg starred, Option.map_eq_none_iff, ih, or_iff_right (Ne.symm starred)]

theorem halves_append {front : List Char} (plain : wildcard ∉ front) (back : List Char) :
    halves (front ++ wildcard :: back) = some (front, back) := by
  induction front with
  | nil => rw [List.nil_append, halves, if_pos rfl]
  | cons c front ih =>
    rw [List.mem_cons, not_or] at plain
    rw [List.cons_append, halves, if_neg (Ne.symm plain.1), ih plain.2]
    rfl

/-- A text with a wildcard is what stands before its first one and what stands behind. -/
theorem exists_halves {pattern : String} (starred : wildcard ∈ pattern.toList) :
    ∃ front back : String, wildcard ∉ front.toList ∧ pattern = front ++ "*" ++ back := by
  obtain ⟨front, back, split, plain⟩ := List.eq_append_cons_of_mem starred
  refine ⟨String.ofList front, String.ofList back, by rwa [String.toList_ofList], ?_⟩
  rw [String.ext_iff, split]
  simp [wildcard]

theorem covers_of_plain {pattern : String} (plain : wildcard ∉ pattern.toList) (action : String) :
    covers pattern action ↔ action = pattern := by
  unfold covers coversChars
  rw [(halves_eq_none_iff _).mpr plain]
  simp [String.toList_inj]

theorem toList_halves (front back : String) :
    (front ++ "*" ++ back).toList = front.toList ++ wildcard :: back.toList := by
  simp [wildcard]

theorem covers_iff_prefix_and_suffix {front : String} (plain : wildcard ∉ front.toList)
    (back action : String) :
    covers (front ++ "*" ++ back) action ↔
      front.toList <+: action.toList ∧ back.toList <:+ action.toList := by
  unfold covers coversChars
  rw [toList_halves, halves_append plain]
  simp only [Bool.and_eq_true, List.isPrefixOf_iff_prefix, List.isSuffixOf_iff_suffix]

theorem covers_iff_begins_and_ends {front : String} (plain : wildcard ∉ front.toList)
    (back action : String) :
    covers (front ++ "*" ++ back) action ↔
      (∃ rest, action = front ++ rest) ∧ ∃ lead, action = lead ++ back := by
  rw [covers_iff_prefix_and_suffix plain, Text.toList_prefix_iff, Text.toList_suffix_iff]

/-! ### The actions of a pattern with a wildcard -/

/-- The action is the front, any text, and the back. -/
def Globs (front back action : String) : Prop :=
  ∃ middle, action = front ++ middle ++ back

/-- The action is the front and the back with some characters shared: the front ends with what the
back begins with. -/
def Overlaps (front back action : String) : Prop :=
  ∃ first shared last, shared ≠ "" ∧ front = first ++ shared ∧ back = shared ++ last ∧
    action = first ++ shared ++ last

section Language

variable {front back action : String}

/-- **What begins with the front and ends with the back is a glob of them or an overlap.** -/
theorem begins_and_ends_iff :
    ((∃ rest, action = front ++ rest) ∧ ∃ lead, action = lead ++ back) ↔
      Globs front back action ∨ Overlaps front back action := by
  constructor
  · rintro ⟨⟨rest, begun⟩, lead, ended⟩
    rcases Text.append_eq_append_cases (begun.symm.trans ended) with
      ⟨middle, rfl, -⟩ | ⟨shared, rfl, rfl⟩
    · exact .inl ⟨middle, ended⟩
    · by_cases empty : shared = ""
      · subst empty
        exact .inl ⟨"", by simpa using begun⟩
      · exact .inr ⟨lead, shared, rest, empty, rfl, rfl, begun⟩
  · rintro (⟨middle, rfl⟩ | ⟨first, shared, last, -, rfl, rfl, rfl⟩)
    · exact ⟨⟨middle ++ back, String.append_assoc⟩, front ++ middle, rfl⟩
    · exact ⟨⟨last, rfl⟩, first, String.append_assoc⟩

/-- **A pattern with a wildcard names the globs and the overlaps of its halves.** -/
theorem covers_iff_globs_or_overlaps (plain : wildcard ∉ front.toList) :
    covers (front ++ "*" ++ back) action ↔
      Globs front back action ∨ Overlaps front back action := by
  rw [covers_iff_begins_and_ends plain, begins_and_ends_iff]

theorem Globs.length_le (globs : Globs front back action) :
    front.length + back.length ≤ action.length := by
  obtain ⟨middle, rfl⟩ := globs
  rw [String.length_append, String.length_append]
  omega

theorem Overlaps.length_lt (overlaps : Overlaps front back action) :
    action.length < front.length + back.length := by
  obtain ⟨first, shared, last, filled, rfl, rfl, rfl⟩ := overlaps
  have longer : shared.length ≠ 0 := by simpa using filled
  simp only [String.length_append]
  omega

theorem Overlaps.length_bytes_lt (overlaps : Overlaps front back action) :
    (Text.bytes action).length < (Text.bytes front).length + (Text.bytes back).length := by
  obtain ⟨first, shared, last, filled, rfl, rfl, rfl⟩ := overlaps
  have longer : shared.utf8ByteSize ≠ 0 := by simpa using filled
  simp only [Text.length_bytes, String.utf8ByteSize_append]
  omega

/-- No action is both. -/
theorem Overlaps.not_globs (overlaps : Overlaps front back action) : ¬ Globs front back action :=
  fun globs => absurd globs.length_le (Nat.not_le.mpr overlaps.length_lt)

/-- An action as long as the front and the back together is no overlap of them, whether characters
are counted or bytes. -/
theorem not_overlaps_of_long (long : front.length + back.length ≤ action.length ∨
      (Text.bytes front).length + (Text.bytes back).length ≤ (Text.bytes action).length) :
    ¬ Overlaps front back action := by
  intro overlaps
  rcases long with characters | bytes
  · exact absurd characters (Nat.not_le.mpr overlaps.length_lt)
  · exact absurd bytes (Nat.not_le.mpr overlaps.length_bytes_lt)

end Language

/-! ### The question put to bytes -/

/-- The wildcard in UTF-8. -/
def wildcardByte : UInt8 := 42

/-- Whether the bytes of a pattern name the action with these bytes: the slices around the first
wildcard are looked for at the beginning and at the end of the action. -/
def coversBytes (pattern action : List UInt8) : Bool :=
  match pattern.idxOf? wildcardByte with
  | none => action == pattern
  | some offset =>
    (pattern.take offset).isPrefixOf action && (pattern.drop (offset + 1)).isSuffixOf action

/-- The byte of the wildcard is no part of another character. -/
theorem wildcardByte_mem_encodeChar_iff (c : Char) :
    wildcardByte ∈ String.utf8EncodeChar c ↔ c = wildcard := by
  have code : ∀ n : Nat, wildcardByte = UInt8.ofNat n ↔ 42 = n % 256 := by
    intro n
    rw [← UInt8.toNat_inj, UInt8.toNat_ofNat']
    rfl
  constructor
  · intro inside
    unfold String.utf8EncodeChar at inside
    simp only at inside
    split_ifs at inside with one two three
    · rw [List.mem_singleton, code] at inside
      exact Char.toNat_inj.mp (show c.val.toNat = 42 by omega)
    -- every other byte is 128 at least
    all_goals
      simp only [List.mem_cons, List.not_mem_nil, code, or_false] at inside
      omega
  · rintro rfl
    decide

theorem wildcardByte_mem_bytes_iff (text : String) :
    wildcardByte ∈ Text.bytes text ↔ wildcard ∈ text.toList := by
  simp only [Text.bytes_eq_flatMap, List.mem_flatMap, wildcardByte_mem_encodeChar_iff,
    exists_eq_right]

theorem bytes_halves (front back : String) :
    Text.bytes (front ++ "*" ++ back) = Text.bytes front ++ wildcardByte :: Text.bytes back := by
  rw [Text.bytes_append, Text.bytes_append, List.append_assoc]
  rfl

/-- The first wildcard among the bytes is where the front ends. -/
theorem idxOf?_bytes_halves {front : String} (plain : wildcard ∉ front.toList) (back : String) :
    (Text.bytes (front ++ "*" ++ back)).idxOf? wildcardByte = some (Text.bytes front).length := by
  rw [← wildcardByte_mem_bytes_iff] at plain
  rw [bytes_halves]
  generalize Text.bytes front = before at plain
  induction before with
  | nil => simp [List.idxOf?_cons]
  | cons byte before ih =>
    rw [List.mem_cons, not_or] at plain
    simp [List.idxOf?_cons, Ne.symm plain.1, ih plain.2]

/-- **A pattern names an action exactly when its bytes name those of the action.** -/
theorem covers_eq_coversBytes (pattern action : String) :
    covers pattern action = coversBytes (Text.bytes pattern) (Text.bytes action) := by
  rw [Bool.eq_iff_iff]
  unfold coversBytes
  by_cases starred : wildcard ∈ pattern.toList
  · obtain ⟨front, back, plain, rfl⟩ := exists_halves starred
    have behind : (Text.bytes (front ++ "*" ++ back)).drop ((Text.bytes front).length + 1) =
        Text.bytes back := by
      rw [bytes_halves, List.drop_length_add_append]
      rfl
    have before : (Text.bytes (front ++ "*" ++ back)).take (Text.bytes front).length =
        Text.bytes front := by
      rw [bytes_halves, List.take_left]
    rw [covers_iff_begins_and_ends plain, idxOf?_bytes_halves plain]
    simp only [before, behind, Bool.and_eq_true, List.isPrefixOf_iff_prefix,
      List.isSuffixOf_iff_suffix, Text.bytes_prefix_iff, Text.bytes_suffix_iff]
  · have unfound := mt (wildcardByte_mem_bytes_iff pattern).mp starred
    rw [covers_of_plain starred, List.idxOf?_eq_none_iff.mpr unfound]
    simp only [beq_iff_eq]
    exact ⟨congrArg Text.bytes, Text.bytes_injective⟩

/-- **The cuts before and after the first wildcard are between characters.** -/
theorem isValid_around_wildcard {pattern : String} {offset : Nat}
    (found : (Text.bytes pattern).idxOf? wildcardByte = some offset) :
    String.Pos.Raw.IsValid pattern ⟨offset⟩ ∧ String.Pos.Raw.IsValid pattern ⟨offset + 1⟩ := by
  have starred : wildcard ∈ pattern.toList := by
    rw [← wildcardByte_mem_bytes_iff]
    by_contra unfound
    rw [List.idxOf?_eq_none_iff.mpr unfound] at found
    cases found
  obtain ⟨front, back, plain, rfl⟩ := exists_halves starred
  rw [idxOf?_bytes_halves plain, Text.length_bytes] at found
  obtain rfl := Option.some.inj found
  simp only [String.Pos.Raw.isValid_iff_exists_append]
  refine ⟨⟨front, "*" ++ back, String.append_assoc, rfl⟩, front ++ "*", back, rfl, ?_⟩
  rw [String.rawEndPos, String.utf8ByteSize_append]
  rfl

/-! ### What patterns name -/

/-- **A pattern with one wildcard names exactly the globs of its front and its back and their
overlaps.** Every glob is named, for actions as long as both together nothing else is, and what is
named beside the globs are the overlaps. A pattern without a wildcard names itself, and the wildcard
alone names everything. The bytes of pattern and action give the same answer, and a pattern is cut
between two characters. -/
theorem patterns_name_globs_and_overlaps :
    (∀ front back action : String, wildcard ∉ front.toList → wildcard ∉ back.toList →
      (covers (front ++ "*" ++ back) action ↔
        Globs front back action ∨ Overlaps front back action) ∧
      (Globs front back action → covers (front ++ "*" ++ back) action) ∧
      (front.length + back.length ≤ action.length ∨
          (Text.bytes front).length + (Text.bytes back).length ≤ (Text.bytes action).length →
        (covers (front ++ "*" ++ back) action ↔ Globs front back action)) ∧
      (covers (front ++ "*" ++ back) action ∧ ¬ Globs front back action ↔
        Overlaps front back action)) ∧
    (∀ pattern action : String, wildcard ∉ pattern.toList →
      (covers pattern action ↔ action = pattern)) ∧
    (∀ action, covers "*" action) ∧
    (∀ pattern action,
      covers pattern action = coversBytes (Text.bytes pattern) (Text.bytes action)) ∧
    ∀ pattern offset, (Text.bytes pattern).idxOf? wildcardByte = some offset →
      String.Pos.Raw.IsValid pattern ⟨offset⟩ ∧ String.Pos.Raw.IsValid pattern ⟨offset + 1⟩ := by
  refine ⟨fun front back action plain _ => ?_, fun pattern action plain =>
    covers_of_plain plain action, fun action => ?_, covers_eq_coversBytes,
    fun pattern offset => isValid_around_wildcard⟩
  · have named := @covers_iff_globs_or_overlaps front back action plain
    refine ⟨named, fun globs => named.mpr (.inl globs), fun long => ?_, ?_⟩
    · rw [named, or_iff_left (not_overlaps_of_long long)]
    · rw [named]
      constructor
      · rintro ⟨globs | overlaps, other⟩
        · exact absurd globs other
        · exact overlaps
      · exact fun overlaps => ⟨.inr overlaps, overlaps.not_globs⟩
  · have everything : Globs "" "" action := ⟨action, by simp⟩
    have named := @covers_iff_globs_or_overlaps "" "" action (by simp)
    exact named.mpr (.inl everything)

/-- The front and the back share a letter of two bytes. With a letter more there is room for both,
and without one of them the action does not begin with the front. -/
theorem shared_letter_is_named_once :
    covers "aé*éa" "aéa" ∧ ¬ Globs "aé" "éa" "aéa" ∧ Overlaps "aé" "éa" "aéa" ∧
    Globs "aé" "éa" "aééa" ∧ ¬ covers "aé*éa" "éa" ∧
    coversBytes (Text.bytes "aé*éa") (Text.bytes "aéa") ∧
    String.Pos.Raw.IsValid "aé*éa" ⟨3⟩ ∧ String.Pos.Raw.IsValid "aé*éa" ⟨4⟩ := by
  obtain ⟨named, -, -, bytes, cut⟩ := patterns_name_globs_and_overlaps
  obtain ⟨-, -, -, beside⟩ := named "aé" "éa" "aéa" (by decide) (by decide)
  obtain ⟨-, -, agree, -⟩ := named "aé" "éa" "aééa" (by decide) (by decide)
  have overlaps : Overlaps "aé" "éa" "aéa" := ⟨"a", "é", "a", by decide, rfl, rfl, rfl⟩
  obtain ⟨covered, other⟩ := beside.mpr overlaps
  refine ⟨covered, other, overlaps, (agree (.inl (by decide))).mp (by decide), by decide, ?_,
    cut "aé*éa" 3 (by decide)⟩
  rw [← bytes]
  exact covered

end Pattern

end AccessAudit
