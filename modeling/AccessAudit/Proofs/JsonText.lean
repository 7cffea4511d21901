/-
**Written JSON is read back.**

The layout on several lines is read back to the value it was made of, whatever blanks or line ends
follow it. Strings come back character by character: an escape is read to the character it was
written for, and a character that needs no escape cannot be taken for the beginning of one or for
the end of the string. Arrays and objects come back item by item, since the line that begins each
item is blank to the reader and no value begins with a blank or a closing bracket.

Numbers are left out: nothing that is written on several lines has one.

* `Json.isVerbal`: a value without numbers that can be told in full;
* `readText_literal`: a string literal is read back;
* `readValue_prettyChars`: a value is read back, and what follows it is left;
* `parse?_pretty`: a text that holds one value and then only blanks.
-/
import AccessAudit.Json.Printer
import AccessAudit.Json.Reader
import Mathlib.Data.List.Basic

namespace AccessAudit.Json

/-! ### Values without numbers -/

mutual

/-- Nothing in the value is a number or illegible. -/
def isVerbal : Json → Bool
  | number _ | illegible => false
  | array items => areItemsVerbal items
  | object members => areMembersVerbal members
  | _ => true

/-- Nothing in the items is a number or illegible. -/
def areItemsVerbal : List Json → Bool
  | [] => true
  | item :: rest => isVerbal item && areItemsVerbal rest

/-- Nothing in the values of the members is a number or illegible. -/
def areMembersVerbal : List (String × Json) → Bool
  | [] => true
  | (_, value) :: rest => isVerbal value && areMembersVerbal rest

end

/-! ### Blanks -/

/-- Blanks in front of a text are skipped. -/
theorem skipSpace_append {blanks : List Char} (blank : ∀ c ∈ blanks, isSpace c) (cs : List Char) :
    skipSpace (blanks ++ cs) = skipSpace cs := by
  unfold skipSpace
  rw [List.dropWhile_append_of_pos blank]

/-- A text that begins with no blank is left as it is. -/
theorem skipSpace_cons {c : Char} (shown : isSpace c = false) (cs : List Char) :
    skipSpace (c :: cs) = c :: cs := by
  unfold skipSpace
  rw [List.dropWhile_cons_of_neg (by simp [shown])]

/-- A new line is blank. -/
theorem isSpace_of_mem_newLine (level : Nat) : ∀ c ∈ newLine level, isSpace c := by
  intro c inside
  rcases List.mem_cons.mp inside with rfl | blank
  · rfl
  · rw [(List.mem_replicate.mp blank).2]
    rfl

theorem length_newLine (level : Nat) : (newLine level).length = 2 * level + 1 := by
  rw [newLine, List.length_cons, List.length_replicate]

theorem skipSpace_newLine (level : Nat) (cs : List Char) :
    skipSpace (newLine level ++ cs) = skipSpace cs :=
  skipSpace_append (isSpace_of_mem_newLine level) cs

/-! ### Strings -/

/-- The four digits of a control character stand for its number. -/
theorem hexNumber?_control :
    ∀ n < 0x20, Text.hexNumber? ['0', '0', hexDigit (n / 16), hexDigit n] = some n := by
  decide

/-- A character that needs no escape is read as it is. -/
theorem readPieces_plain (before : List Piece) {c : Char} (quote : c ≠ '"') (backslash : c ≠ '\\')
    (printable : ¬ c.toNat < 0x20) (rest : List Char) :
    readPieces before (c :: rest) = readPieces (.char c :: before) rest := by
  rw [readPieces.eq_def]
  split <;> grind

/-- A character is read back from the way it is written in a string. -/
theorem readPieces_escapedChar (before : List Piece) (c : Char) (rest : List Char) :
    readPieces before (escapedChar c ++ rest) = readPieces (.char c :: before) rest := by
  unfold escapedChar
  split
  case h_8 quote backslash _ _ _ _ _ =>
    split
    case isTrue control =>
      have unit : Piece.ofUnit c.toNat = .char c := by
        unfold Piece.ofUnit
        rw [if_neg (by omega), Char.ofNat_toNat]
      simp only [List.cons_append, List.nil_append, readPieces, hexNumber?_control c.toNat control,
        unit]
    case isFalse printable => exact readPieces_plain before quote backslash printable rest
  all_goals simp [readPieces, escapeLetter?]

/-- A string is read back piece by piece up to its closing quote. -/
theorem readPieces_escaped (text : List Char) (before : List Piece) (rest : List Char) :
    readPieces before (text.flatMap escapedChar ++ '"' :: rest) =
      some (before.reverse ++ text.map .char, rest) := by
  induction text generalizing before with
  | nil => simp [readPieces]
  | cons c text ih =>
    rw [List.flatMap_cons, List.append_assoc, readPieces_escapedChar, ih, List.reverse_cons,
      List.append_assoc, List.map_cons, List.singleton_append]

/-- Pieces that are characters stand for those characters. -/
theorem joinPieces?_map_char (text : List Char) : joinPieces? (text.map .char) = some text := by
  induction text with
  | nil => rfl
  | cons c text ih =>
    rw [List.map_cons, joinPieces?, ih]
    rfl

/-- **A string literal is read back**, after its opening quote. -/
theorem readText_literal (text : String) (rest : List Char) :
    readText ((literal text).tail ++ rest) = some (some text, rest) := by
  have unquoted : (literal text).tail ++ rest =
      text.toList.flatMap escapedChar ++ '"' :: rest := by
    show (text.toList.flatMap escapedChar ++ ['"']) ++ rest = _
    rw [List.append_assoc, List.singleton_append]
  unfold readText
  rw [unquoted, readPieces_escaped, Option.map_some, List.reverse_nil, List.nil_append]
  simp only [joinPieces?_map_char, Option.map_some, String.ofList_toList]

theorem literal_eq_cons (text : String) : literal text = '"' :: (literal text).tail := rfl

theorem skipSpace_literal (text : String) (cs : List Char) :
    skipSpace (literal text ++ cs) = literal text ++ cs := by
  rw [literal_eq_cons, List.cons_append, skipSpace_cons rfl]

/-! ### Values -/

/-- A value begins with a character that is neither blank nor a closing bracket. -/
theorem prettyChars_begins (level : Nat) {value : Json} (verbal : value.isVerbal) :
    ∃ c rest, value.prettyChars level = c :: rest ∧ isSpace c = false ∧ c ≠ ']' := by
  cases value with
  | number => cases verbal
  | illegible => cases verbal
  | null => exact ⟨'n', _, rfl, rfl, by decide⟩
  | bool value => cases value <;> exact ⟨_, _, rfl, rfl, by decide⟩
  | string text => exact ⟨'"', _, rfl, rfl, by decide⟩
  | array items => cases items <;> exact ⟨'[', _, by rw [prettyChars], rfl, by decide⟩
  | object members => cases members <;> exact ⟨'\x7b', _, by rw [prettyChars], rfl, by decide⟩

/-- Nothing is skipped in front of a value. -/
theorem skipSpace_prettyChars (level : Nat) {value : Json} (verbal : value.isVerbal)
    (cs : List Char) :
    skipSpace (value.prettyChars level ++ cs) = value.prettyChars level ++ cs := by
  obtain ⟨c, rest, begins, shown, _⟩ := prettyChars_begins level verbal
  rw [begins, List.cons_append, skipSpace_cons shown]

/-- The members of an object whose keys are all told. -/
theorem objectOf_map_some (members : List (String × Json)) :
    objectOf (members.map fun member => (some member.1, member.2)) = object members := by
  have told : ∀ read? : Option String × Json → Option (String × Json),
      (∀ member, read? (some member.1, member.2) = some member) →
        (members.map fun member => (some member.1, member.2)).mapM read? = some members := by
    intro read? back
    induction members with
    | nil => rfl
    | cons member rest ih =>
      rw [List.map_cons, List.mapM_cons, back, ih]
      rfl
  unfold objectOf
  rw [told _ fun _ => rfl]

/-! ### One step of the reader -/

section Steps

variable {fuel : Nat} {cs more following : List Char} {c : Char}

/-- An array that is not empty is read item by item. -/
theorem readValue_array (begins : skipSpace cs = c :: more) (item : c ≠ ']') :
    readValue (fuel + 1) ('[' :: cs) =
      (readItems fuel (skipSpace cs)).map fun (items, rest) => (array items, rest) := by
  rw [readValue, begins]
  split
  · rename_i closed
    exact absurd (List.cons.inj closed).1 item
  · rfl

/-- An object that is not empty is read member by member. -/
theorem readValue_object (begins : skipSpace cs = c :: more) (member : c ≠ '\x7d') :
    readValue (fuel + 1) ('\x7b' :: cs) =
      (readMembers fuel (skipSpace cs)).map fun (members, rest) => (objectOf members, rest) := by
  rw [readValue, begins]
  split
  · rename_i closed
    exact absurd (List.cons.inj closed).1 member
  · rfl

/-- An item with a closing bracket after it is the last one. -/
theorem readItems_last {item : Json} (read : readValue fuel cs = some (item, more))
    (closed : skipSpace more = ']' :: following) :
    readItems (fuel + 1) cs = some ([item], following) := by
  rw [readItems, read]
  simp only [closed]

/-- After an item with a comma there are others. -/
theorem readItems_next {item : Json} {later : List Char}
    (read : readValue fuel cs = some (item, more)) (comma : skipSpace more = ',' :: later) :
    readItems (fuel + 1) cs =
      (readItems fuel (skipSpace later)).map fun (items, rest) => (item :: items, rest) := by
  rw [readItems, read]
  simp only [comma]

/-- A member with a closing brace after it is the last one. -/
theorem readMembers_last {member : Option String × Json}
    (read : readMember fuel cs = some (member, more))
    (closed : skipSpace more = '\x7d' :: following) :
    readMembers (fuel + 1) cs = some ([member], following) := by
  rw [readMembers, read]
  simp only [closed]

/-- After a member with a comma there are others. -/
theorem readMembers_next {member : Option String × Json} {later : List Char}
    (read : readMember fuel cs = some (member, more)) (comma : skipSpace more = ',' :: later) :
    readMembers (fuel + 1) cs =
      (readMembers fuel (skipSpace later)).map fun (members, rest) =>
        (member :: members, rest) := by
  rw [readMembers, read]
  simp only [comma]

/-- A key, a colon and one blank in front of a value are read as a member. -/
theorem readMember_literal (key : String) {value : Json} {level : Nat} (verbal : value.isVerbal)
    (read : readValue fuel (value.prettyChars level ++ following) = some (value, following)) :
    readMember (fuel + 1) (literal key ++ ':' :: ' ' :: (value.prettyChars level ++ following)) =
      some ((some key, value), following) := by
  rw [literal_eq_cons, List.cons_append, readMember, readText_literal]
  have blank : skipSpace (' ' :: (value.prettyChars level ++ following)) =
      value.prettyChars level ++ following := by
    show skipSpace ([' '] ++ (value.prettyChars level ++ following)) = _
    rw [skipSpace_append (by simp [isSpace]), skipSpace_prettyChars level verbal]
  have colon : skipSpace (':' :: ' ' :: (value.prettyChars level ++ following)) =
      ':' :: ' ' :: (value.prettyChars level ++ following) := skipSpace_cons rfl _
  simp only [colon, blank, read, Option.map_some]

end Steps

/-! ### Items and members on their lines -/

section Lines

variable (level : Nat) {item : Json} {value : Json}

theorem prettyItems_cons_cons (item next : Json) (rest : List Json) :
    prettyItems level (item :: next :: rest) =
      newLine (level + 1) ++ item.prettyChars (level + 1) ++
        ',' :: prettyItems level (next :: rest) := by
  rw [prettyItems]
  exact List.cons_ne_nil next rest

theorem prettyMembers_cons_cons (key : String) (value : Json) (next : String × Json)
    (rest : List (String × Json)) :
    prettyMembers level ((key, value) :: next :: rest) =
      newLine (level + 1) ++ literal key ++ ':' :: ' ' :: value.prettyChars (level + 1) ++
        ',' :: prettyMembers level (next :: rest) := by
  rw [prettyMembers]
  exact List.cons_ne_nil next rest

/-- The first item comes after a new line. -/
theorem exists_prettyItems_eq (item : Json) (rest : List Json) :
    ∃ later, prettyItems level (item :: rest) =
      newLine (level + 1) ++ (item.prettyChars (level + 1) ++ later) := by
  cases rest with
  | nil => exact ⟨[], by rw [prettyItems, List.append_nil]⟩
  | cons next rest =>
    exact ⟨',' :: prettyItems level (next :: rest),
      by rw [prettyItems_cons_cons, List.append_assoc]⟩

/-- The first member comes after a new line, its key in quotes. -/
theorem exists_prettyMembers_eq (key : String) (value : Json) (rest : List (String × Json)) :
    ∃ later, prettyMembers level ((key, value) :: rest) =
      newLine (level + 1) ++ (literal key ++ later) := by
  cases rest with
  | nil =>
    refine ⟨':' :: ' ' :: value.prettyChars (level + 1), ?_⟩
    rw [prettyMembers, List.append_assoc]
  | cons next rest =>
    exact ⟨':' :: ' ' :: value.prettyChars (level + 1) ++
      ',' :: prettyMembers level (next :: rest),
      by simp only [prettyMembers_cons_cons, List.append_assoc]⟩

/-- What the reader finds after an opening bracket is no closing one. -/
theorem skipSpace_prettyItems_begins (verbal : item.isVerbal) (rest : List Json)
    (following : List Char) :
    ∃ c more, skipSpace (prettyItems level (item :: rest) ++ following) = c :: more ∧ c ≠ ']' := by
  obtain ⟨later, written⟩ := exists_prettyItems_eq level item rest
  obtain ⟨c, more, begins, shown, opening⟩ := prettyChars_begins (level + 1) verbal
  refine ⟨c, more ++ (later ++ following), ?_, opening⟩
  rw [written, List.append_assoc, skipSpace_newLine, List.append_assoc,
    skipSpace_prettyChars _ verbal, begins, List.cons_append]

/-- What the reader finds after an opening brace is a quote. -/
theorem skipSpace_prettyMembers_begins (key : String) (value : Json)
    (rest : List (String × Json)) (following : List Char) :
    ∃ more, skipSpace (prettyMembers level ((key, value) :: rest) ++ following) = '"' :: more := by
  obtain ⟨later, written⟩ := exists_prettyMembers_eq level key value rest
  refine ⟨(literal key).tail ++ later ++ following, ?_⟩
  rw [written, List.append_assoc, skipSpace_newLine, literal_eq_cons]
  rfl

end Lines

/-! ### Whole values -/

/-- There is a step left to read a value that may take as many steps as it has characters. -/
theorem exists_fuel_of_prettyChars {level fuel : Nat} {value : Json} (verbal : value.isVerbal)
    (enough : (value.prettyChars level).length ≤ fuel) : ∃ left, fuel = left + 1 := by
  obtain ⟨c, rest, begins, _⟩ := prettyChars_begins level verbal
  rw [begins, List.length_cons] at enough
  exact ⟨fuel - 1, by omega⟩

-- The three statements are proved together, by recursion on what is written. Each step of the
-- reader goes with a character of its own: the first one of a value, the line end before an item,
-- and the line end and the opening quote of a member. So the length of what is written bounds the
-- steps.
mutual

/-- **A value written on several lines is read back, and what follows it is left.** -/
theorem readValue_prettyChars (level fuel : Nat) (following : List Char) (value : Json)
    (verbal : value.isVerbal) (enough : (value.prettyChars level).length ≤ fuel) :
    readValue fuel (value.prettyChars level ++ following) = some (value, following) := by
  obtain ⟨fuel, rfl⟩ := exists_fuel_of_prettyChars verbal enough
  match value with
  | null => rw [prettyChars]; rfl
  | bool true => rw [prettyChars]; rfl
  | bool false => rw [prettyChars]; rfl
  | string text =>
    rw [prettyChars, literal_eq_cons, List.cons_append, readValue, readText_literal]
    rfl
  | array [] => rw [prettyChars]; rfl
  | array (item :: rest) =>
    rw [isVerbal] at verbal
    have itemVerbal : item.isVerbal := by
      rw [areItemsVerbal, Bool.and_eq_true] at verbal
      exact verbal.1
    have short : (prettyItems level (item :: rest)).length ≤ fuel := by
      rw [prettyChars, List.length_cons, List.length_append, List.length_append] at enough
      omega
    obtain ⟨c, more, begins, opening⟩ := skipSpace_prettyItems_begins level itemVerbal rest
      (newLine level ++ ']' :: following)
    simp only [prettyChars, List.cons_append, List.append_assoc, List.nil_append]
    rw [readValue_array begins opening,
      readItems_prettyItems level fuel following _ (List.cons_ne_nil item rest) verbal short]
    rfl
  | object [] => rw [prettyChars]; rfl
  | object ((key, value) :: rest) =>
    rw [isVerbal] at verbal
    have short : (prettyMembers level ((key, value) :: rest)).length ≤ fuel := by
      rw [prettyChars, List.length_cons, List.length_append, List.length_append] at enough
      omega
    obtain ⟨more, begins⟩ := skipSpace_prettyMembers_begins level key value rest
      (newLine level ++ '\x7d' :: following)
    simp only [prettyChars, List.cons_append, List.append_assoc, List.nil_append]
    rw [readValue_object begins (by decide),
      readMembers_prettyMembers level fuel following _ (List.cons_ne_nil _ rest) verbal short]
    simp only [Option.map_some, objectOf_map_some]

/-- Items written on lines of their own are read back up to the closing bracket. -/
theorem readItems_prettyItems (level fuel : Nat) (following : List Char) :
    ∀ items : List Json, items ≠ [] → areItemsVerbal items →
      (prettyItems level items).length ≤ fuel →
      readItems fuel (skipSpace (prettyItems level items ++ (newLine level ++ ']' :: following))) =
        some (items, following)
  | [], filled, _, _ => absurd rfl filled
  | [item], _, verbal, enough => by
    rw [areItemsVerbal, Bool.and_eq_true] at verbal
    rw [prettyItems, List.length_append, length_newLine] at enough
    obtain ⟨left, rfl⟩ : ∃ left, fuel = left + 1 := ⟨fuel - 1, by omega⟩
    have read := readValue_prettyChars (level + 1) left (newLine level ++ ']' :: following) item
      verbal.1 (by omega)
    rw [prettyItems, List.append_assoc, skipSpace_newLine, skipSpace_prettyChars _ verbal.1]
    exact readItems_last read (by rw [skipSpace_newLine, skipSpace_cons rfl])
  | item :: next :: rest, _, verbal, enough => by
    rw [areItemsVerbal, Bool.and_eq_true] at verbal
    rw [prettyItems_cons_cons, List.length_append, List.length_append, length_newLine,
      List.length_cons] at enough
    obtain ⟨left, rfl⟩ : ∃ left, fuel = left + 1 := ⟨fuel - 1, by omega⟩
    have read := readValue_prettyChars (level + 1) left
      (',' :: (prettyItems level (next :: rest) ++ (newLine level ++ ']' :: following))) item
      verbal.1 (by omega)
    simp only [prettyItems_cons_cons, List.append_assoc, List.cons_append]
    rw [skipSpace_newLine, skipSpace_prettyChars _ verbal.1,
      readItems_next read (skipSpace_cons rfl _),
      readItems_prettyItems level left following _ (List.cons_ne_nil next rest) verbal.2 (by omega)]
    rfl

/-- Members written on lines of their own are read back up to the closing brace. -/
theorem readMembers_prettyMembers (level fuel : Nat) (following : List Char) :
    ∀ members : List (String × Json), members ≠ [] → areMembersVerbal members →
      (prettyMembers level members).length ≤ fuel →
      readMembers fuel
          (skipSpace (prettyMembers level members ++ (newLine level ++ '\x7d' :: following))) =
        some (members.map fun member => (some member.1, member.2), following)
  | [], filled, _, _ => absurd rfl filled
  | [(key, value)], _, verbal, enough => by
    rw [areMembersVerbal, Bool.and_eq_true] at verbal
    simp only [prettyMembers, List.length_append, List.length_cons, length_newLine] at enough
    obtain ⟨left, rfl⟩ : ∃ left, fuel = left + 2 := ⟨fuel - 2, by omega⟩
    have read := readMember_literal key verbal.1 (readValue_prettyChars (level + 1) left
      (newLine level ++ '\x7d' :: following) value verbal.1 (by omega))
    simp only [prettyMembers, List.append_assoc, List.cons_append]
    rw [skipSpace_newLine, skipSpace_literal]
    exact readMembers_last read (by rw [skipSpace_newLine, skipSpace_cons rfl])
  | (key, value) :: next :: rest, _, verbal, enough => by
    rw [areMembersVerbal, Bool.and_eq_true] at verbal
    simp only [prettyMembers_cons_cons, List.length_append, List.length_cons, length_newLine]
      at enough
    obtain ⟨left, rfl⟩ : ∃ left, fuel = left + 2 := ⟨fuel - 2, by omega⟩
    have read := readMember_literal key verbal.1 (readValue_prettyChars (level + 1) left
      (',' :: (prettyMembers level (next :: rest) ++ (newLine level ++ '\x7d' :: following))) value
      verbal.1 (by omega))
    simp only [prettyMembers_cons_cons, List.append_assoc, List.cons_append]
    rw [skipSpace_newLine, skipSpace_literal, readMembers_next read (skipSpace_cons rfl _),
      readMembers_prettyMembers level (left + 1) following _ (List.cons_ne_nil next rest) verbal.2
        (by omega)]
    rfl

end

/-- **A text that holds one written value, and nothing but blanks after it, is that value.** -/
theorem parse?_pretty {value : Json} (verbal : value.isVerbal) {blanks : String}
    (blank : ∀ c ∈ blanks.toList, isSpace c) : parse? (value.pretty ++ blanks) = some value := by
  have text : (value.pretty ++ blanks).toList = value.prettyChars 0 ++ blanks.toList := by
    rw [pretty, String.toList_append, String.toList_ofList]
  have read : parseChars? (value.prettyChars 0 ++ blanks.toList) =
      some (value, blanks.toList) := by
    unfold parseChars?
    rw [skipSpace_prettyChars 0 verbal, readValue_prettyChars 0 _ _ value verbal]
    rw [List.length_append]
    omega
  have blanksSkipped : skipSpace blanks.toList = [] := by
    rw [← List.append_nil blanks.toList, skipSpace_append blank]
    rfl
  unfold parse?
  rw [text, read]
  simp only [blanksSkipped, List.isEmpty_nil, if_true]

end AccessAudit.Json
