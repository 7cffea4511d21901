/-
**Escaping undoes substitution.**

Whoever writes a text that shall not be touched puts a second dollar in front of each of its
references. The second dollar is taken away again when references are replaced, and nothing else
changes: not the runs of dollars that were there before, nor references without an end or in lower
case. So an escaped text comes out as it was whatever the environment holds, and with it every value
and every configuration whose texts are escaped.

The argument follows the text from the front. Escaping makes no new reference: behind a character
that begins none, the escaped rest completes one only if the rest did
(`begins_cons_escapedChars_iff`), and no escaped text begins with a reference
(`not_begins_escapedChars`). So a character that stands for itself does so still, and a reference
is read with its second dollar, as a whole.

* `Reference.Begins`, `Reference.escape`: where a reference stands, and a text with all of them
  escaped;
* `Reference.readName?_eq_some_iff`: which names are read;
* `Reference.substitute_escape`, `Json.resolveAt_escaped`, `Config.resolve_escaped`: a text, a value
  and a configuration come out as they were;
* `escaping_undoes_substitution`: for values, and for whatever preparing a configuration gives.
-/
import AccessAudit.Proofs.Ordered
import AccessAudit.Proofs.Preparation

namespace AccessAudit

/-! ### One text -/

namespace Reference

/-- A capital letter or an underscore, then capital letters, digits and underscores. -/
def IsName (name : List Char) : Prop :=
  ∃ first rest, name = first :: rest ∧ isNameStart first ∧ ∀ c ∈ rest, isNameChar c

/-- A reference stands at the front of the characters. -/
def Begins (cs : List Char) : Prop :=
  ∃ name after, IsName name ∧ cs = written name ++ after

theorem isNameChar_of_isNameStart {c : Char} (start : isNameStart c) : isNameChar c := by
  unfold isNameChar
  rw [start, Bool.true_or]

theorem isNameChar_of_mem {name : List Char} (named : IsName name) : ∀ c ∈ name, isNameChar c := by
  obtain ⟨first, rest, rfl, start, others⟩ := named
  exact List.forall_mem_cons.mpr ⟨isNameChar_of_isNameStart start, others⟩

/-- A name is read exactly where it stands, up to its closing brace. -/
theorem readName?_eq_some_iff (cs name after : List Char) :
    readName? cs = some (name, after) ↔ IsName name ∧ cs = name ++ '\x7d' :: after := by
  constructor
  · intro read
    unfold readName? at read
    split at read
    · rename_i first tail begun dropped
      split at read
      · rename_i start
        obtain ⟨rfl, rfl⟩ := Prod.mk.inj (Option.some.inj read)
        obtain ⟨rest, rfl⟩ : ∃ rest, cs = first :: rest := by
          cases cs with
          | nil => cases begun
          | cons c rest => exact ⟨rest, by rw [Option.some.inj begun]⟩
        refine ⟨⟨first, rest.takeWhile isNameChar, ?_, start, fun c inside => ?_⟩, ?_⟩
        · exact List.takeWhile_cons_of_pos (isNameChar_of_isNameStart start)
        · exact List.all_eq_true.mp List.all_takeWhile c inside
        · rw [← dropped, List.takeWhile_append_dropWhile]
      · cases read
    · cases read
  · rintro ⟨named, rfl⟩
    have brace : isNameChar '\x7d' = false := by decide
    have taken : (name ++ '\x7d' :: after).takeWhile isNameChar = name := by
      rw [List.takeWhile_append_of_pos (isNameChar_of_mem named),
        List.takeWhile_cons_of_neg (by simp [brace]), List.append_nil]
    have dropped : (name ++ '\x7d' :: after).dropWhile isNameChar = '\x7d' :: after := by
      rw [List.dropWhile_append_of_pos (isNameChar_of_mem named),
        List.dropWhile_cons_of_neg (by simp [brace])]
    obtain ⟨first, rest, rfl, start, -⟩ := named
    unfold readName?
    rw [taken, dropped]
    simp [start]

theorem begins_iff_readName? (cs : List Char) :
    Begins cs ↔ ∃ rest, cs = '$' :: '\x7b' :: rest ∧ (readName? rest).isSome := by
  constructor
  · rintro ⟨name, after, named, rfl⟩
    have read := (readName?_eq_some_iff (name ++ '\x7d' :: after) name after).mpr ⟨named, rfl⟩
    refine ⟨name ++ '\x7d' :: after, ?_, ?_⟩
    · simp [written]
    · rw [read]
      rfl
  · rintro ⟨rest, rfl, read⟩
    obtain ⟨⟨name, after⟩, read⟩ := Option.isSome_iff_exists.mp read
    obtain ⟨named, rfl⟩ := (readName?_eq_some_iff rest name after).mp read
    exact ⟨name, after, named, by simp [written]⟩

instance (cs : List Char) : Decidable (Begins cs) :=
  decidable_of_iff (cs.take 2 = ['$', '\x7b'] ∧ (readName? (cs.drop 2)).isSome) <| by
    rw [begins_iff_readName?]
    constructor
    · rintro ⟨front, read⟩
      refine ⟨cs.drop 2, ?_, read⟩
      rw [← List.take_append_drop 2 cs, front]
      rfl
    · rintro ⟨rest, rfl, read⟩
      exact ⟨rfl, read⟩

theorem segments_escaped {name : List Char} (named : IsName name) (after : List Char) :
    segments ('$' :: (written name ++ after)) = .escaped name :: segments after := by
  have read := (readName?_eq_some_iff (name ++ '\x7d' :: after) name after).mpr ⟨named, rfl⟩
  have front : '$' :: (written name ++ after) =
      '$' :: '$' :: '\x7b' :: (name ++ '\x7d' :: after) := by
    simp [written]
  rw [front, segments]
  split
  · rename_i name' after' found
    rw [read] at found
    cases found
    rfl
  · rename_i found
    rw [read] at found
    cases found

theorem readName?_eq_none_of_not_begins {rest : List Char}
    (absent : ¬ Begins ('$' :: '\x7b' :: rest)) : readName? rest = none := by
  by_contra read
  have begun : ∃ rest', '$' :: '\x7b' :: rest = '$' :: '\x7b' :: rest' ∧ (readName? rest').isSome :=
    ⟨rest, rfl, Option.isSome_iff_ne_none.mpr read⟩
  exact absent ((begins_iff_readName? _).mpr begun)

/-- A character stands for itself unless a reference begins with it or, behind a dollar, right
after it. -/
theorem segments_char {c : Char} {rest : List Char} (here : ¬ Begins (c :: rest))
    (next : c = '$' → ¬ Begins rest) : segments (c :: rest) = .char c :: segments rest := by
  rw [segments.eq_def]
  split
  · rename_i found
    cases found
  -- an escaped reference, a reference, and any other character
  · rename_i later found
    obtain ⟨rfl, rfl⟩ := List.cons.inj found
    have unread := readName?_eq_none_of_not_begins (next rfl)
    split
    · rename_i read
      rw [unread] at read
      cases read
    · rfl
  · rename_i later found
    obtain ⟨rfl, rfl⟩ := List.cons.inj found
    have unread := readName?_eq_none_of_not_begins here
    split
    · rename_i read
      rw [unread] at read
      cases read
    · rfl
  · rename_i found
    obtain ⟨rfl, rfl⟩ := List.cons.inj found
    rfl

/-- A second dollar in front of every reference. -/
def escapedChars : List Char → List Char
  | [] => []
  | c :: rest =>
    if Begins (c :: rest) then '$' :: c :: escapedChars rest else c :: escapedChars rest

/-- A text with every reference escaped. -/
def escape (text : String) : String :=
  String.ofList (escapedChars text.toList)

theorem not_begins_of_ne_dollar {c : Char} (other : c ≠ '$') (rest : List Char) :
    ¬ Begins (c :: rest) := by
  rintro ⟨name, after, -, split⟩
  exact other (List.cons.inj split).1

/-- Characters without a dollar stay as they are, whatever follows them. -/
theorem escapedChars_append {front : List Char} (undollared : '$' ∉ front) (back : List Char) :
    escapedChars (front ++ back) = front ++ escapedChars back := by
  induction front with
  | nil => rfl
  | cons c rest ih =>
    obtain ⟨other, later⟩ := List.ne_and_not_mem_of_not_mem_cons undollared
    rw [List.cons_append, escapedChars, if_neg (not_begins_of_ne_dollar other.symm _), ih later,
      List.cons_append]

/-- Characters without a dollar at the front of what is escaped were there before. -/
theorem exists_of_escapedChars_eq_append {cs front back : List Char} (undollared : '$' ∉ front)
    (escaped : escapedChars cs = front ++ back) :
    ∃ rest, cs = front ++ rest ∧ escapedChars rest = back := by
  induction front generalizing cs with
  | nil => exact ⟨cs, rfl, escaped⟩
  | cons c front ih =>
    obtain ⟨other, later⟩ := List.ne_and_not_mem_of_not_mem_cons undollared
    cases cs with
    | nil => cases escaped
    | cons first rest =>
      rw [escapedChars] at escaped
      by_cases begun : Begins (first :: rest)
      · rw [if_pos begun] at escaped
        exact absurd (List.cons.inj escaped).1 other
      · rw [if_neg begun] at escaped
        obtain ⟨rfl, restEscaped⟩ := List.cons.inj escaped
        obtain ⟨back', rfl, same⟩ := ih later restEscaped
        exact ⟨back', rfl, same⟩

theorem not_mem_of_isName {name : List Char} (named : IsName name) :
    '$' ∉ '\x7b' :: (name ++ ['\x7d']) := by
  have unnamed : '$' ∉ name := fun inside =>
    absurd (isNameChar_of_mem named '$' inside) (by decide)
  simp [unnamed]

/-- Escaping what follows a character makes no reference of the two. -/
theorem begins_cons_escapedChars_iff (c : Char) (rest : List Char) :
    Begins (c :: escapedChars rest) ↔ Begins (c :: rest) := by
  constructor
  · rintro ⟨name, after, named, whole⟩
    obtain ⟨rfl, following⟩ := List.cons.inj whole
    obtain ⟨back, rfl, -⟩ := exists_of_escapedChars_eq_append (not_mem_of_isName named) following
    exact ⟨name, back, named, rfl⟩
  · rintro ⟨name, after, named, whole⟩
    obtain ⟨rfl, rfl⟩ := List.cons.inj whole
    refine ⟨name, escapedChars after, named, ?_⟩
    show '$' :: escapedChars ('\x7b' :: (name ++ ['\x7d']) ++ after) = _
    rw [escapedChars_append (not_mem_of_isName named)]
    rfl

/-- No reference begins an escaped text. -/
theorem not_begins_escapedChars (cs : List Char) : ¬ Begins (escapedChars cs) := by
  cases cs with
  | nil =>
    rintro ⟨name, after, -, split⟩
    cases split
  | cons c rest =>
    rw [escapedChars]
    by_cases begun : Begins (c :: rest)
    · rw [if_pos begun]
      obtain ⟨name, after, -, split⟩ := begun
      obtain ⟨rfl, -⟩ := List.cons.inj split
      rintro ⟨name', after', -, split'⟩
      exact absurd (List.cons.inj (List.cons.inj split').2).1 (by decide)
    · rw [if_neg begun, begins_cons_escapedChars_iff]
      exact begun

theorem escapedChars_written {name : List Char} (named : IsName name) (after : List Char) :
    escapedChars (written name ++ after) = '$' :: (written name ++ escapedChars after) := by
  have begun : Begins (written name ++ after) := ⟨name, after, named, rfl⟩
  have rest := escapedChars_append (not_mem_of_isName named) after
  show (if Begins (written name ++ after) then
    '$' :: '$' :: escapedChars ('\x7b' :: (name ++ ['\x7d']) ++ after) else _) = _
  rw [if_pos begun, rest]
  rfl

theorem render_escapedChars (environment : Environment) (cs : List Char) :
    render environment (segments (escapedChars cs)) = .ok cs := by
  -- by the length and not by the list, since a reference is read as a whole
  induction bound : cs.length using Nat.strong_induction_on generalizing cs with
  | _ n ih =>
    cases cs with
    | nil => simp [escapedChars, segments, render]
    | cons c rest =>
      by_cases begun : Begins (c :: rest)
      · obtain ⟨name, after, named, split⟩ := begun
        have shorter : after.length < n := by
          rw [← bound, split]
          simp [written]
          omega
        rw [split, escapedChars_written named, segments_escaped named, render,
          ih _ shorter after rfl]
        rfl
      · have shorter : rest.length < n := by
          rw [← bound]
          simp
        have here : ¬ Begins (c :: escapedChars rest) := by
          rw [begins_cons_escapedChars_iff]
          exact begun
        rw [escapedChars, if_neg begun, segments_char here fun _ => not_begins_escapedChars rest,
          render, ih _ shorter rest rfl]
        rfl

/-- **An escaped text comes out as it was before, whatever the environment.** -/
theorem substitute_escape (environment : Environment) (text : String) :
    substitute environment (escape text) = .ok text := by
  unfold substitute escape
  rw [String.toList_ofList, render_escapedChars]
  show Except.ok (String.ofList text.toList) = _
  rw [String.ofList_toList]

end Reference

/-! ### Values -/

namespace Json

mutual

/-- The value with every string escaped; keys are left as they are. -/
def escaped : Json → Json
  | string text => string (Reference.escape text)
  | array items => array (escapedItems items)
  | object members => object (escapedMembers members)
  | value => value

/-- The items with every string escaped. -/
def escapedItems : List Json → List Json
  | [] => []
  | item :: rest => escaped item :: escapedItems rest

/-- The members with every string of their values escaped. -/
def escapedMembers : List (String × Json) → List (String × Json)
  | [] => []
  | (key, value) :: rest => (key, escaped value) :: escapedMembers rest

end

section Resolved

variable (environment : Environment)

mutual

/-- **An escaped value comes out as it was before, whatever the environment.** -/
theorem resolveAt_escaped (path : String) : ∀ value : Json,
    resolveAt environment path value.escaped = .ok value
  | string text => by
    rw [escaped, resolveAt, Reference.substitute_escape]
  | array items => by
    rw [escaped, resolveAt, resolveItems_escaped path 0 items]
    rfl
  | object members => by
    rw [escaped, resolveAt, resolveMembers_escaped path members]
    rfl
  | null => rfl
  | bool _ => rfl
  | number _ => rfl
  | illegible => rfl

theorem resolveItems_escaped (path : String) (index : Nat) : ∀ items : List Json,
    resolveItems environment path index (escapedItems items) = .ok items
  | [] => rfl
  | item :: rest => by
    rw [escapedItems, resolveItems, resolveAt_escaped (itemPath path index) item,
      resolveItems_escaped path (index + 1) rest]
    rfl

theorem resolveMembers_escaped (path : String) : ∀ members : List (String × Json),
    resolveMembers environment path (escapedMembers members) = .ok members
  | [] => rfl
  | (key, value) :: rest => by
    rw [escapedMembers, resolveMembers, resolveAt_escaped (memberPath path key) value,
      resolveMembers_escaped path rest]
    rfl

end

end Resolved

theorem escapedMembers_eq_map (members : List (String × Json)) :
    escapedMembers members = members.map fun member => (member.1, member.2.escaped) := by
  induction members with
  | nil => rfl
  | cons member rest ih => rw [escapedMembers, ih, List.map_cons]

mutual

/-- It makes no difference whether the members are put in order before or after escaping. -/
theorem inKeyOrder_escaped : ∀ value : Json, value.escaped.inKeyOrder = value.inKeyOrder.escaped
  | array items => by
    rw [escaped, inKeyOrder, inKeyOrder, escaped, itemsInKeyOrder_escaped items]
  | object members => by
    rw [escaped, inKeyOrder, inKeyOrder, escaped, membersInKeyOrder_escaped members,
      escapedMembers_eq_map, escapedMembers_eq_map, Text.sortedEntries_map]
  | string _ => rfl
  | null => rfl
  | bool _ => rfl
  | number _ => rfl
  | illegible => rfl

theorem itemsInKeyOrder_escaped : ∀ items : List Json,
    itemsInKeyOrder (escapedItems items) = escapedItems (itemsInKeyOrder items)
  | [] => rfl
  | item :: rest => by
    rw [escapedItems, itemsInKeyOrder, itemsInKeyOrder, escapedItems, inKeyOrder_escaped item,
      itemsInKeyOrder_escaped rest]

theorem membersInKeyOrder_escaped : ∀ members : List (String × Json),
    membersInKeyOrder (escapedMembers members) = escapedMembers (membersInKeyOrder members)
  | [] => rfl
  | (key, value) :: rest => by
    rw [escapedMembers, membersInKeyOrder, membersInKeyOrder, escapedMembers,
      inKeyOrder_escaped value, membersInKeyOrder_escaped rest]

end

theorem resolve_escaped (environment : Environment) (value : Json) :
    value.escaped.resolve environment = .ok value.inKeyOrder := by
  unfold resolve
  rw [inKeyOrder_escaped, resolveAt_escaped]

theorem escapedItems_map {α : Type} {write : α → Json} {change : α → α}
    (each : ∀ value, (write value).escaped = write (change value)) (values : List α) :
    escapedItems (values.map write) = (values.map change).map write := by
  induction values with
  | nil => rfl
  | cons value rest ih =>
    rw [List.map_cons, escapedItems, each, ih, List.map_cons, List.map_cons]

theorem escaped_ofTexts (texts : List String) :
    (ofTexts texts).escaped = ofTexts (texts.map Reference.escape) := by
  have each : ∀ text, (string text).escaped = string (Reference.escape text) := fun _ => rfl
  rw [ofTexts, escaped, escapedItems_map each, ofTexts]

end Json

/-! ### Configurations -/

/-- A check with every text escaped. -/
def NamedCheck.escaped (check : NamedCheck) : NamedCheck where
  name := Reference.escape check.name
  scope := Reference.escape check.scope
  snapshot := Reference.escape check.snapshot
  requirement :=
    { actions := check.requirement.actions.map Reference.escape
      dataActions := check.requirement.dataActions.map Reference.escape }

/-- The settings of the log with every text escaped. -/
def Logging.escaped (logging : Logging) : Logging where
  level := logging.level.map Reference.escape
  json := logging.json
  dir := logging.dir.map Reference.escape

/-- A configuration with every text escaped. -/
def Config.escaped (config : Config) : Config where
  logging := config.logging.map Logging.escaped
  checks := config.checks.map NamedCheck.escaped

theorem NamedCheck.escaped_sortedJson (check : NamedCheck) :
    check.sortedJson.escaped = check.escaped.sortedJson := by
  simp only [sortedJson, Json.escaped, Json.escapedMembers, Json.escaped_ofTexts, escaped]

theorem Logging.escaped_sortedJson (logging : Logging) :
    logging.sortedJson.escaped = logging.escaped.sortedJson := by
  obtain ⟨level, json, dir⟩ := logging
  cases level <;> cases json <;> cases dir <;> rfl

theorem Config.escaped_sortedJson (config : Config) :
    config.sortedJson.escaped = config.escaped.sortedJson := by
  obtain ⟨logging, checks⟩ := config
  have ofChecks := Json.escapedItems_map NamedCheck.escaped_sortedJson checks
  cases logging with
  | none =>
    simp only [sortedJson, Json.memberOf, Json.escaped, Json.escapedMembers, ofChecks, escaped,
      Option.map_none]
  | some logging =>
    simp only [sortedJson, Json.memberOf, Json.escaped, Json.escapedMembers, ofChecks, escaped,
      Option.map_some, Logging.escaped_sortedJson]

/-- **An escaped configuration comes out as it was before, whatever the environment.** -/
theorem Config.resolve_escaped (environment : Environment) (config : Config) :
    config.escaped.resolve environment = .ok config := by
  have resolved : config.escaped.toJson.resolve environment = .ok config.sortedJson := by
    unfold Json.resolve
    rw [Config.inKeyOrder_toJson, ← Config.escaped_sortedJson, Json.resolveAt_escaped]
  unfold Config.resolve
  simp only [resolved, Config.ofJson?_sortedJson]

theorem NamedCheck.withDefaults_withDefaults (check : NamedCheck) :
    check.withDefaults.withDefaults = check.withDefaults := by
  unfold NamedCheck.withDefaults
  by_cases blank : Text.isBlankText check.scope
  · have rooted : Text.isBlankText defaultScope = false := by decide
    simp [blank, rooted]
  · simp [blank]

theorem Config.withDefaults_withDefaults (config : Config) :
    config.withDefaults.withDefaults = config.withDefaults := by
  have checks : (config.checks.map NamedCheck.withDefaults).map NamedCheck.withDefaults =
      config.checks.map NamedCheck.withDefaults := by
    rw [List.map_map]
    exact List.map_congr_left fun check _ => check.withDefaults_withDefaults
  unfold Config.withDefaults
  rw [checks]
  rfl

/-- What preparing gives is prepared from itself. -/
theorem Config.prepared_of_prepare {files : Files} {environment : Environment} {path : String}
    {prepared : Prepared} (given : (Config.prepare files environment path).value = .ok prepared) :
    prepared.config.prepared = prepared := by
  rw [prepare_value_eq] at given
  cases loaded : (Config.load files path).value with
  | error failure =>
    rw [loaded] at given
    cases given
  | ok config =>
    rw [loaded] at given
    change (config.resolve environment).map Config.prepared = .ok prepared at given
    cases resolved : config.resolve environment with
    | error failure =>
      rw [resolved] at given
      cases given
    | ok filled =>
      rw [resolved] at given
      obtain rfl : filled.prepared = prepared := Except.ok.inj given
      unfold Config.prepared
      rw [Config.withDefaults_withDefaults]

/-- **In every environment, replacing the references of an escaped value gives the value back. And
whatever configuration was prepared, in whatever environment, it is prepared again from its escaped
form, with the same findings.** -/
theorem escaping_undoes_substitution (environment : Environment) :
    (∀ (path : String) (value : Json),
      Json.resolveAt environment path value.escaped = .ok value) ∧
    (∀ value : Json, value.escaped.resolve environment = .ok value.inKeyOrder) ∧
    ∀ files origin path prepared, (Config.prepare files origin path).value = .ok prepared →
      (prepared.config.escaped.resolve environment).map Config.prepared = .ok prepared := by
  refine ⟨Json.resolveAt_escaped environment, Json.resolve_escaped environment, ?_⟩
  intro files origin path prepared given
  rw [Config.resolve_escaped]
  exact congrArg Except.ok (Config.prepared_of_prepare given)

/-! ### A configuration with dollars in it -/

/-- One check whose texts hold an escaped reference and a reference behind two further dollars. -/
def dollarFiles : Files :=
  .ofReadings
    [("permcheck.yaml",
      .ok "checks:\n- name: $$\x7bNAME\x7d\n  snapshot: $\x7bDIR\x7d/$$$\x7bDIR\x7d\n")] []

/-- What becomes of it where the directory is named by a text that looks like a reference. -/
def dollarConfig : Config where
  checks := [{ name := "$\x7bNAME\x7d", snapshot := "$\x7bHOME\x7d/$$\x7bDIR\x7d" }]

/-- The texts that were put in hold references themselves, one of them behind a dollar. Escaped,
they come out as they are where none of the variables is set. -/
theorem dollars_are_escaped_and_kept :
    (Config.prepare dollarFiles (.ofList [("DIR", "$\x7bHOME\x7d")]) "permcheck.yaml").value =
      .ok dollarConfig.prepared ∧
    dollarConfig.prepared.config.escaped.checks.map NamedCheck.snapshot =
      ["$$\x7bHOME\x7d/$$$\x7bDIR\x7d"] ∧
    (dollarConfig.prepared.config.escaped.resolve (.ofList [])).map Config.prepared =
      .ok dollarConfig.prepared := by
  have given : (Config.prepare dollarFiles (.ofList [("DIR", "$\x7bHOME\x7d")])
      "permcheck.yaml").value = .ok dollarConfig.prepared := by decide +kernel
  obtain ⟨_, _, again⟩ := escaping_undoes_substitution (.ofList [])
  exact ⟨given, by decide +kernel, again _ _ _ _ given⟩

end AccessAudit
