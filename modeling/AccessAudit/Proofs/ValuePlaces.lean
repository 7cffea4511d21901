/-
**References in a value, place by place.**

A place in a value is told by the way to it: the keys and the indices that lead there from the root.
The strings are met in the order of their ways, where the first step in which two ways differ
decides, indices by number and keys by their bytes. So the string that a missing variable is told of
is the first one by that order, and the path that is told spells the way to it. When nothing is
missing, every place holds what it held before, with each string replaced by itself filled in: keys,
lengths, numbers, truth values and nulls are not touched.

A key that is empty spoils the spelling at the root alone, where a path has no point in front.

* `Step`, `at?`, `spelled`, `Earlier`: ways into a value, what is there, how they are spelled, and
  which comes first;
* `texts`: the strings of a value with the ways to them, in order;
* `mem_texts_iff`, `texts_pairwise`: the strings are those at the places of the value, each once;
* `Becomes`: what a place holds when references are replaced;
* `references_are_resolved_place_by_place`: the first string at fault, or the value place by place.
-/
import AccessAudit.Proofs.ByteOrder
import AccessAudit.Proofs.Outline
import AccessAudit.Proofs.ReferencePositions
import Mathlib

namespace AccessAudit.Json

/-! ### Ways into a value -/

/-- One step from a value to a part of it. -/
inductive Step where
  | member (key : String)
  | item (index : Nat)
  deriving DecidableEq, Repr

/-- The part that a step leads to; of a repeated key the last member counts. -/
def part? : Json → Step → Option Json
  | array items, .item index => items[index]?
  | object members, .member key => members.reverse.lookup key
  | _, _ => none

/-- The value at the end of a way. -/
def at? (value : Json) : List Step → Option Json
  | [] => some value
  | step :: rest => (value.part? step).bind fun part => part.at? rest

/-- A step as it is spelled behind others. -/
def Step.spelled : Step → String
  | .member key => "." ++ key
  | .item index => "[" ++ toString index ++ "]"

/-- A way as it is spelled; a key at the root has no point in front. -/
def spelled : List Step → String
  | .member key :: rest => key ++ String.join (rest.map Step.spelled)
  | way => String.join (way.map Step.spelled)

/-- Keys are in the order of their bytes, items in that of their indices. -/
inductive Step.Before : Step → Step → Prop
  | member {key key' : String} (smaller : Text.bytes key < Text.bytes key') :
      Before (.member key) (.member key')
  | item {index index' : Nat} (smaller : index < index') : Before (.item index) (.item index')

/-- The first step in which two ways differ decides which of them comes first. -/
inductive Earlier : List Step → List Step → Prop
  | here {step step' : Step} {rest rest' : List Step} (before : step.Before step') :
      Earlier (step :: rest) (step' :: rest')
  | deeper {step : Step} {rest rest' : List Step} (later : Earlier rest rest') :
      Earlier (step :: rest) (step :: rest')

theorem Step.Before.asymm {step step' : Step} (before : step.Before step') :
    ¬ step'.Before step := by
  intro after
  cases before with
  | member smaller =>
    cases after with
    | member larger => exact List.lt_asymm smaller larger
  | item smaller =>
    cases after with
    | item larger => exact Nat.lt_asymm smaller larger

theorem Earlier.asymm {way way' : List Step} (earlier : Earlier way way') :
    ¬ Earlier way' way := by
  induction earlier with
  | here before =>
    intro back
    cases back with
    | here after => exact before.asymm after
    | deeper => exact before.asymm before
  | deeper later ih =>
    intro back
    cases back with
    | here after => exact after.asymm after
    | deeper back => exact ih back

/-! ### The strings of a value -/

mutual

/-- The strings of a value with the ways to them, in order. -/
def texts : Json → List (List Step × String)
  | string text => [([], text)]
  | array items => itemTexts 0 items
  | object members => memberTexts members
  | _ => []

/-- The strings of the items of an array from an index on. -/
def itemTexts (index : Nat) : List Json → List (List Step × String)
  | [] => []
  | item :: rest =>
    (texts item).map (fun place => (.item index :: place.1, place.2)) ++ itemTexts (index + 1) rest

/-- The strings of the members of an object. -/
def memberTexts : List (String × Json) → List (List Step × String)
  | [] => []
  | (key, value) :: rest =>
    (texts value).map (fun place => (.member key :: place.1, place.2)) ++ memberTexts rest

end

section Values

theorem itemTexts_eq_flatMap (items : List Json) (start : Nat) :
    itemTexts start items = (items.zipIdx start).flatMap fun entry =>
      (texts entry.1).map fun place => (.item entry.2 :: place.1, place.2) := by
  induction items generalizing start with
  | nil => rfl
  | cons item rest ih => rw [itemTexts, ih, List.zipIdx_cons, List.flatMap_cons]

theorem memberTexts_eq_flatMap (members : List (String × Json)) :
    memberTexts members = members.flatMap fun member =>
      (texts member.2).map fun place => (.member member.1 :: place.1, place.2) := by
  induction members with
  | nil => rfl
  | cons member rest ih => rw [memberTexts, ih, List.flatMap_cons]

theorem itemStrings_eq_flatMap (path : String) (items : List Json) :
    itemStrings path 0 items = items.zipIdx.flatMap fun entry =>
      stringsAt (itemPath path entry.2) entry.1 := by
  have strings := itemStrings_map path id items 0
  rwa [List.map_id] at strings

theorem memberStrings_eq_flatMap (path : String) (members : List (String × Json)) :
    memberStrings path members = members.flatMap fun member =>
      stringsAt (memberPath path member.1) member.2 := by
  induction members with
  | nil => rfl
  | cons member rest ih => rw [memberStrings, ih, List.flatMap_cons]

theorem itemsInKeyOrder_eq_map (items : List Json) :
    itemsInKeyOrder items = items.map inKeyOrder := by
  have mapped := @itemsInKeyOrder_map Json id inKeyOrder (fun _ => rfl) items
  rwa [List.map_id] at mapped

theorem membersInKeyOrder_eq_map (members : List (String × Json)) :
    membersInKeyOrder members = members.map fun member => (member.1, member.2.inKeyOrder) := by
  induction members with
  | nil => rfl
  | cons member rest ih => rw [membersInKeyOrder, ih, List.map_cons]

/-- What holds of every value without parts, and of every value whose parts it holds of, holds of
every value. -/
@[elab_as_elim]
theorem partsInduction {holds : Json → Prop} (null : holds null)
    (bool : ∀ value, holds (bool value)) (number : ∀ value, holds (number value))
    (string : ∀ text, holds (string text))
    (array : ∀ items, (∀ item ∈ items, holds item) → holds (array items))
    (object : ∀ members, (∀ member ∈ members, holds member.2) → holds (object members))
    (illegible : holds illegible) (value : Json) : holds value :=
  @Json.rec holds (fun items => ∀ item ∈ items, holds item)
    (fun members => ∀ member ∈ members, holds member.2) (fun member => holds member.2)
    null bool number string array object illegible
    (List.forall_mem_nil _) (fun _ _ first rest => List.forall_mem_cons.mpr ⟨first, rest⟩)
    (List.forall_mem_nil _) (fun _ _ first rest => List.forall_mem_cons.mpr ⟨first, rest⟩)
    (fun _ _ held => held) value

end Values

/-! ### The strings are those at the places of the value -/

section Places

theorem lookup_map_snd {α β : Type} (change : α → β) (entries : List (String × α))
    (asked : String) :
    (entries.map fun entry => (entry.1, change entry.2)).lookup asked =
      (entries.lookup asked).map change := by
  induction entries with
  | nil => rfl
  | cons entry rest ih =>
    rw [List.map_cons, Text.lookup_cons_eq_ite, Text.lookup_cons_eq_ite, ih]
    split <;> rfl

/-- The members in order hold, under each key, what its last member held, in order itself. -/
theorem lookup_sortedMembers (members : List (String × Json)) (key : String) :
    (Text.sortedEntries (membersInKeyOrder members)).lookup key =
      (members.reverse.lookup key).map inKeyOrder := by
  rw [Text.lookup_sortedEntries, membersInKeyOrder_eq_map, ← List.map_reverse, lookup_map_snd]

/-- A string behind a step is a string of the part that the step leads to. -/
theorem mem_texts_cons_iff (value : Json) (step : Step) (rest : List Step) (text : String) :
    (step :: rest, text) ∈ texts value.inKeyOrder ↔
      ∃ part, value.part? step = some part ∧ (rest, text) ∈ texts part.inKeyOrder := by
  cases value with
  | array items =>
    rw [inKeyOrder, texts, itemTexts_eq_flatMap, itemsInKeyOrder_eq_map]
    simp only [List.mem_flatMap, List.mem_map, Prod.exists, Prod.mk.injEq, List.cons.injEq,
      List.mem_zipIdx_iff_getElem?, List.getElem?_map, Option.map_eq_some_iff]
    constructor
    · rintro ⟨_, index, ⟨item, found, rfl⟩, way, text, inside, ⟨rfl, rfl⟩, rfl⟩
      exact ⟨item, found, inside⟩
    · rintro ⟨item, found, inside⟩
      cases step with
      | member key => cases found
      | item index => exact ⟨_, index, ⟨item, found, rfl⟩, rest, text, inside, ⟨rfl, rfl⟩, rfl⟩
  | object members =>
    -- no key is repeated any more, so to be a member is to be found under the key
    have ascending := Text.keys_sortedEntries_ascending (membersInKeyOrder members)
    rw [inKeyOrder, texts, memberTexts_eq_flatMap]
    simp only [List.mem_flatMap, List.mem_map, Prod.exists, Prod.mk.injEq, List.cons.injEq,
      Text.mem_iff_lookup ascending, lookup_sortedMembers, Option.map_eq_some_iff]
    constructor
    · rintro ⟨key, _, ⟨part, found, rfl⟩, way, text, inside, ⟨rfl, rfl⟩, rfl⟩
      exact ⟨part, found, inside⟩
    · rintro ⟨part, found, inside⟩
      cases step with
      | member key => exact ⟨key, _, ⟨part, found, rfl⟩, rest, text, inside, ⟨rfl, rfl⟩, rfl⟩
      | item index => cases found
  | null => exact iff_of_false (by simp [inKeyOrder, texts]) (by simp [part?])
  | bool _ => exact iff_of_false (by simp [inKeyOrder, texts]) (by simp [part?])
  | number _ => exact iff_of_false (by simp [inKeyOrder, texts]) (by simp [part?])
  | string _ => exact iff_of_false (by simp [inKeyOrder, texts]) (by simp [part?])
  | illegible => exact iff_of_false (by simp [inKeyOrder, texts]) (by simp [part?])

/-- **The strings of a value are those at its places.** -/
theorem mem_texts_iff (value : Json) (way : List Step) (text : String) :
    (way, text) ∈ texts value.inKeyOrder ↔ value.at? way = some (string text) := by
  induction way generalizing value with
  | nil =>
    cases value with
    | array items => simp [inKeyOrder, texts, itemTexts_eq_flatMap, at?]
    | object members => simp [inKeyOrder, texts, memberTexts_eq_flatMap, at?]
    | string held => simp [inKeyOrder, texts, at?, eq_comm]
    | null => simp [inKeyOrder, texts, at?]
    | bool _ => simp [inKeyOrder, texts, at?]
    | number _ => simp [inKeyOrder, texts, at?]
    | illegible => simp [inKeyOrder, texts, at?]
  | cons step rest ih => simp only [mem_texts_cons_iff, ih, at?, Option.bind_eq_some_iff]

/-- What is found among the members was one of them. -/
theorem mem_of_lookup {members : List (String × Json)} {key : String} {value : Json}
    (found : members.reverse.lookup key = some value) : (key, value) ∈ members := by
  obtain ⟨before, after, split, -⟩ := List.lookup_eq_some_iff.mp found
  rw [← List.mem_reverse, split]
  exact List.mem_append_right _ List.mem_cons_self

/-- **The strings come in the order of their ways.** -/
theorem texts_pairwise (value : Json) :
    (texts value.inKeyOrder).Pairwise fun place place' => Earlier place.1 place'.1 := by
  have behind : ∀ (step : Step) (places : List (List Step × String)),
      (places.Pairwise fun place place' => Earlier place.1 place'.1) →
      (places.map fun place => (step :: place.1, place.2)).Pairwise fun place place' =>
        Earlier place.1 place'.1 := by
    intro step places ordered
    exact List.pairwise_map.mpr (ordered.imp Earlier.deeper)
  induction value using partsInduction with
  | array items ih =>
    rw [inKeyOrder, texts, itemTexts_eq_flatMap, itemsInKeyOrder_eq_map, List.pairwise_flatMap]
    constructor
    · rintro ⟨item, index⟩ inside
      obtain ⟨original, member, rfl⟩ := List.mem_map.mp (List.fst_mem_of_mem_zipIdx inside)
      exact behind _ _ (ih original member)
    · refine (pairwise_zipIdx (items.map inKeyOrder)).imp fun {entry entry'} smaller => ?_
      intro place inside place' inside'
      obtain ⟨_, -, rfl⟩ := List.mem_map.mp inside
      obtain ⟨_, -, rfl⟩ := List.mem_map.mp inside'
      exact .here (.item smaller)
  | object members ih =>
    have ascending := Text.keys_sortedEntries_ascending (membersInKeyOrder members)
    rw [inKeyOrder, texts, memberTexts_eq_flatMap, List.pairwise_flatMap]
    constructor
    · rintro ⟨key, value⟩ inside
      rw [Text.mem_iff_lookup ascending, lookup_sortedMembers, Option.map_eq_some_iff] at inside
      obtain ⟨original, found, rfl⟩ := inside
      exact behind _ _ (ih _ (mem_of_lookup found))
    · refine (List.pairwise_map.mp ascending).imp fun {entry entry'} smaller => ?_
      intro place inside place' inside'
      obtain ⟨_, -, rfl⟩ := List.mem_map.mp inside
      obtain ⟨_, -, rfl⟩ := List.mem_map.mp inside'
      exact .here (.member ((Text.lt_iff_bytes_lt _ _).mp smaller))
  | null => exact .nil
  | bool _ => exact .nil
  | number _ => exact .nil
  | string text => exact List.pairwise_singleton _ _
  | illegible => exact .nil

end Places

/-! ### The paths of the strings -/

section Paths

/-- The path of what a way leads to, from the value at a path. -/
def extended (path : String) : List Step → String
  | [] => path
  | .member key :: rest => extended (memberPath path key) rest
  | .item index :: rest => extended (itemPath path index) rest

theorem stringsAt_eq_map (path : String) (value : Json) :
    stringsAt path value = (texts value).map fun place => (extended path place.1, place.2) := by
  induction value using partsInduction generalizing path with
  | array items ih =>
    rw [stringsAt, itemStrings_eq_flatMap, texts, itemTexts_eq_flatMap, List.map_flatMap]
    refine List.flatMap_congr fun entry inside => ?_
    rw [ih entry.1 (List.fst_mem_of_mem_zipIdx inside), List.map_map]
    rfl
  | object members ih =>
    rw [stringsAt, memberStrings_eq_flatMap, texts, memberTexts_eq_flatMap, List.map_flatMap]
    refine List.flatMap_congr fun member inside => ?_
    rw [ih member inside, List.map_map]
    rfl
  | null => rfl
  | bool _ => rfl
  | number _ => rfl
  | string text => rfl
  | illegible => rfl

/-- Behind a path that is not empty every step is spelled the same way. -/
theorem extended_eq_append {path : String} (filled : path ≠ "") (way : List Step) :
    extended path way = path ++ String.join (way.map Step.spelled) := by
  induction way generalizing path with
  | nil => simp [extended, String.join]
  | cons step rest ih =>
    cases step with
    | member key =>
      have further : memberPath path key = path ++ ("." ++ key) := by
        simp [memberPath, filled, String.append_assoc]
      have longer : memberPath path key ≠ "" := by simp [further]
      rw [extended, ih longer, further, List.map_cons, String.join_cons, String.append_assoc]
      rfl
    | item index =>
      have further : itemPath path index = path ++ ("[" ++ toString index ++ "]") := by
        simp [itemPath, String.append_assoc]
      have longer : itemPath path index ≠ "" := by simp [further]
      rw [extended, ih longer, further, List.map_cons, String.join_cons, String.append_assoc]
      rfl

/-- **From the root, the path of a string spells the way to it.** -/
theorem extended_root {way : List Step} (rooted : way.head? ≠ some (.member "")) :
    extended "" way = spelled way := by
  cases way with
  | nil => rfl
  | cons step rest =>
    cases step with
    | member key =>
      have filled : key ≠ "" := fun empty => rooted (by rw [empty]; rfl)
      have first : memberPath "" key = key := rfl
      rw [extended, first, extended_eq_append filled, spelled]
    | item index =>
      have first : itemPath "" index = Step.spelled (.item index) := by
        simp [itemPath, Step.spelled]
      have filled : Step.spelled (.item index) ≠ "" := by simp [Step.spelled]
      rw [extended, first, extended_eq_append filled, ← String.join_cons, ← List.map_cons]
      rfl

end Paths

/-! ### What a place holds in the end -/

/-- What a value becomes when the references in it are replaced, as far as it can be told without
its parts: the items stay as many as they were, and the members are put in order. -/
inductive Becomes (environment : Environment) : Json → Json → Prop
  | string {text result : String}
      (replaced : Reference.substitute environment text = .ok result) :
      Becomes environment (string text) (string result)
  | array {items items' : List Json} (asMany : items'.length = items.length) :
      Becomes environment (array items) (array items')
  | object {members members' : List (String × Json)}
      (keys : members'.map Prod.fst = Text.sortedTexts (members.map Prod.fst)) :
      Becomes environment (object members) (object members')
  | null : Becomes environment null null
  | bool (value : Bool) : Becomes environment (bool value) (bool value)
  | number (value : Number) : Becomes environment (number value) (number value)
  | illegible : Becomes environment illegible illegible

section Filled

variable (environment : Environment)

theorem filledItems_eq_map (items : List Json) :
    filledItems environment items = items.map (filled environment) := by
  have mapped := @filledItems_map environment Json id (filled environment) (fun _ => rfl) items
  rwa [List.map_id, List.map_id] at mapped

theorem filledMembers_eq_map (members : List (String × Json)) :
    filledMembers environment members =
      members.map fun member => (member.1, member.2.filled environment) := by
  induction members with
  | nil => rfl
  | cons member rest ih => rw [filledMembers, ih, List.map_cons]

/-- In a list with ascending keys it makes no difference from which end one looks. -/
theorem lookup_reverse {α : Type} {entries : List (String × α)}
    (ascending : (entries.map Prod.fst).Pairwise (· < ·)) (asked : String) :
    entries.reverse.lookup asked = entries.lookup asked := by
  induction entries with
  | nil => rfl
  | cons entry rest ih =>
    obtain ⟨key, held⟩ := entry
    obtain ⟨below, restAscending⟩ := List.pairwise_cons.mp ascending
    rw [List.reverse_cons, List.lookup_append, ih restAscending, Text.lookup_cons_eq_ite,
      Text.lookup_cons_eq_ite, List.lookup_nil]
    by_cases same : asked = key
    · have absent : rest.lookup asked = none := by
        rw [List.lookup_eq_none_iff]
        intro other inside
        have later := below other.1 (List.mem_map_of_mem inside)
        simpa [same] using later.ne
      rw [absent, if_pos same]
      rfl
    · rw [if_neg same, if_neg same, Option.or_none]

theorem part?_filled (value : Json) (step : Step) :
    (filled environment value.inKeyOrder).part? step =
      (value.part? step).map fun part => filled environment part.inKeyOrder := by
  cases value with
  | array items =>
    rw [inKeyOrder, filled, filledItems_eq_map, itemsInKeyOrder_eq_map, List.map_map]
    cases step with
    | member key => rfl
    | item index => exact List.getElem?_map
  | object members =>
    rw [inKeyOrder, filled, filledMembers_eq_map]
    cases step with
    | member key =>
      have ascending := Text.keys_sortedEntries_ascending (membersInKeyOrder members)
      show List.lookup key (List.reverse _) = _
      rw [← List.map_reverse, lookup_map_snd, lookup_reverse ascending, lookup_sortedMembers,
        Option.map_map]
      rfl
    | item index => rfl
  | null => cases step <;> rfl
  | bool _ => cases step <;> rfl
  | number _ => cases step <;> rfl
  | string _ => cases step <;> rfl
  | illegible => cases step <;> rfl

/-- Every place of the value filled in holds what was there before, filled in. -/
theorem at?_filled (value : Json) (way : List Step) :
    (filled environment value.inKeyOrder).at? way =
      (value.at? way).map fun held => filled environment held.inKeyOrder := by
  induction way generalizing value with
  | nil => rfl
  | cons step rest ih =>
    rw [at?, at?, part?_filled]
    cases value.part? step with
    | none => rfl
    | some part => exact ih part

theorem becomes_filled (value : Json)
    (complete : ∀ text, value = string text → Reference.missingIn environment text = []) :
    Becomes environment value (filled environment value.inKeyOrder) := by
  cases value with
  | string text =>
    exact .string ((Reference.substitute_eq_ok_iff _ _ _).mpr ⟨complete text rfl, rfl⟩)
  | array items =>
    rw [inKeyOrder, filled, filledItems_eq_map, itemsInKeyOrder_eq_map]
    exact .array (by simp)
  | object members =>
    rw [inKeyOrder, filled, filledMembers_eq_map, membersInKeyOrder_eq_map]
    refine .object ?_
    rw [List.map_map]
    show (Text.sortedEntries _).map Prod.fst = _
    rw [Text.keys_sortedEntries, List.map_map]
    rfl
  | null => exact .null
  | bool value => exact .bool value
  | number value => exact .number value
  | illegible => exact .illegible

end Filled

/-! ### Resolving a value -/

section Resolved

variable (environment : Environment) (value : Json)

/-- In a list in order, what comes before an entry is what is smaller. -/
theorem mem_before_iff {α : Type} {related : α → α → Prop} {entries before after : List α}
    {entry : α} (ordered : entries.Pairwise related)
    (asymm : ∀ a b, related a b → ¬ related b a) (split : entries = before ++ entry :: after)
    (other : α) : other ∈ before ↔ other ∈ entries ∧ related other entry := by
  subst split
  obtain ⟨-, ofRest, across⟩ := List.pairwise_append.mp ordered
  obtain ⟨behind, -⟩ := List.pairwise_cons.mp ofRest
  constructor
  · intro inside
    exact ⟨List.mem_append_left _ inside, across other inside entry List.mem_cons_self⟩
  · rintro ⟨member, smaller⟩
    rcases List.mem_append.mp member with inside | later
    · exact inside
    · rcases List.mem_cons.mp later with rfl | inside
      · exact absurd smaller (asymm _ _ smaller)
      · exact absurd smaller (asymm _ _ (behind other inside))

theorem resolve_eq_settled :
    value.resolve environment =
      settled (((texts value.inKeyOrder).map fun place => (extended "" place.1, place.2)).flatMap
        (missingAt environment)) (filled environment value.inKeyOrder) := by
  unfold resolve
  rw [resolveAt_eq_settled, stringsAt_eq_map]

/-- **The missing variable that is told is that of the first string to lack one.** -/
theorem resolve_eq_error_iff (missing : MissingVariable) :
    value.resolve environment = .error missing ↔
      ∃ way text, value.at? way = some (string text) ∧ extended "" way = missing.path ∧
        Reference.FirstLacking environment text missing.name ∧
        ∀ earlier other, Earlier earlier way → value.at? earlier = some (string other) →
          ¬ Reference.HasLacking environment other := by
  have ordered := texts_pairwise value
  have asymm : ∀ place place' : List Step × String,
      Earlier place.1 place'.1 → ¬ Earlier place'.1 place.1 := fun _ _ => Earlier.asymm
  rw [resolve_eq_settled, settled_eq_error_iff, head?_missing_eq_some_iff]
  constructor
  · rintro ⟨_, text, _, spelledSplit, passed, refused⟩
    obtain ⟨before, _, split, rfl, following⟩ := List.map_eq_append_iff.mp spelledSplit
    obtain ⟨⟨way, text⟩, after, rfl, placed, -⟩ := List.map_eq_cons_iff.mp following
    obtain ⟨path, rfl⟩ := Prod.mk.inj placed
    have member : (way, text) ∈ texts value.inKeyOrder := by
      rw [split]
      exact List.mem_append_right _ List.mem_cons_self
    refine ⟨way, text, (mem_texts_iff _ _ _).mp member, path,
      (Reference.substitute_eq_error_iff_firstLacking _ _ _).mp refused, ?_⟩
    intro earlier other smaller held lacking
    have inside := (mem_before_iff ordered asymm split (earlier, other)).mpr
      ⟨(mem_texts_iff _ _ _).mpr held, smaller⟩
    obtain ⟨result, replaced⟩ := passed _ (List.mem_map_of_mem inside)
    obtain ⟨complete, -⟩ := replaces_iff.mp replaced
    exact (Reference.missingIn_eq_nil_iff _ _).mp complete lacking
  · rintro ⟨way, text, held, path, first, clean⟩
    obtain ⟨before, after, split⟩ := List.append_of_mem ((mem_texts_iff _ _ _).mpr held)
    refine ⟨before.map fun place => (extended "" place.1, place.2), text,
      after.map fun place => (extended "" place.1, place.2), ?_, fun place inside => ?_,
      (Reference.substitute_eq_error_iff_firstLacking _ _ _).mpr first⟩
    · rw [split, List.map_append, List.map_cons, path]
    · obtain ⟨⟨earlier, other⟩, among, rfl⟩ := List.mem_map.mp inside
      obtain ⟨member, smaller⟩ := (mem_before_iff ordered asymm split (earlier, other)).mp among
      have whole := clean earlier other smaller ((mem_texts_iff _ _ _).mp member)
      exact ⟨_, replaces_iff.mpr ⟨(Reference.missingIn_eq_nil_iff _ _).mpr whole, rfl⟩⟩

/-- A value cannot be resolved exactly when one of its strings lacks a variable. -/
theorem exists_missing_iff :
    (∃ missing, value.resolve environment = .error missing) ↔
      ∃ way text, value.at? way = some (string text) ∧
        Reference.HasLacking environment text := by
  constructor
  · rintro ⟨missing, refused⟩
    obtain ⟨way, text, held, -, first, -⟩ := (resolve_eq_error_iff _ _ _).mp refused
    exact ⟨way, text, held, (Reference.exists_firstLacking_iff _ _).mp ⟨_, first⟩⟩
  · rintro ⟨way, text, held, lacking⟩
    cases resolved : value.resolve environment with
    | error missing => exact ⟨missing, rfl⟩
    | ok result =>
      rw [resolve_eq_settled, settled_eq_ok_iff, List.flatMap_eq_nil_iff] at resolved
      have none := resolved.1 _ (List.mem_map_of_mem ((mem_texts_iff _ _ _).mpr held))
      rw [missingAt, List.map_eq_nil_iff] at none
      exact absurd lacking ((Reference.missingIn_eq_nil_iff _ _).mp none)

theorem rel_of_resolve {result : Json} (resolved : value.resolve environment = .ok result)
    (way : List Step) :
    Option.Rel (Becomes environment) (value.at? way) (result.at? way) := by
  have sound : ¬ ∃ way text, value.at? way = some (string text) ∧
      Reference.HasLacking environment text := by
    rw [← exists_missing_iff, resolved]
    rintro ⟨missing, refused⟩
    cases refused
  rw [resolve_eq_settled, settled_eq_ok_iff] at resolved
  rw [← resolved.2, at?_filled]
  cases held : value.at? way with
  | none => exact .none
  | some part =>
    refine .some (becomes_filled environment part fun text isText => ?_)
    rw [Reference.missingIn_eq_nil_iff]
    exact fun lacking => sound ⟨way, text, isText ▸ held, lacking⟩

/-- **A value cannot be resolved exactly when some string in it has an unescaped reference to a
variable without a value. The variable that is told is the leftmost such one of the first such
string, and the path spells the way to that string. When the value is resolved, what is there at
every place becomes what is there in the result.** The value has no empty key at its root, since a
path tells nothing of such a key. -/
theorem references_are_resolved_place_by_place (rooted : value.part? (.member "") = none) :
    ((∃ missing, value.resolve environment = .error missing) ↔
      ∃ way text, value.at? way = some (string text) ∧
        Reference.HasLacking environment text) ∧
    (∀ missing, value.resolve environment = .error missing ↔
      ∃ way text, value.at? way = some (string text) ∧
        Reference.FirstLacking environment text missing.name ∧ missing.path = spelled way ∧
        ∀ earlier other, Earlier earlier way → value.at? earlier = some (string other) →
          ¬ Reference.HasLacking environment other) ∧
    ∀ result, value.resolve environment = .ok result →
      ∀ way, Option.Rel (Becomes environment) (value.at? way) (result.at? way) := by
  have spelling : ∀ way part, value.at? way = some part → extended "" way = spelled way := by
    intro way part held
    refine extended_root fun empty => ?_
    cases way with
    | nil => cases empty
    | cons step rest =>
      rw [Option.some.inj empty, at?, rooted] at held
      cases held
  refine ⟨exists_missing_iff environment value, fun missing => ?_,
    fun result resolved => rel_of_resolve environment value resolved⟩
  rw [resolve_eq_error_iff]
  refine exists_congr fun way => exists_congr fun text => and_congr_right fun held => ?_
  rw [spelling way _ held, and_left_comm, eq_comm]

end Resolved

/-! ### Notes on a door -/

/-- The members are not in the order of their keys. One string holds an escaped reference alone, and
one an escaped reference and a plain one. -/
def doorValue : Json :=
  .object
    [("zone", .string "$\x7bZONE\x7d"),
      ("doors", .array
        [.string "$$\x7bDOOR\x7d", .object [("label", .string "$$$\x7bDOOR\x7d $\x7bDOOR\x7d")]])]

/-- Without variables, the string in the array is met before the one under the later key. With them,
the string there is filled in, and the value of one variable is not read again in the other. -/
theorem door_label_is_met_first :
    doorValue.resolve (.ofList [("ZONE", "")]) =
      .error { name := "DOOR", path := "doors[1].label" } ∧
    (∃ way text, doorValue.at? way = some (.string text) ∧
      Reference.FirstLacking (.ofList [("ZONE", "")]) text "DOOR" ∧
      "doors[1].label" = spelled way) ∧
    Option.Rel (Becomes (.ofList [("ZONE", "$\x7bDOOR\x7d"), ("DOOR", "2")]))
      (doorValue.at? [.member "zone"]) (some (.string "$\x7bDOOR\x7d")) := by
  have refused : doorValue.resolve (.ofList [("ZONE", "")]) =
      .error { name := "DOOR", path := "doors[1].label" } := by cbv
  have resolved : doorValue.resolve (.ofList [("ZONE", "$\x7bDOOR\x7d"), ("DOOR", "2")]) =
      .ok (.object
        [("doors", .array
            [.string "$\x7bDOOR\x7d", .object [("label", .string "$$\x7bDOOR\x7d 2")]]),
          ("zone", .string "$\x7bDOOR\x7d")]) := by cbv
  obtain ⟨-, first, -⟩ := references_are_resolved_place_by_place (.ofList [("ZONE", "")]) doorValue
    (by rfl)
  obtain ⟨-, -, placed⟩ := references_are_resolved_place_by_place
    (.ofList [("ZONE", "$\x7bDOOR\x7d"), ("DOOR", "2")]) doorValue (by rfl)
  obtain ⟨way, text, held, lacking, path, -⟩ := (first _).mp refused
  exact ⟨refused, ⟨way, text, held, lacking, path⟩, placed _ resolved [.member "zone"]⟩

end AccessAudit.Json
