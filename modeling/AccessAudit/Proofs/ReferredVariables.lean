/-
**Only the variables referred to matter.**

A value refers to a variable when one of its strings holds a reference to it that is not escaped.
What comes of replacing the references is settled by these variables: two environments that give
each of them the same value, or no value in both, give the same result or tell the same missing
variable. Other variables are not read at all: not those named in escaped references, since these
stand for themselves; not those named in keys, which are left as they are; and not those named in
what a variable holds, which is not looked at again. Each variable referred to does matter, since
without it there is no result.

* `Environment.AgreesOn`, `Environment.set`, `Environment.Extends`: two environments compared;
* `Json.RefersTo`: the variables that a value refers to;
* `Reference.mem_namesIn_iff`: the names found in a text are those of its unescaped references;
* `Json.resolve_congr`: nothing but these names decides what comes of a value;
* `only_variables_referred_to_matter`: what that means for two environments.
-/
import AccessAudit.Proofs.ValuePlaces

namespace AccessAudit

/-! ### Two environments -/

namespace Environment

/-- Both environments give the variable the same value, or neither gives it one. -/
def AgreesOn (environment environment' : Environment) (name : String) : Prop :=
  (∃ value, value ≠ "" ∧ environment.get? name = some value ∧
      environment'.get? name = some value) ∨
    (environment.Lacks name ∧ environment'.Lacks name)

/-- The environment with one variable set to a value, or not set any more. -/
def set (environment : Environment) (name : String) (setting : Option String) : Environment where
  get? asked := if asked = name then setting else environment.get? asked

/-- Every variable that was set is set to the same value. -/
def Extends (larger environment : Environment) : Prop :=
  ∀ name value, environment.get? name = some value → larger.get? name = some value

/-- An environment in which every variable has a value. -/
def everySet : Environment where
  get? _ := some "set"

variable {environment environment' : Environment} {name : String}

theorem agreesOn_iff :
    environment.AgreesOn environment' name ↔
      environment.filled? name = environment'.filled? name := by
  constructor
  · rintro (⟨value, filled, found, found'⟩ | ⟨lacks, lacks'⟩)
    · rw [(filled?_eq_some_iff _ _ _).mpr ⟨found, filled⟩,
        (filled?_eq_some_iff _ _ _).mpr ⟨found', filled⟩]
    · rw [(lacks_iff _ _).mp lacks, (lacks_iff _ _).mp lacks']
  · intro same
    cases found : environment.filled? name with
    | none => exact .inr ⟨(lacks_iff _ _).mpr found, (lacks_iff _ _).mpr (same ▸ found)⟩
    | some value =>
      obtain ⟨held, filled⟩ := (filled?_eq_some_iff _ _ _).mp found
      exact .inl ⟨value, filled, held, ((filled?_eq_some_iff _ _ _).mp (same ▸ found)).1⟩

/-- Another variable is as it was. -/
theorem filled?_set_of_ne {asked : String} (other : asked ≠ name) (setting : Option String) :
    (environment.set name setting).filled? asked = environment.filled? asked := by
  unfold filled? set
  simp only
  rw [if_neg other]

/-- Where every variable but one is set, that one is lacking. -/
theorem lacks_unset_iff {asked : String} : (everySet.set name none).Lacks asked ↔ asked = name := by
  unfold Lacks set everySet
  by_cases same : asked = name
  · simp [same]
  · simp [same]

theorem not_lacks_everySet : ¬ everySet.Lacks name := by
  intro lacks
  exact absurd (lacks "set" rfl) (by decide)

end Environment

/-! ### The names found in a text -/

namespace Reference

theorem unescapedAt_iff {cs : List Char} {position : Nat} {name : List Char} :
    UnescapedAt cs position name ↔ StandsAt cs position name ∧ ¬ EscapedAt cs position name := by
  unfold UnescapedAt EscapedAt
  refine and_congr_right fun stands => ?_
  simp only [stands, true_and, not_exists, not_and]

/-- Some unescaped reference of the text is to the variable. -/
theorem hasLacking_unset_iff (text name : String) :
    HasLacking (Environment.everySet.set name none) text ↔
      ∃ position, UnescapedAt text.toList position name.toList := by
  unfold HasLacking
  simp only [Environment.lacks_unset_iff]
  constructor
  · rintro ⟨position, _, begins, rfl⟩
    exact ⟨position, by rwa [String.toList_ofList]⟩
  · rintro ⟨position, begins⟩
    exact ⟨position, name.toList, begins, String.ofList_toList⟩

/-- **The names found in a text are those of its unescaped references.** -/
theorem mem_namesIn_iff (text name : String) :
    name ∈ namesIn text ↔ ∃ position, UnescapedAt text.toList position name.toList := by
  -- in the environment that lacks this variable alone, it is missing where it is referred to
  rw [← hasLacking_unset_iff, ← not_iff_not, ← missingIn_eq_nil_iff, missingIn,
    List.filter_eq_nil_iff]
  simp only [Option.isNone_iff_eq_none, ← Environment.lacks_iff, Environment.lacks_unset_iff]
  exact ⟨fun absent asked found same => absent (same ▸ found), fun others found =>
    others name found rfl⟩

section Texts

variable {environment environment' : Environment} {text : String}

theorem missingIn_congr (agree : ∀ name ∈ namesIn text,
      environment.filled? name = environment'.filled? name) :
    missingIn environment text = missingIn environment' text :=
  List.filter_congr fun name found => by rw [agree name found]

theorem filled_congr (agree : ∀ name ∈ namesIn text,
      environment.filled? name = environment'.filled? name) :
    filled environment text = filled environment' text := by
  refine congrArg String.ofList (List.flatMap_congr fun part inside => ?_)
  cases part with
  | char c => rfl
  | escaped name => rfl
  | reference name =>
    have found : String.ofList name ∈ namesIn text :=
      List.mem_filterMap.mpr ⟨.reference name, inside, rfl⟩
    rw [Segment.filled, Segment.filled, agree _ found]

end Texts

end Reference

/-! ### The variables of a value -/

namespace Json

/-- A string of the value holds a reference to the variable that is not escaped. -/
def RefersTo (value : Json) (name : String) : Prop :=
  ∃ way text position, value.at? way = some (string text) ∧
    Reference.StandsAt text.toList position name.toList ∧
    ¬ Reference.EscapedAt text.toList position name.toList

/-- The names found in the strings of a value, in order. -/
def names (value : Json) : List String :=
  (texts value.inKeyOrder).flatMap fun place => Reference.namesIn place.2

theorem mem_names_iff (value : Json) (name : String) :
    name ∈ value.names ↔ value.RefersTo name := by
  unfold names RefersTo
  simp only [List.mem_flatMap, Prod.exists, mem_texts_iff, Reference.mem_namesIn_iff,
    Reference.unescapedAt_iff, ← exists_and_left]

variable {environment environment' : Environment}

/-- A value is filled in the same way where its strings are. -/
theorem filled_congr {value : Json} (same : ∀ way text, (way, text) ∈ texts value →
      Reference.filled environment text = Reference.filled environment' text) :
    value.filled environment = value.filled environment' := by
  induction value using partsInduction with
  | string text => rw [filled, filled, same [] text (List.mem_singleton.mpr rfl)]
  | array items ih =>
    rw [filled, filled, filledItems_eq_map, filledItems_eq_map]
    refine congrArg array (List.map_congr_left fun item member => ?_)
    refine ih item member fun way text inside => ?_
    obtain ⟨index, found⟩ := List.mem_iff_getElem?.mp member
    refine same (.item index :: way) text ?_
    rw [texts, itemTexts_eq_flatMap, List.mem_flatMap]
    exact ⟨(item, index), List.mem_zipIdx_iff_getElem?.mpr found, List.mem_map_of_mem inside⟩
  | object members ih =>
    rw [filled, filled, filledMembers_eq_map, filledMembers_eq_map]
    refine congrArg object (List.map_congr_left fun member inside => ?_)
    refine Prod.ext rfl (ih member inside fun way text found => ?_)
    refine same (.member member.1 :: way) text ?_
    rw [texts, memberTexts_eq_flatMap, List.mem_flatMap]
    exact ⟨member, inside, List.mem_map_of_mem found⟩
  | null => rfl
  | bool _ => rfl
  | number _ => rfl
  | illegible => rfl

/-- **What comes of a value is decided by the variables that it refers to.** -/
theorem resolve_congr {value : Json} (agree : ∀ name, value.RefersTo name →
      environment.filled? name = environment'.filled? name) :
    value.resolve environment = value.resolve environment' := by
  have each : ∀ way text, (way, text) ∈ texts value.inKeyOrder → ∀ name ∈ Reference.namesIn text,
      environment.filled? name = environment'.filled? name := fun way text inside name found =>
    agree name ((mem_names_iff value name).mp (List.mem_flatMap.mpr ⟨(way, text), inside, found⟩))
  rw [resolve_eq_settled, resolve_eq_settled,
    filled_congr fun way text inside => Reference.filled_congr (each way text inside),
    List.flatMap_map, List.flatMap_map]
  congr 1
  refine List.flatMap_congr fun place inside => ?_
  rw [missingAt, missingAt, Reference.missingIn_congr (each place.1 place.2 inside)]

/-- Where a value could be resolved, no variable that it refers to is lacking. -/
theorem not_lacks_of_resolve {value result : Json} {name : String}
    (resolved : value.resolve environment = .ok result) (referred : value.RefersTo name) :
    ¬ environment.Lacks name := by
  intro lacks
  obtain ⟨way, text, position, held, stands, unescaped⟩ := referred
  have begins := Reference.unescapedAt_iff.mpr ⟨stands, unescaped⟩
  have lacking : Reference.HasLacking environment text :=
    ⟨position, name.toList, begins, by rwa [String.ofList_toList]⟩
  obtain ⟨missing, refused⟩ := (exists_missing_iff _ value).mpr ⟨way, text, held, lacking⟩
  rw [resolved] at refused
  cases refused

theorem exists_resolve_everySet (value : Json) :
    ∃ result, value.resolve .everySet = .ok result := by
  cases resolved : value.resolve .everySet with
  | ok result => exact ⟨result, rfl⟩
  | error missing =>
    obtain ⟨_, _, -, _, _, -, lacks⟩ := (exists_missing_iff _ value).mp ⟨missing, resolved⟩
    exact absurd lacks Environment.not_lacks_everySet

/-- Setting a variable anew can change what comes of a value exactly when the value refers to it. -/
theorem exists_resolve_set_ne_iff (value : Json) (name : String) :
    (∃ environment setting,
      value.resolve (environment.set name setting) ≠ value.resolve environment) ↔
      value.RefersTo name := by
  constructor
  · rintro ⟨environment, setting, different⟩
    by_contra unread
    refine different (resolve_congr fun asked referred => ?_)
    refine Environment.filled?_set_of_ne ?_ setting
    rintro rfl
    exact unread referred
  · intro referred
    -- with every variable set there is a result, and without this one there is none
    refine ⟨.everySet, none, fun same => ?_⟩
    obtain ⟨result, resolved⟩ := exists_resolve_everySet value
    rw [← same] at resolved
    exact not_lacks_of_resolve resolved referred (Environment.lacks_unset_iff.mpr rfl)

/-- A result stays when variables are added to the environment. -/
theorem resolve_of_extends {value result : Json} {larger : Environment}
    (added : larger.Extends environment) (resolved : value.resolve environment = .ok result) :
    value.resolve larger = .ok result := by
  rw [← resolved]
  refine resolve_congr fun name referred => ?_
  have given := not_lacks_of_resolve resolved referred
  rw [environment.lacks_iff] at given
  obtain ⟨held, found⟩ := Option.ne_none_iff_exists'.mp given
  obtain ⟨set, filled⟩ := (environment.filled?_eq_some_iff _ _).mp found
  rw [found, (larger.filled?_eq_some_iff _ _).mpr ⟨added name held set, filled⟩]

/-- **Two environments that agree on the variables a value refers to give the same result, or tell
the same missing variable. No other variable has any influence, and each of these has.** So a result
stays when variables are added to the environment. -/
theorem only_variables_referred_to_matter (value : Json) :
    (∀ environment environment' : Environment,
      (∀ name, value.RefersTo name → environment.AgreesOn environment' name) →
        value.resolve environment = value.resolve environment') ∧
    (∀ name, (∃ environment setting,
        value.resolve (environment.set name setting) ≠ value.resolve environment) ↔
      value.RefersTo name) ∧
    ∀ environment larger : Environment, larger.Extends environment →
      ∀ result, value.resolve environment = .ok result → value.resolve larger = .ok result := by
  refine ⟨fun environment environment' agree => resolve_congr fun name referred =>
      Environment.agreesOn_iff.mp (agree name referred), exists_resolve_set_ne_iff value,
    fun environment larger added result resolved => resolve_of_extends added resolved⟩

/-! ### A note under a key -/

/-- One variable is named in the key, one in an escaped reference, and one is referred to. -/
def keyedNote : Json :=
  .object [("$\x7bKEY\x7d", .string "$$\x7bESCAPED\x7d $\x7bNOTE\x7d")]

/-- What the note refers to names a variable in turn. That one, the one in the key and the escaped
one are set in one of the environments alone, and the result is the same. Without the variable that
is referred to, all of them are of no help. -/
theorem note_reads_one_variable :
    let others := [("KEY", "1"), ("ESCAPED", "2"), ("INNER", "3")]
    let result := object [("$\x7bKEY\x7d", .string "$\x7bESCAPED\x7d $\x7bINNER\x7d")]
    keyedNote.resolve (.ofList [("NOTE", "$\x7bINNER\x7d")]) = .ok result ∧
    keyedNote.resolve (.ofList (("NOTE", "$\x7bINNER\x7d") :: others)) = .ok result ∧
    keyedNote.resolve (.ofList others) = keyedNote.resolve (.ofList [("NOTE", "")]) ∧
    ¬ (∃ environment setting, keyedNote.resolve (environment.set "ESCAPED" setting) ≠
      keyedNote.resolve environment) := by
  intro others result
  have resolved : keyedNote.resolve (.ofList [("NOTE", "$\x7bINNER\x7d")]) = .ok result := by
    cbv
  have names : keyedNote.names = ["NOTE"] := by decide +kernel
  obtain ⟨agreeing, influence, adding⟩ := only_variables_referred_to_matter keyedNote
  refine ⟨resolved, adding _ _ ?_ result resolved, agreeing _ _ fun name referred => ?_, ?_⟩
  · intro name value found
    by_cases same : name = "NOTE"
    · subst same
      exact found
    · simp [Environment.ofList, same] at found
  · rw [← mem_names_iff, names, List.mem_singleton] at referred
    subst referred
    exact .inr ⟨(Environment.lacks_iff _ _).mpr rfl, (Environment.lacks_iff _ _).mpr rfl⟩
  · rw [influence, ← mem_names_iff, names]
    decide

end Json

end AccessAudit
