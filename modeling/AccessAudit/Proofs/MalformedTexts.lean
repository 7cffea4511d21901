/-
**The first malformed text is told.**

All texts of a batch stand in one row, each with the list that it came from: the required actions,
then for each grant its patterns and its exceptions, then the same for each denial. The batch is
accepted exactly when every text of the row is well formed, and otherwise the first one that is not
is told: with its list when it is empty, and as it is written when it holds a wildcard too many. So
what patterns are asked on the way to a verdict is well formed.

* `Token`, `RuleSet.tokens`: the texts of a batch in the order in which they are looked at;
* `Token.IsWellFormed`, `Token.ToldBy`: what a text has to be, and the error for one that is not;
* `defects_eq_flatMap`: what is wrong with a batch is what is wrong with its texts;
* `first_malformed_text_is_told`: the verdict of the first look, and what it means for the questions
  that follow.
-/
import AccessAudit.Proofs.Inquiry

namespace AccessAudit

/-! ### The texts of a batch -/

/-- A text with the list that it was found in. -/
structure Token where
  origin : Origin
  text : String
  deriving DecidableEq, Repr

/-- The texts of a rule, its patterns before its exceptions. -/
def Coverage.tokens (ofPatterns ofExceptions : Origin) (coverage : Coverage) : List Token :=
  coverage.actions.map (Token.mk ofPatterns) ++ coverage.exceptions.map (Token.mk ofExceptions)

/-- The texts of a batch: the required actions, then those of the grants, then those of the
denials. -/
def RuleSet.tokens (rules : RuleSet) (candidates : List String) : List Token :=
  candidates.map (Token.mk .candidateAction) ++
    rules.grants.flatMap (Coverage.tokens .grantAction .grantException) ++
    rules.denials.flatMap fun denial =>
      denial.coverage.tokens .denialAction .denialException

namespace Token

/-- A required action is concrete, and every other text is a pattern. -/
def IsWellFormed (token : Token) : Prop :=
  if token.origin = .candidateAction then IsConcrete token.text else IsPattern token.text

/-- The error that tells of a malformed text. -/
inductive ToldBy : Token → TokenError → Prop
  /-- An empty text is told by its list. -/
  | empty (origin : Origin) : ToldBy { origin, text := "" } (.empty origin)
  /-- A required action with a wildcard is told as it is. -/
  | wildcard {action : String} (filled : action ≠ "") (starred : '*' ∈ action.toList) :
      ToldBy { origin := .candidateAction, text := action } (.wildcardInCandidate action)
  /-- A pattern with two wildcards or more is told as it is, with its list. -/
  | wildcards {origin : Origin} {pattern : String} (ofRule : origin ≠ .candidateAction)
      (filled : pattern ≠ "") (many : 1 < pattern.toList.count '*') :
      ToldBy { origin, text := pattern } (.tooManyWildcards origin pattern)

/-- What is wrong with a text. -/
def defects (token : Token) : List TokenError :=
  if token.origin = .candidateAction then candidateDefects token.text
  else patternDefects token.origin token.text

theorem defects_eq_nil_iff (token : Token) : token.defects = [] ↔ token.IsWellFormed := by
  unfold defects IsWellFormed
  split
  · exact candidateDefects_eq_nil_iff token.text
  · exact patternDefects_eq_nil_iff token.origin token.text

theorem toldBy_of_head?_defects {token : Token} {error : TokenError}
    (first : token.defects.head? = some error) : token.ToldBy error := by
  obtain ⟨origin, text⟩ := token
  by_cases empty : text = ""
  · subst empty
    have told : Token.defects ⟨origin, ""⟩ = [.empty origin] := by
      by_cases required : origin = .candidateAction
      · subst required
        rfl
      · simp [defects, patternDefects, required]
    rw [told] at first
    cases first
    exact .empty origin
  · by_cases required : origin = .candidateAction
    · subst required
      simp only [defects, candidateDefects, if_true, if_neg empty] at first
      split at first
      · rename_i starred
        cases first
        exact .wildcard empty starred
      · cases first
    · simp only [defects, patternDefects, if_neg required, if_neg empty] at first
      split at first
      · rename_i many
        cases first
        exact .wildcards required empty many
      · cases first

theorem head?_defects_of_toldBy {token : Token} {error : TokenError} (told : token.ToldBy error) :
    token.defects.head? = some error := by
  cases told with
  | empty origin => cases origin <;> rfl
  | wildcard filled starred => simp [defects, candidateDefects, filled, starred]
  | wildcards ofRule filled many =>
    rw [defects, if_neg ofRule, patternDefects, if_neg filled, if_pos many]
    rfl

theorem head?_defects_eq_some_iff (token : Token) (error : TokenError) :
    token.defects.head? = some error ↔ token.ToldBy error :=
  ⟨toldBy_of_head?_defects, head?_defects_of_toldBy⟩

end Token

/-! ### What is wrong with a batch -/

theorem Coverage.defects_eq_flatMap {ofPatterns ofExceptions : Origin} (coverage : Coverage)
    (patterns : ofPatterns ≠ .candidateAction) (exceptions : ofExceptions ≠ .candidateAction) :
    coverage.defects ofPatterns ofExceptions =
      (coverage.tokens ofPatterns ofExceptions).flatMap Token.defects := by
  unfold Coverage.defects Coverage.tokens
  rw [List.flatMap_append, List.flatMap_map, List.flatMap_map]
  simp only [Token.defects, if_neg patterns, if_neg exceptions]

/-- **What is wrong with a batch is what is wrong with its texts, one after the other.** -/
theorem RuleSet.defects_eq_flatMap (rules : RuleSet) (candidates : List String) :
    rules.defects candidates = (rules.tokens candidates).flatMap Token.defects := by
  have ofGrant : Coverage.defects .grantAction .grantException = fun grant =>
      (grant.tokens .grantAction .grantException).flatMap Token.defects :=
    funext fun grant => grant.defects_eq_flatMap (by decide) (by decide)
  have ofDenial : Coverage.defects .denialAction .denialException = fun coverage =>
      (coverage.tokens .denialAction .denialException).flatMap Token.defects :=
    funext fun coverage => coverage.defects_eq_flatMap (by decide) (by decide)
  unfold RuleSet.defects RuleSet.tokens
  rw [ofGrant, ofDenial, List.flatMap_append, List.flatMap_append, List.flatMap_map,
    List.flatMap_assoc, List.flatMap_assoc]
  rfl

theorem checkInput_eq_ok_iff (rules : RuleSet) (candidates : List String) :
    checkInput rules candidates = .ok () ↔
      ∀ token ∈ rules.tokens candidates, token.IsWellFormed := by
  rw [checkInput_eq_settled, settled_eq_ok_iff, and_iff_left rfl, RuleSet.defects_eq_flatMap,
    List.flatMap_eq_nil_iff]
  simp only [Token.defects_eq_nil_iff]

theorem checkInput_eq_error_iff (rules : RuleSet) (candidates : List String) (error : TokenError) :
    checkInput rules candidates = .error error ↔
      ∃ before token after, rules.tokens candidates = before ++ token :: after ∧
        (∀ earlier ∈ before, earlier.IsWellFormed) ∧ token.ToldBy error := by
  rw [checkInput_eq_settled, settled_eq_error_iff, RuleSet.defects_eq_flatMap, List.head?_flatMap,
    List.findSome?_eq_some_iff]
  simp only [List.head?_eq_none_iff, Token.defects_eq_nil_iff, Token.head?_defects_eq_some_iff,
    and_comm]

/-! ### The first look at a batch -/

/-- **A batch is accepted exactly when all its texts are well formed, and otherwise the first one
that is not is told.** A verdict is refused for the same text. It is found by asking patterns about
actions, and every question on the way has a concrete action and a well-formed pattern. -/
theorem first_malformed_text_is_told (domain : Domain) (rules : RuleSet)
    (candidates : List String) :
    (checkInput rules candidates = .ok () ↔
      ∀ token ∈ rules.tokens candidates, token.IsWellFormed) ∧
    (∀ error, checkInput rules candidates = .error error ↔
      ∃ before token after, rules.tokens candidates = before ++ token :: after ∧
        (∀ earlier ∈ before, earlier.IsWellFormed) ∧ token.ToldBy error) ∧
    (∀ refused, evaluate domain rules candidates = .error refused ↔
      checkInput rules candidates = .error refused.value ∧ refused.events = []) ∧
    (Inquiry.evaluate domain rules candidates).run Pattern.covers =
      evaluate domain rules candidates ∧
    ∀ question ∈ (Inquiry.evaluate domain rules candidates).questions Pattern.covers,
      IsConcrete question.action ∧ IsPattern question.pattern := by
  refine ⟨checkInput_eq_ok_iff rules candidates, checkInput_eq_error_iff rules candidates,
    fun refused => ?_, Inquiry.run_evaluate domain rules candidates,
    (Inquiry.onlyAsks_evaluate domain rules candidates).of_mem⟩
  rw [evaluate_eq_error_iff, checkInput_eq_settled, settled_eq_error_iff]

/-! ### Doors -/

/-- One grant with an exception, and one denial. -/
def doorRules : RuleSet where
  grants := [{ actions := ["Door/*"], exceptions := ["*/keys"] }]
  denials := [{ id := "night", coverage := { actions := ["Door/open", "Door/o*"] } }]

/-- The same with two exceptions of the grant and one pattern of the denial malformed. -/
def bentRules : RuleSet where
  grants := [{ actions := ["Door/*"], exceptions := ["*/keys", "*/*", ""] }]
  denials := [{ id := "night", coverage := { actions := [""] } }]

/-- Of the malformed texts the exception with two wildcards is the first. With the rules as they
should be, the pattern that denies and the exception of the grant are asked before its pattern. -/
theorem doors_are_asked_in_order :
    checkInput bentRules ["Door/open"] = .error (.tooManyWildcards .grantException "*/*") ∧
    (∃ before token after, bentRules.tokens ["Door/open"] = before ++ token :: after ∧
      (∀ earlier ∈ before, earlier.IsWellFormed) ∧
      token.ToldBy (.tooManyWildcards .grantException "*/*")) ∧
    (Inquiry.evaluate .control doorRules ["Door/open"]).questions Pattern.covers =
      [⟨"Door/open", "Door/open"⟩, ⟨"*/keys", "Door/open"⟩, ⟨"Door/*", "Door/open"⟩] ∧
    IsConcrete "Door/open" ∧ IsPattern "*/keys" := by
  obtain ⟨-, told, -⟩ := first_malformed_text_is_told .control bentRules ["Door/open"]
  obtain ⟨-, -, -, -, asked⟩ := first_malformed_text_is_told .control doorRules ["Door/open"]
  have refused : checkInput bentRules ["Door/open"] =
      .error (.tooManyWildcards .grantException "*/*") := rfl
  have questions : (Inquiry.evaluate .control doorRules ["Door/open"]).questions Pattern.covers =
      [⟨"Door/open", "Door/open"⟩, ⟨"*/keys", "Door/open"⟩, ⟨"Door/*", "Door/open"⟩] := by
    decide +kernel
  refine ⟨refused, (told _).mp refused, questions, asked ⟨"*/keys", "Door/open"⟩ ?_⟩
  rw [questions]
  decide

end AccessAudit
