/-
**Events that explain the verdict.**

A verdict comes about step by step. Before the first action is judged nothing is denied, and every
required action counts as one without a grant. Each action is judged in its turn, as often as it is
required: it is noted under the last denial that covers it, and struck from those without a grant if
a grant covers it. On the way the events are told, one for each denial that covers the action and
one for the first grant that does.

Verdict and events agree after every step. An action is denied by the last denial that the events
have told of it, and it is still without a grant when it is required and no event has told of a
grant. No step can break that, since an event tells of the action that is judged and of no other.
So whoever reads the events alone knows the verdict.

* `LogEvent.denial?`, `LogEvent.IsGrantOf`, `lastDenial?`: what events tell of an action;
* `Explains`, `explains_afterReview`, `explains_foldl`: they agree after a step, and after a run;
* `withSummary_of_evaluate`: the evaluation of a batch is the run and the summary;
* `IsAccountOf`, `isAccountOf_review`: the events of one action, told by the rules;
* `TellsStrike`, `TellsGrant`, `TellsSummary`: what each kind of event has in it;
* `check_events_of_refused`: malformed input has no events;
* `events_explain_verdict`: all events of an evaluation, and what follows for the verdict.
-/
import AccessAudit.Proofs.ExactVerdict

namespace AccessAudit

/-! ### What events tell of an action -/

/-- The identifier of the denial by which the event tells that the action is denied. -/
def LogEvent.denial? (event : LogEvent) (action : String) : Option String :=
  if event.message = "Deny rule match" ∧ event.fields.lookup "action" = some (.plain action) then
    match event.fields.lookup "deny_assignment" with
    | some (.plain id) => some id
    | _ => none
  else none

/-- The event tells that a grant covers the action. -/
def LogEvent.IsGrantOf (event : LogEvent) (action : String) : Prop :=
  event.message = "Grant match" ∧ event.fields.lookup "action" = some (.plain action)

/-- The last denial that the events tell of an action. -/
def lastDenial? (events : List LogEvent) (action : String) : Option String :=
  events.reverse.findSome? (LogEvent.denial? · action)

section Told

variable {action other pattern : String} {denial : Denial} {events events' : List LogEvent}

theorem denialEvent_denial? :
    (denialEvent action denial pattern).denial? other =
      if other = action then some denial.id else none := by
  simp [denialEvent, LogEvent.denial?, List.lookup_cons, eq_comm]

theorem not_isGrantOf_denialEvent : ¬ (denialEvent action denial pattern).IsGrantOf other := by
  simp [denialEvent, LogEvent.IsGrantOf]

theorem grantEvent_denial? : (grantEvent action pattern).denial? other = none := by
  simp [grantEvent, LogEvent.denial?]

theorem grantEvent_isGrantOf_iff :
    (grantEvent action pattern).IsGrantOf other ↔ other = action := by
  simp [grantEvent, LogEvent.IsGrantOf, eq_comm]

theorem summaryEvent_denial? {domain : Domain} {candidates : List String} {verdict : Verdict} :
    (summaryEvent domain candidates verdict).denial? action = none := by
  simp [summaryEvent, LogEvent.denial?]

theorem not_isGrantOf_summaryEvent {domain : Domain} {candidates : List String}
    {verdict : Verdict} : ¬ (summaryEvent domain candidates verdict).IsGrantOf action := by
  simp [summaryEvent, LogEvent.IsGrantOf]

/-- Of two parts the later one counts, if it tells of a denial at all. -/
theorem lastDenial?_append :
    lastDenial? (events ++ events') action =
      (lastDenial? events' action).or (lastDenial? events action) := by
  unfold lastDenial?
  rw [List.reverse_append, List.findSome?_append]

/-- The events of a review tell of its own action, and of that by which it is denied. -/
theorem lastDenial?_review_events (review : Review) :
    lastDenial? review.events other =
      if other = review.action then review.deniedBy? else none := by
  have ofStrikes : lastDenial? (review.strikes.map fun strike =>
      denialEvent review.action strike.1 strike.2) other =
        if other = review.action then review.deniedBy? else none := by
    unfold lastDenial? Review.deniedBy?
    rw [← List.map_reverse, List.findSome?_map]
    simp only [Function.comp_def, denialEvent_denial?]
    by_cases same : other = review.action
    · simp only [if_pos same, List.getLast?_eq_head?_reverse]
      cases review.strikes.reverse with
      | nil => rfl
      | cons strike rest => rfl
    · simp [same]
  have ofGrant : lastDenial? (review.grantedVia?.toList.map (grantEvent review.action)) other =
      none := by
    unfold lastDenial?
    rw [← List.map_reverse, List.findSome?_map, List.findSome?_eq_none_iff]
    exact fun _ _ => grantEvent_denial?
  show lastDenial? (review.strikes.map (fun strike =>
    denialEvent review.action strike.1 strike.2) ++ _) other = _
  rw [lastDenial?_append, ofGrant, Option.none_or, ofStrikes]

/-- The events of a review tell of a grant exactly when it grants its action. -/
theorem exists_isGrantOf_review_events_iff (review : Review) :
    (∃ event ∈ review.events, event.IsGrantOf other) ↔
      other = review.action ∧ review.isGranted := by
  unfold Review.events Review.isGranted
  constructor
  · rintro ⟨event, inside, told⟩
    rcases List.mem_append.mp inside with struck | granted
    · obtain ⟨strike, -, rfl⟩ := List.mem_map.mp struck
      exact absurd told not_isGrantOf_denialEvent
    · obtain ⟨pattern, found, rfl⟩ := List.mem_map.mp granted
      rw [Option.mem_toList] at found
      exact ⟨grantEvent_isGrantOf_iff.mp told, Option.isSome_of_mem found⟩
  · rintro ⟨rfl, granted⟩
    obtain ⟨pattern, found⟩ := Option.isSome_iff_exists.mp granted
    refine ⟨grantEvent review.action pattern, List.mem_append_right _ ?_,
      grantEvent_isGrantOf_iff.mpr rfl⟩
    exact List.mem_map_of_mem (Option.mem_toList.mpr found)

end Told

/-! ### Step by step -/

namespace Verdict

/-- The verdict with an action noted under its denial. -/
def deny (verdict : Verdict) (action id : String) : Verdict :=
  { verdict with
    denied := Text.insertEntry action id verdict.denied
    denied_ascending := by
      rw [Text.keys_insertEntry]
      exact Text.ascending_insertText _ _ verdict.denied_ascending }

/-- The verdict with an action struck from those without a grant. -/
def permit (verdict : Verdict) (action : String) : Verdict :=
  { verdict with
    unpermitted := verdict.unpermitted.erase action
    unpermitted_ascending := verdict.unpermitted_ascending.sublist List.erase_sublist }

theorem mem_unpermitted_permit_iff {verdict : Verdict} {action other : String} :
    other ∈ (verdict.permit action).unpermitted ↔ other ∈ verdict.unpermitted ∧ other ≠ action := by
  have once : verdict.unpermitted.Nodup := verdict.unpermitted_ascending.imp ne_of_lt
  show other ∈ verdict.unpermitted.erase action ↔ _
  rw [once.mem_erase_iff, and_comm]

end Verdict

/-- Before an action is judged nothing is denied, and no action has a grant. -/
def beforeReviews (candidates : List String) : Logged Verdict where
  value := .ofEntries [] candidates

/-- The verdict and the events after one more review. -/
def afterReview (state : Logged Verdict) (review : Review) : Logged Verdict where
  value :=
    let noted :=
      match review.deniedBy? with
      | some id => state.value.deny review.action id
      | none => state.value
    if review.isGranted then noted.permit review.action else noted
  events := state.events ++ review.events

/-- The events explain the verdict on the required actions: what they tell last of a denial is the
denial, and an action is without a grant until they tell of one. -/
structure Explains (asked : List String) (state : Logged Verdict) : Prop where
  denied : ∀ action, state.value.deniedBy? action = lastDenial? state.events action
  unpermitted : ∀ action, action ∈ state.value.unpermitted ↔
    action ∈ asked ∧ ¬ ∃ event ∈ state.events, event.IsGrantOf action

section Run

variable {asked : List String} {state : Logged Verdict}

/-- Whether an action is granted makes no difference to what is denied. -/
theorem afterReview_denied (state : Logged Verdict) (review : Review) :
    (afterReview state review).value.denied =
      match review.deniedBy? with
      | some id => Text.insertEntry review.action id state.value.denied
      | none => state.value.denied := by
  unfold afterReview
  cases review.deniedBy? with
  | none => exact apply_ite Verdict.denied _ _ _ |>.trans (ite_self _)
  | some id => exact apply_ite Verdict.denied _ _ _ |>.trans (ite_self _)

/-- Whether an action is denied makes no difference to what is without a grant. -/
theorem mem_unpermitted_afterReview_iff {review : Review} {action : String} :
    action ∈ (afterReview state review).value.unpermitted ↔
      action ∈ state.value.unpermitted ∧ ¬ (action = review.action ∧ review.isGranted) := by
  have noted : (match review.deniedBy? with
      | some id => state.value.deny review.action id
      | none => state.value).unpermitted = state.value.unpermitted := by
    cases review.deniedBy? <;> rfl
  unfold afterReview
  by_cases granted : review.isGranted
  · rw [if_pos granted, Verdict.mem_unpermitted_permit_iff, noted, and_iff_left granted]
  · rw [if_neg granted, noted, and_iff_left fun own => granted own.2]

theorem explains_beforeReviews (candidates : List String) :
    Explains candidates (beforeReviews candidates) where
  denied _ := rfl
  unpermitted action := by
    show action ∈ Text.sortedTexts candidates ↔ _ ∧ ¬ ∃ event ∈ [], _
    simp [Text.mem_sortedTexts]

/-- **A review leaves the verdict explained.** -/
theorem explains_afterReview (explained : Explains asked state) (review : Review) :
    Explains asked (afterReview state review) where
  denied action := by
    have before := explained.denied action
    show (afterReview state review).value.denied.lookup action =
      lastDenial? (state.events ++ review.events) action
    rw [afterReview_denied, lastDenial?_append, lastDenial?_review_events, ← before]
    -- a review that denies nothing leaves both as they are, and so does one of another action
    cases review.deniedBy? with
    | none =>
      rw [ite_self, Option.none_or]
      rfl
    | some id =>
      rw [Text.lookup_insertEntry]
      by_cases own : action = review.action
      · rw [if_pos own, if_pos own, Option.some_or]
      · rw [if_neg own, if_neg own, Option.none_or]
        rfl
  unpermitted action := by
    have before := explained.unpermitted action
    have told := @exists_isGrantOf_review_events_iff action review
    have split : (∃ event ∈ state.events ++ review.events, event.IsGrantOf action) ↔
        (∃ event ∈ state.events, event.IsGrantOf action) ∨
          action = review.action ∧ review.isGranted := by
      rw [← told]
      simp only [List.mem_append, or_and_right, exists_or]
    rw [mem_unpermitted_afterReview_iff, before, and_assoc, ← not_or, ← split]
    rfl

/-- **However many reviews there are, they leave the verdict explained.** -/
theorem explains_foldl (explained : Explains asked state) (reviews : List Review) :
    Explains asked (reviews.foldl afterReview state) := by
  -- the reviews to come start from the state after the first one, so any state will do
  induction reviews generalizing state with
  | nil => exact explained
  | cons review rest ih => exact ih (explains_afterReview explained review)

theorem foldl_afterReview_events (reviews : List Review) (state : Logged Verdict) :
    (reviews.foldl afterReview state).events = state.events ++ reviews.flatMap Review.events := by
  induction reviews generalizing state with
  | nil => simp
  | cons review rest ih =>
    rw [List.foldl_cons, ih, List.flatMap_cons, ← List.append_assoc]
    rfl

theorem foldl_afterReview_denied (reviews : List Review) (state : Logged Verdict) :
    (reviews.foldl afterReview state).value.denied =
      (reviews.filterMap fun review => review.deniedBy?.map fun id => (review.action, id)).foldl
        (fun sorted entry => Text.insertEntry entry.1 entry.2 sorted) state.value.denied := by
  induction reviews generalizing state with
  | nil => rfl
  | cons review rest ih =>
    rw [List.foldl_cons, ih, List.filterMap_cons, afterReview_denied]
    cases review.deniedBy? with
    | none => rfl
    | some id => rfl

end Run

/-! ### The evaluation of a batch is such a run -/

section Evaluation

variable (rules : RuleSet) (candidates : List String)

/-- The reviews of a batch, one after the other. -/
def afterReviews : Logged Verdict :=
  (candidates.map (review rules)).foldl afterReview (beforeReviews candidates)

theorem explains_afterReviews : Explains candidates (afterReviews rules candidates) :=
  explains_foldl (explains_beforeReviews candidates) _

theorem afterReviews_events :
    (afterReviews rules candidates).events =
      (candidates.map (review rules)).flatMap Review.events := by
  unfold afterReviews
  rw [foldl_afterReview_events]
  rfl

/-- **The verdict on a batch comes about step by step.** -/
theorem afterReviews_value :
    (afterReviews rules candidates).value = verdictBy rules candidates := by
  have explained := explains_afterReviews rules candidates
  have denied : (afterReviews rules candidates).value.denied =
      (verdictBy rules candidates).denied := by
    unfold afterReviews
    rw [foldl_afterReview_denied]
    rfl
  refine Verdict.eq_of_standing (fun action => ?_) fun action => ?_
  · exact congrArg (List.lookup action) denied
  rw [explained.unpermitted, mem_unpermitted_iff, afterReviews_events]
  refine and_congr_right fun asked => not_congr ?_
  -- an event of a grant belongs to a review of the same action, whichever occurrence it is
  simp only [List.mem_flatMap, List.mem_map, exists_exists_and_eq_and]
  constructor
  · rintro ⟨event, ⟨other, -, inside⟩, told⟩
    obtain ⟨same, granted⟩ := (exists_isGrantOf_review_events_iff _).mp ⟨event, inside, told⟩
    rw [show action = other from same]
    exact granted
  · intro granted
    obtain ⟨event, inside, told⟩ :=
      (exists_isGrantOf_review_events_iff (review rules action)).mpr ⟨rfl, granted⟩
    exact ⟨event, ⟨action, asked, inside⟩, told⟩

/-- The summary told at the end of a run. -/
def withSummary (domain : Domain) (candidates : List String) (state : Logged Verdict) :
    Logged Verdict :=
  { state with events := state.events ++ [summaryEvent domain candidates state.value] }

/-- **Where a batch has a verdict, it was judged step by step, and then the summary was told.** -/
theorem withSummary_of_evaluate {rules : RuleSet} {candidates : List String} {domain : Domain}
    {logged : Logged Verdict} (judged : evaluate domain rules candidates = .ok logged) :
    withSummary domain candidates (afterReviews rules candidates) = logged := by
  obtain ⟨-, rfl⟩ := (evaluate_eq_ok_iff logged).mp judged
  unfold withSummary
  rw [afterReviews_value, afterReviews_events]
  rfl

theorem explains_withSummary {asked : List String} {state : Logged Verdict}
    (explained : Explains asked state) (domain : Domain) (candidates : List String) :
    Explains asked (withSummary domain candidates state) where
  denied action := by
    have silent : lastDenial? [summaryEvent domain candidates state.value] action = none := by
      unfold lastDenial?
      rw [List.reverse_singleton, List.findSome?_singleton, summaryEvent_denial?]
    show state.value.deniedBy? action = lastDenial? (state.events ++ [_]) action
    rw [lastDenial?_append, silent, Option.none_or, explained.denied]
  unpermitted action := by
    show _ ↔ action ∈ asked ∧ ¬ ∃ event ∈ state.events ++ [_], event.IsGrantOf action
    simp only [List.mem_append, List.mem_singleton, or_and_right, exists_or, exists_eq_left,
      not_isGrantOf_summaryEvent, or_false]
    exact explained.unpermitted action

end Evaluation

/-! ### The events of one action -/

/-- The pattern is the first of a coverage that names the action. -/
def Coverage.FirstNames (coverage : Coverage) (action pattern : String) : Prop :=
  ∃ before after, coverage.actions = before ++ pattern :: after ∧ Pattern.covers pattern action ∧
    ∀ other ∈ before, ¬ Pattern.covers other action

/-- The event tells that the denial covers the action, and by which of its patterns. -/
def TellsStrike (action : String) (denial : Denial) (event : LogEvent) : Prop :=
  ∃ pattern, denial.coverage.FirstNames action pattern ∧
    event = {
      level := .debug
      message := "Deny rule match"
      fields :=
        [("action", .plain action), ("pattern", .plain pattern),
          ("deny_assignment", .plain denial.id)] }

/-- The event tells that the first grant that covers the action does so, and by which of its
patterns. -/
def TellsGrant (action : String) (grants : List Coverage) (event : LogEvent) : Prop :=
  ∃ before grant after pattern, grants = before ++ grant :: after ∧ grant.Covers action ∧
    (∀ other ∈ before, ¬ other.Covers action) ∧ grant.FirstNames action pattern ∧
    event = {
      level := .debug
      message := "Grant match"
      fields := [("action", .plain action), ("pattern", .plain pattern)] }

/-- The event tells how many actions are required, how many of them are denied, and how many are
without a grant. -/
def TellsSummary (domain : Domain) (candidates : List String) (verdict : Verdict)
    (event : LogEvent) : Prop :=
  event = {
    level := .debug
    message := "Evaluated permissions"
    fields :=
      [("domain", .name (match domain with | .control => "Action" | .data => "DataAction")),
        ("candidates", .count candidates.length), ("denied", .count verdict.denied.length),
        ("unpermitted", .count verdict.unpermitted.length)] }

/-- The events are those of one action: the denials that cover it, in the order of the rules, and
then one grant, unless the action is without one. -/
def IsAccountOf (rules : RuleSet) (verdict : Verdict) (action : String) (events : List LogEvent) :
    Prop :=
  ∃ strikes, List.Forall₂ (TellsStrike action)
      (rules.denials.filter fun denial => denial.coverage.Covers action) strikes ∧
    (action ∈ verdict.unpermitted ∧ events = strikes ∨
      action ∉ verdict.unpermitted ∧
        ∃ event, TellsGrant action rules.grants event ∧ events = strikes ++ [event])

section Account

variable {rules : RuleSet} {action : String}

theorem Coverage.via?_eq_some_iff {coverage : Coverage} {pattern : String} :
    coverage.via? action = some pattern ↔
      coverage.Covers action ∧ coverage.FirstNames action pattern := by
  have covered : coverage.via? action = some pattern → coverage.Covers action := fun found =>
    (coverage.via?_isSome_iff action).mp (Option.isSome_of_mem found)
  rw [← and_iff_right_of_imp covered]
  refine and_congr_right fun covers => ?_
  have spared : ¬ Pattern.coversAny coverage.exceptions action := by
    unfold Pattern.coversAny
    rw [List.any_eq_true]
    rintro ⟨exception, inside, names⟩
    exact covers.2 exception inside names
  unfold Coverage.via? Pattern.firstCovering?
  rw [if_neg spared, List.find?_eq_some_iff_append]
  unfold Coverage.FirstNames
  simp only [Bool.not_eq_true', Bool.not_eq_true]
  constructor
  · rintro ⟨names, before, after, split, missed⟩
    exact ⟨before, after, split, names, missed⟩
  · rintro ⟨before, after, split, names, missed⟩
    exact ⟨names, before, after, split, missed⟩

theorem forall₂_strikes (action : String) (denials : List Denial) :
    List.Forall₂ (TellsStrike action)
      (denials.filter fun denial => denial.coverage.Covers action)
      ((denials.filterMap fun denial =>
        (denial.coverage.via? action).map fun pattern => (denial, pattern)).map
          fun (denial, pattern) => denialEvent action denial pattern) := by
  induction denials with
  | nil => exact .nil
  | cons denial rest ih =>
    rw [List.filter_cons, List.filterMap_cons]
    cases found : denial.coverage.via? action with
    | none =>
      have apart := (denial.coverage.via?_eq_none_iff action).mp found
      simpa [apart] using ih
    | some pattern =>
      obtain ⟨covers, first⟩ := Coverage.via?_eq_some_iff.mp found
      rw [if_pos (decide_eq_true covers)]
      exact .cons ⟨pattern, first, rfl⟩ ih

theorem isAccountOf_review {verdict : Verdict}
    (agrees : action ∈ verdict.unpermitted ↔ ¬ (review rules action).isGranted) :
    IsAccountOf rules verdict action (review rules action).events := by
  refine ⟨_, forall₂_strikes action rules.denials, ?_⟩
  unfold Review.isGranted at agrees
  unfold Review.events
  cases found : (review rules action).grantedVia? with
  | none =>
    refine .inl ⟨agrees.mpr (by rw [found]; exact Bool.false_ne_true), ?_⟩
    exact List.append_nil _
  | some pattern =>
    obtain ⟨before, grant, after, split, covers, missed⟩ := List.findSome?_eq_some_iff.mp found
    obtain ⟨covers, first⟩ := Coverage.via?_eq_some_iff.mp covers
    refine .inr ⟨fun absent => agrees.mp absent (by rw [found]; rfl), _,
      ⟨before, grant, after, pattern, split, covers, fun other inside => ?_, first, rfl⟩, rfl⟩
    exact (other.via?_eq_none_iff action).mp (missed other inside)

end Account

/-! ### All events -/

theorem lastDenial?_eq_some_iff {events : List LogEvent} {action id : String} :
    lastDenial? events action = some id ↔
      ∃ before event after, events = before ++ event :: after ∧ event.denial? action = some id ∧
        ∀ other ∈ after, other.denial? action = none :=
  findSome?_reverse_eq_some_iff _ _ _

theorem lastDenial?_isSome_iff {events : List LogEvent} {action : String} :
    (lastDenial? events action).isSome ↔ ∃ event ∈ events, (event.denial? action).isSome := by
  unfold lastDenial?
  simp only [List.findSome?_isSome_iff, List.mem_reverse]

/-- The events that a check has told when it comes to a domain. -/
def eventsBefore (requirement : Requirement) (snapshot : Snapshot) : Domain → List LogEvent
  | .control => []
  | .data =>
    match checkDomain .control requirement snapshot with
    | .ok control => control.events
    | .error _ => []

/-- A check tells no event of a domain whose input is malformed. -/
theorem check_events_of_refused {domain : Domain} {rules : RuleSet} {requirement : Requirement}
    {snapshot : Snapshot} {refused : Logged TokenError} (made : snapshot.rules? domain = .ok rules)
    (judged : evaluate domain rules (requirement.inDomain domain) = .error refused) :
    (check requirement snapshot).events = eventsBefore requirement snapshot domain := by
  obtain ⟨-, silent⟩ := (evaluate_eq_error_iff refused).mp judged
  have failed : checkDomain domain requirement snapshot =
      .error { value := .malformed refused, events := [] } := by
    unfold checkDomain
    rw [made]
    simp only [judged, silent]
  unfold check eventsBefore
  cases domain with
  | control => rw [failed]
  | data =>
    cases stopped : checkDomain .control requirement snapshot with
    | error earlier => exact ((checkDomain_eq_error_iff earlier).mp stopped).2
    | ok control =>
      rw [failed]
      exact List.append_nil _

/-- **The events of an evaluation explain its verdict.** For each action, as often as it is
required, they tell of the denials that cover it, in the order of the rules, and then of the first
grant that does, unless the verdict has it without a grant; at the end the sizes of the verdict are
told. So an action is denied by the last denial that is told of it, and it is without a grant when
none is told.
Malformed input has no events: it is refused without any, and a check that comes to it has told what
came before. -/
theorem events_explain_verdict (domain : Domain) (rules : RuleSet) (candidates : List String) :
    (∀ logged, evaluate domain rules candidates = .ok logged →
      (∃ accounts summary, List.Forall₂ (IsAccountOf rules logged.value) candidates accounts ∧
        TellsSummary domain candidates logged.value summary ∧
        logged.events = accounts.flatten ++ [summary]) ∧
      ∀ action,
        (action ∈ logged.value.denied.map Prod.fst ↔
          ∃ event ∈ logged.events, (event.denial? action).isSome) ∧
        (∀ id, (action, id) ∈ logged.value.denied ↔
          ∃ before event after, logged.events = before ++ event :: after ∧
            event.denial? action = some id ∧ ∀ other ∈ after, other.denial? action = none) ∧
        (action ∈ logged.value.unpermitted ↔
          action ∈ candidates ∧ ¬ ∃ event ∈ logged.events, event.IsGrantOf action)) ∧
    ∀ refused, evaluate domain rules candidates = .error refused →
      refused.events = [] ∧
      ∀ requirement snapshot, requirement.inDomain domain = candidates →
        snapshot.rules? domain = .ok rules →
        (check requirement snapshot).events = eventsBefore requirement snapshot domain := by
  constructor
  · intro logged judged
    obtain rfl := withSummary_of_evaluate judged
    have explained :=
      explains_withSummary (explains_afterReviews rules candidates) domain candidates
    refine ⟨⟨candidates.map fun action => (review rules action).events, _, ?_, rfl, ?_⟩,
      fun action => ⟨?_, fun id => ?_, explained.unpermitted action⟩⟩
    · rw [List.forall₂_map_right_iff, List.forall₂_same]
      intro action asked
      apply isAccountOf_review
      show action ∈ (afterReviews rules candidates).value.unpermitted ↔ _
      rw [afterReviews_value, mem_unpermitted_iff, and_iff_right asked]
    · show (afterReviews rules candidates).events ++ _ = _
      rw [afterReviews_events, List.flatMap_map, List.flatMap_def]
      cases domain <;> rfl
    · rw [← lastDenial?_isSome_iff, ← explained.denied, Option.isSome_iff_exists]
      simp only [List.mem_map, Prod.exists, exists_and_right, exists_eq_right,
        Verdict.mem_denied_iff_deniedBy?]
    · rw [← lastDenial?_eq_some_iff, ← explained.denied, Verdict.mem_denied_iff_deniedBy?]
  · intro refused judged
    obtain ⟨-, silent⟩ := (evaluate_eq_error_iff refused).mp judged
    refine ⟨silent, ?_⟩
    rintro requirement snapshot rfl made
    exact check_events_of_refused made judged

/-! ### The events of the vault -/

/-- A role whose one pattern for data has two wildcards. -/
def doubledSnapshot : Snapshot where
  roleAssignments := [
    { permissions := some [
        { actions := some ["Vault/*"]
          notActions := some []
          dataActions := some ["*/secrets/*"]
          notDataActions := some [] }] }]

/-- What is told of the vault: of the purge two denials and a grant, of the deletion a denial alone,
and of the writing nothing. -/
def vaultEvents : List LogEvent := [
  { level := .debug, message := "Grant match"
    fields := [("action", .plain "Vault/read"), ("pattern", .plain "Vault/*")] },
  { level := .debug, message := "Deny rule match"
    fields := [("action", .plain "Vault/purge"), ("pattern", .plain "*"),
      ("deny_assignment", .plain "early")] },
  { level := .debug, message := "Deny rule match"
    fields := [("action", .plain "Vault/purge"), ("pattern", .plain "*/purge"),
      ("deny_assignment", .plain "late")] },
  { level := .debug, message := "Grant match"
    fields := [("action", .plain "Vault/purge"), ("pattern", .plain "Vault/*")] },
  { level := .debug, message := "Deny rule match"
    fields := [("action", .plain "Vault/delete"), ("pattern", .plain "*"),
      ("deny_assignment", .plain "early")] },
  { level := .debug, message := "Grant match"
    fields := [("action", .plain "Vault/read"), ("pattern", .plain "Vault/*")] },
  { level := .debug, message := "Evaluated permissions"
    fields := [("domain", .name "Action"), ("candidates", .count 5), ("denied", .count 2),
      ("unpermitted", .count 2)] }]

/-- Two denials cover one of the actions, and the last is told last. Of the data domain nothing is
told where a pattern is malformed there, although the control domain has been told of. -/
theorem vault_events_tell_verdict :
    (∃ logged, evaluate .control (vaultSnapshot.rulesIn .control) vaultRequirement.actions =
        .ok logged ∧
      logged.events = vaultEvents ∧
      (∃ summary, TellsSummary .control vaultRequirement.actions logged.value summary ∧
        vaultEvents.getLast? = some summary) ∧
      (∃ before event after, logged.events = before ++ event :: after ∧
        event.denial? "Vault/purge" = some "late" ∧
        ∀ other ∈ after, other.denial? "Vault/purge" = none) ∧
      (∃ event ∈ logged.events, event.denial? "Vault/purge" = some "early") ∧
      ¬ ∃ event ∈ logged.events, event.IsGrantOf "Vault/write") ∧
    evaluate .data (doubledSnapshot.rulesIn .data) [] =
      .error { value := .tooManyWildcards .grantAction "*/secrets/*", events := [] } ∧
    (check { actions := ["Vault/read"] } doubledSnapshot).events = [
      { level := .debug, message := "Grant match"
        fields := [("action", .plain "Vault/read"), ("pattern", .plain "Vault/*")] },
      { level := .debug, message := "Evaluated permissions"
        fields := [("domain", .name "Action"), ("candidates", .count 1), ("denied", .count 0),
          ("unpermitted", .count 0)] }] := by
  have judged := evaluate_of_accepted .control
    (show (vaultSnapshot.rulesIn .control).defects vaultRequirement.actions = [] from rfl)
  obtain ⟨explained, -⟩ := events_explain_verdict .control (vaultSnapshot.rulesIn .control)
    vaultRequirement.actions
  obtain ⟨⟨accounts, summary, -, told, split⟩, each⟩ := explained _ judged
  have events : verdictEvents .control (vaultSnapshot.rulesIn .control) vaultRequirement.actions =
      vaultEvents := by decide +kernel
  have refused : evaluate .data (doubledSnapshot.rulesIn .data) [] =
      .error { value := .tooManyWildcards .grantAction "*/secrets/*", events := [] } := rfl
  obtain ⟨-, silent⟩ := events_explain_verdict .data (doubledSnapshot.rulesIn .data) []
  refine ⟨⟨_, judged, events, ⟨summary, told, ?_⟩, ?_, ?_, ?_⟩, refused, ?_⟩
  · rw [← events]
    exact (congrArg List.getLast? split).trans List.getLast?_concat
  · exact ((each "Vault/purge").2.1 "late").mp (by decide +kernel)
  · refine ⟨denialEvent "Vault/purge" { id := "early", coverage := {} } "*", ?_, rfl⟩
    decide +kernel
  · exact ((each "Vault/write").2.2.mp (by decide +kernel)).2
  · exact (silent _ refused).2 { actions := ["Vault/read"] } doubledSnapshot rfl rfl

end AccessAudit
