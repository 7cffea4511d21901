/-
**What the messages of a check tell.**

The messages of a check are all that other programs see of its verdicts. They begin with the name of
the domain, the action follows after a space, and the reason after the next one. An action without a
space is therefore found again between the first two spaces, the reason behind them tells a denied
action from one without a grant, and what stands between the words of a denial and the last dot is
its identifier, whatever that may be. So a message is about one thing only, and the verdicts can be
put together again from the messages.

The order of the messages is that of the verdicts: the control domain before the data domain, in
each of them the denied actions before those without a grant, and among these the smaller bytes
first. Hence no message is there twice.

* `Complaint`: what one message is about, with its words;
* `Complaint.read?_message`: a complaint is read back from its words;
* `PermissionCheck.ofFailures_failures`: the verdicts are put together again from the messages;
* `Complaint.Precedes`, `complaints_inOrder`: the order in which complaints are made;
* `failures_tell_verdicts`: what the messages tell, and how they are ordered.
-/
import AccessAudit.Proofs.ByteOrder
import AccessAudit.Proofs.SnapshotFaults

namespace AccessAudit

/-! ### Complaints -/

/-- What one message of a check is about. -/
structure Complaint where
  domain : Domain
  action : String
  /-- The identifier of the denial; without one, no grant covers the action. -/
  deniedBy? : Option String
  deriving DecidableEq, Repr

/-- The words of a complaint. -/
def Complaint.message (complaint : Complaint) : String :=
  match complaint.deniedBy? with
  | some id => deniedMessage complaint.domain complaint.action id
  | none => unpermittedMessage complaint.domain complaint.action

/-- The complaints of a verdict: the denied actions first, then those without a grant. -/
def Verdict.complaints (domain : Domain) (verdict : Verdict) : List Complaint :=
  verdict.denied.map (fun (action, id) => { domain, action, deniedBy? := some id }) ++
    verdict.unpermitted.map fun action => { domain, action, deniedBy? := none }

/-- The complaints of the control domain, then those of the data domain. -/
def PermissionCheck.complaints (outcome : PermissionCheck) : List Complaint :=
  outcome.control.complaints .control ++ outcome.data.complaints .data

theorem Verdict.failures_eq_map_message (domain : Domain) (verdict : Verdict) :
    verdict.failures domain = (verdict.complaints domain).map Complaint.message := by
  unfold Verdict.failures Verdict.complaints
  rw [List.map_append, List.map_map, List.map_map]
  rfl

/-- **There is one message for each complaint, in the same order.** -/
theorem PermissionCheck.failures_eq_map_message (outcome : PermissionCheck) :
    outcome.failures = outcome.complaints.map Complaint.message := by
  unfold PermissionCheck.failures PermissionCheck.complaints
  rw [List.map_append, ← Verdict.failures_eq_map_message, ← Verdict.failures_eq_map_message]

theorem Verdict.mem_complaints_iff {domain : Domain} {verdict : Verdict} {complaint : Complaint} :
    complaint ∈ verdict.complaints domain ↔ complaint.domain = domain ∧
      match complaint.deniedBy? with
      | some id => (complaint.action, id) ∈ verdict.denied
      | none => complaint.action ∈ verdict.unpermitted := by
  obtain ⟨domain', action, reason⟩ := complaint
  unfold Verdict.complaints
  rw [List.mem_append, List.mem_map, List.mem_map]
  cases reason with
  | some id => simp [and_comm, eq_comm]
  | none => simp [and_comm, eq_comm]

/-- The actions that a verdict holds. -/
def Verdict.actions (verdict : Verdict) : List String :=
  verdict.denied.map Prod.fst ++ verdict.unpermitted

/-- No action of the verdicts has a space in it. -/
def PermissionCheck.IsSpaceless (outcome : PermissionCheck) : Prop :=
  ∀ domain, ∀ action ∈ (outcome.verdict domain).actions, ' ' ∉ action.toList

/-! ### A message read back -/

/-- The words between a denied action and the identifier of the denial. -/
def deniedWords : List Char := "denied by deny assignment ".toList

/-- The words behind an action that no grant covers. -/
def unpermittedWords : List Char := "unpermitted because no role assignment permits it.".toList

/-- The words of a complaint behind its action. -/
def Complaint.reason (complaint : Complaint) : List Char :=
  match complaint.deniedBy? with
  | some id => deniedWords ++ (id.toList ++ ['.'])
  | none => unpermittedWords

/-- The denial that the words behind an action tell of. -/
def readReason? (cs : List Char) : Option (Option String) :=
  if cs = unpermittedWords then some none
  else if deniedWords <+: cs then
    some (some (String.ofList (cs.drop deniedWords.length).dropLast))
  else none

/-- The domain of a name. -/
def Domain.ofLabel? (label : List Char) : Option Domain :=
  if label = Domain.control.label.toList then some .control
  else if label = Domain.data.label.toList then some .data
  else none

/-- The characters in front of the first space, and those behind it. -/
def firstWord (cs : List Char) : List Char × List Char :=
  (cs.takeWhile (· != ' '), (cs.dropWhile (· != ' ')).tail)

/-- The complaint that a message is about: a domain, an action and a reason. -/
def Complaint.read? (message : String) : Option Complaint := do
  let domain ← Domain.ofLabel? (firstWord message.toList).1
  let (action, reason) := firstWord (firstWord message.toList).2
  let deniedBy? ← readReason? reason
  return { domain, action := String.ofList action, deniedBy? }

theorem firstWord_append {word : List Char} (spaceless : ' ' ∉ word) (after : List Char) :
    firstWord (word ++ ' ' :: after) = (word, after) := by
  have inside : ∀ c ∈ word, (c != ' ') = true := by
    intro c member
    rw [bne_iff_ne]
    rintro rfl
    exact spaceless member
  unfold firstWord
  rw [List.takeWhile_append_of_pos inside, List.dropWhile_append_of_pos inside,
    List.takeWhile_cons_of_neg (by decide), List.dropWhile_cons_of_neg (by decide),
    List.append_nil, List.tail_cons]

namespace Complaint

theorem toList_message (complaint : Complaint) :
    complaint.message.toList =
      complaint.domain.label.toList ++
        ' ' :: (complaint.action.toList ++ ' ' :: complaint.reason) := by
  have space : " ".toList = [' '] := rfl
  have dot : ".".toList = ['.'] := rfl
  have denied : " denied by deny assignment ".toList = ' ' :: deniedWords := rfl
  have unpermitted : " unpermitted because no role assignment permits it.".toList =
      ' ' :: unpermittedWords := rfl
  obtain ⟨domain, action, told⟩ := complaint
  cases told with
  | some id =>
    simp only [message, deniedMessage, reason, String.toList_append, space, dot, denied,
      List.append_assoc, List.cons_append, List.nil_append]
  | none =>
    simp only [message, unpermittedMessage, reason, String.toList_append, space, unpermitted,
      List.append_assoc, List.cons_append, List.nil_append]

theorem readReason?_denied (id : String) :
    readReason? (deniedWords ++ (id.toList ++ ['.'])) = some (some id) := by
  -- whatever the identifier is, the words in front of it are not those of the other reason
  have apart : ¬ deniedWords <+: unpermittedWords := by decide
  have other : deniedWords ++ (id.toList ++ ['.']) ≠ unpermittedWords :=
    fun same => apart (same ▸ List.prefix_append _ _)
  unfold readReason?
  rw [if_neg other, if_pos (List.prefix_append _ _), List.drop_left, List.dropLast_concat,
    String.ofList_toList]

theorem readReason?_reason (complaint : Complaint) :
    readReason? complaint.reason = some complaint.deniedBy? := by
  obtain ⟨domain, action, told⟩ := complaint
  cases told with
  | some id => exact readReason?_denied id
  | none => exact if_pos rfl

theorem ofLabel?_label (domain : Domain) :
    Domain.ofLabel? domain.label.toList = some domain := by
  cases domain <;> decide

/-- **A complaint about an action without a space is read back from its words.** -/
theorem read?_message {complaint : Complaint} (spaceless : ' ' ∉ complaint.action.toList) :
    read? complaint.message = some complaint := by
  have label : ' ' ∉ complaint.domain.label.toList := by
    cases complaint.domain <;> decide
  unfold read?
  rw [toList_message, firstWord_append label, firstWord_append spaceless, ofLabel?_label]
  simp only [Option.bind_eq_bind, Option.bind_some, readReason?_reason, String.ofList_toList]
  rfl

end Complaint

/-! ### The verdicts put together again -/

/-- The verdict of a domain that complaints tell of. -/
def Verdict.ofComplaints (domain : Domain) (complaints : List Complaint) : Verdict :=
  let own := complaints.filter (·.domain = domain)
  .ofEntries
    (own.filterMap fun complaint => complaint.deniedBy?.map fun id => (complaint.action, id))
    ((own.filter (·.deniedBy? = none)).map Complaint.action)

/-- The verdicts that messages tell of. -/
def PermissionCheck.ofFailures (failures : List String) : PermissionCheck :=
  let complaints := failures.filterMap Complaint.read?
  { control := .ofComplaints .control complaints, data := .ofComplaints .data complaints }

/-- The complaints of one domain are those of its verdict. -/
theorem filter_complaints (outcome : PermissionCheck) (domain : Domain) :
    outcome.complaints.filter (·.domain = domain) =
      (outcome.verdict domain).complaints domain := by
  have own : ∀ (verdict : Verdict) (domain : Domain),
      (verdict.complaints domain).filter (·.domain = domain) = verdict.complaints domain := by
    intro verdict domain
    rw [List.filter_eq_self]
    intro complaint member
    exact decide_eq_true (Verdict.mem_complaints_iff.mp member).1
  have other : ∀ (verdict : Verdict) {domain domain' : Domain}, domain' ≠ domain →
      (verdict.complaints domain').filter (·.domain = domain) = [] := by
    intro verdict domain domain' apart
    rw [List.filter_eq_nil_iff]
    intro complaint member same
    exact apart ((Verdict.mem_complaints_iff.mp member).1.symm.trans (of_decide_eq_true same))
  unfold PermissionCheck.complaints
  rw [List.filter_append]
  cases domain with
  | control => rw [own, other _ (by decide), List.append_nil, PermissionCheck.verdict]
  | data => rw [own, other _ (by decide), List.nil_append, PermissionCheck.verdict]

theorem Verdict.ofComplaints_complaints (outcome : PermissionCheck) (domain : Domain) :
    Verdict.ofComplaints domain outcome.complaints = outcome.verdict domain := by
  have denied : ((outcome.verdict domain).complaints domain).filterMap (fun complaint =>
      complaint.deniedBy?.map fun id => (complaint.action, id)) =
        (outcome.verdict domain).denied := by
    simp [Verdict.complaints, List.filterMap_map]
  have unpermitted : (((outcome.verdict domain).complaints domain).filter
      (·.deniedBy? = none)).map Complaint.action = (outcome.verdict domain).unpermitted := by
    simp [Verdict.complaints, List.filter_map, Function.comp_def]
  unfold Verdict.ofComplaints
  simp only [filter_complaints, denied, unpermitted]
  exact Verdict.ofEntries_of_verdict _

/-- A complaint of a check is an entry of the verdict of its domain. -/
theorem mem_complaints_iff {outcome : PermissionCheck} {complaint : Complaint} :
    complaint ∈ outcome.complaints ↔
      match complaint.deniedBy? with
      | some id => (complaint.action, id) ∈ (outcome.verdict complaint.domain).denied
      | none => complaint.action ∈ (outcome.verdict complaint.domain).unpermitted := by
  have own : complaint ∈ (outcome.verdict complaint.domain).complaints complaint.domain ↔ _ :=
    Verdict.mem_complaints_iff
  rw [← filter_complaints, List.mem_filter] at own
  simpa using own

theorem spaceless_of_mem_complaints {outcome : PermissionCheck} {complaint : Complaint}
    (spaceless : outcome.IsSpaceless) (member : complaint ∈ outcome.complaints) :
    ' ' ∉ complaint.action.toList := by
  refine spaceless complaint.domain complaint.action (List.mem_append.mpr ?_)
  have entry := mem_complaints_iff.mp member
  cases told : complaint.deniedBy? with
  | some id =>
    rw [told] at entry
    exact .inl (List.mem_map_of_mem entry)
  | none =>
    rw [told] at entry
    exact .inr entry

theorem filterMap_read?_failures {outcome : PermissionCheck} (spaceless : outcome.IsSpaceless) :
    outcome.failures.filterMap Complaint.read? = outcome.complaints := by
  rw [PermissionCheck.failures_eq_map_message, List.filterMap_map]
  have back : ∀ complaint ∈ outcome.complaints,
      (Complaint.read? ∘ Complaint.message) complaint = some complaint :=
    fun complaint member => Complaint.read?_message (spaceless_of_mem_complaints spaceless member)
  rw [List.filterMap_congr back, List.filterMap_some]

/-- **The verdicts are put together again from the messages.** -/
theorem PermissionCheck.ofFailures_failures {outcome : PermissionCheck}
    (spaceless : outcome.IsSpaceless) : ofFailures outcome.failures = outcome := by
  unfold ofFailures
  rw [filterMap_read?_failures spaceless]
  simp only [Verdict.ofComplaints_complaints]
  rfl

/-! ### The order of the messages -/

/-- The order in which complaints are made. -/
inductive Complaint.Precedes : Complaint → Complaint → Prop
  | domain {complaint complaint' : Complaint} (control : complaint.domain = .control)
      (data : complaint'.domain = .data) : Precedes complaint complaint'
  | kind {complaint complaint' : Complaint} (domain : complaint.domain = complaint'.domain)
      (denied : complaint.deniedBy?.isSome) (unpermitted : complaint'.deniedBy? = none) :
      Precedes complaint complaint'
  | action {complaint complaint' : Complaint} (domain : complaint.domain = complaint'.domain)
      (kind : complaint.deniedBy?.isSome = complaint'.deniedBy?.isSome)
      (smaller : Text.bytes complaint.action < Text.bytes complaint'.action) :
      Precedes complaint complaint'

instance : Std.Irrefl Complaint.Precedes where
  irrefl complaint before := by
    cases before with
    | domain control data => exact absurd (control.symm.trans data) (by decide)
    | kind _ denied unpermitted => simp [unpermitted] at denied
    | action _ _ smaller => exact List.lt_irrefl _ smaller

theorem Verdict.complaints_inOrder (verdict : Verdict) (domain : Domain) :
    (verdict.complaints domain).Pairwise Complaint.Precedes := by
  refine List.pairwise_append.mpr ⟨?_, ?_, ?_⟩
  · refine List.pairwise_map.mpr ((List.pairwise_map.mp verdict.denied_ascending).imp ?_)
    exact fun before => .action rfl rfl ((Text.lt_iff_bytes_lt _ _).mp before)
  · refine List.pairwise_map.mpr (verdict.unpermitted_ascending.imp ?_)
    exact fun before => .action rfl rfl ((Text.lt_iff_bytes_lt _ _).mp before)
  · intro complaint denied complaint' unpermitted
    obtain ⟨_, _, rfl⟩ := List.mem_map.mp denied
    obtain ⟨_, _, rfl⟩ := List.mem_map.mp unpermitted
    exact .kind rfl rfl rfl

/-- **Complaints are made in order.** -/
theorem complaints_inOrder (outcome : PermissionCheck) :
    outcome.complaints.Pairwise Complaint.Precedes := by
  refine List.pairwise_append.mpr ⟨?_, ?_, ?_⟩
  · exact outcome.control.complaints_inOrder .control
  · exact outcome.data.complaints_inOrder .data
  · intro complaint control complaint' data
    exact .domain (Verdict.mem_complaints_iff.mp control).1 (Verdict.mem_complaints_iff.mp data).1

theorem failures_nodup {outcome : PermissionCheck} (spaceless : outcome.IsSpaceless) :
    outcome.failures.Nodup := by
  rw [PermissionCheck.failures_eq_map_message]
  -- the complaints are distinct by their order, and distinct complaints have distinct words
  refine (complaints_inOrder outcome).nodup.map_on ?_
  intro complaint member complaint' member' same
  have back := Complaint.read?_message (spaceless_of_mem_complaints spaceless member)
  have back' := Complaint.read?_message (spaceless_of_mem_complaints spaceless member')
  rw [same, back'] at back
  exact (Option.some.inj back).symm

theorem failures_eq_nil_iff (outcome : PermissionCheck) :
    outcome.failures = [] ↔ outcome.passed := by
  have clean : ∀ domain (verdict : Verdict), verdict.failures domain = [] ↔ verdict.isClean := by
    intro domain verdict
    unfold Verdict.failures Verdict.isClean
    rw [List.append_eq_nil_iff, List.map_eq_nil_iff, List.map_eq_nil_iff, Bool.and_eq_true,
      List.isEmpty_iff, List.isEmpty_iff]
  unfold PermissionCheck.failures PermissionCheck.passed
  rw [List.append_eq_nil_iff, clean, clean, Bool.and_eq_true]

/-- **The messages of a check tell its verdicts.** -/
theorem failures_tell_verdicts :
    (∀ outcome outcome' : PermissionCheck, outcome.IsSpaceless → outcome'.IsSpaceless →
      outcome.failures = outcome'.failures → outcome = outcome') ∧
    ∀ outcome : PermissionCheck,
      outcome.failures = outcome.complaints.map Complaint.message ∧
      (∀ domain action,
        (∀ id, { domain, action, deniedBy? := some id } ∈ outcome.complaints ↔
          (action, id) ∈ (outcome.verdict domain).denied) ∧
        ({ domain, action, deniedBy? := none } ∈ outcome.complaints ↔
          action ∈ (outcome.verdict domain).unpermitted)) ∧
      outcome.complaints.Pairwise Complaint.Precedes ∧
      (outcome.IsSpaceless → outcome.failures.Nodup) ∧
      (outcome.failures = [] ↔ outcome.passed) ∧
      ∀ name scope checkedAt cause, ∃ account,
        (Report.errored name scope checkedAt cause).failures = [account] ∧
          account ∉ outcome.failures := by
  refine ⟨fun outcome outcome' spaceless spaceless' same => ?_, fun outcome => ?_⟩
  · have first := PermissionCheck.ofFailures_failures spaceless
    have second := PermissionCheck.ofFailures_failures spaceless'
    rw [← first, same, second]
  · refine ⟨outcome.failures_eq_map_message, fun domain action => ⟨fun id => ?_, ?_⟩,
      complaints_inOrder outcome, failures_nodup, failures_eq_nil_iff outcome,
      fun name scope checkedAt cause => ?_⟩
    · exact mem_complaints_iff
    · exact mem_complaints_iff
    · obtain ⟨account, told, marked⟩ := isBroken_errored name scope checkedAt cause
      have single : (Report.errored name scope checkedAt cause).failures = [account] := by
        rw [List.mem_singleton.mp told]
        rfl
      exact ⟨account, single, fun member =>
        not_isBroken_ofCheck name scope checkedAt outcome ⟨account, member, marked⟩⟩

/-- With a space in an action the words do not tell where it ends. -/
example : deniedMessage .control "read denied by deny assignment a" "b" =
    deniedMessage .control "read" "a denied by deny assignment b" := by decide

/-! ### The messages on the vault -/

/-- The vault with a denial whose identifier is made of the words of a message. -/
def echoOutcome : PermissionCheck where
  control := .ofEntries
    [("Vault/delete", "early."), ("Vault/purge", "late denied by deny assignment early")]
    ["Vault/delete", "Vault/write"]
  data := .ofEntries [] []

/-- The messages on the vault, none of them twice, and other ones where the identifiers of the
denials are made of the words of messages. -/
theorem vault_messages_tell_verdicts :
    (check vaultRequirement vaultSnapshot).value = .ok vaultOutcome ∧
    vaultOutcome.failures =
      ["Action Vault/delete denied by deny assignment early.",
        "Action Vault/purge denied by deny assignment late.",
        "Action Vault/delete unpermitted because no role assignment permits it.",
        "Action Vault/write unpermitted because no role assignment permits it."] ∧
    vaultOutcome.failures.Nodup ∧
    vaultOutcome.complaints.Pairwise Complaint.Precedes ∧
    vaultOutcome.failures ≠ echoOutcome.failures := by
  have carriedOut : (check vaultRequirement vaultSnapshot).value = .ok vaultOutcome := rfl
  have spaceless : vaultOutcome.IsSpaceless := by
    intro domain
    cases domain <;> decide
  have spaceless' : echoOutcome.IsSpaceless := by
    intro domain
    cases domain <;> decide
  obtain ⟨_, _, inOrder, nodup, _⟩ := failures_tell_verdicts.2 vaultOutcome
  refine ⟨carriedOut, by decide, nodup spaceless, inOrder, fun same => ?_⟩
  exact absurd (failures_tell_verdicts.1 _ _ spaceless spaceless' same) (by decide)

end AccessAudit
