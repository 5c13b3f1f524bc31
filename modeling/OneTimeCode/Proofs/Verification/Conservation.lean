import OneTimeCode.Proofs.Verification.Accounts
import OneTimeCode.Proofs.Verification.Promises

/-!
# Conservation of counts

A registry that was empty when a client was connected tells, after any run, how many calls ended in
which way: it holds one count for each call whose promise was fulfilled, but none for a code that
was sent, and nothing else.
-/
namespace OneTimeCode
open Handling

namespace Account

def isSend (account : Account) : Bool :=
  match account.call with
  | .send _ => true
  | .confirm _ => false

def response? (account : Account) : Option Response :=
  match account.course with
  | .settled (some (.response response)) => some response
  | _ => none

def isResolved (account : Account) : Bool :=
  match account.promise with
  | some (.fulfilled _) => true
  | _ => false

def isApproved (account : Account) : Bool :=
  account.promise = some (.fulfilled (.confirmed true))

/-- The promise is what the course of the call makes of it. -/
def IsFaithful (account : Account) : Prop :=
  account.promise = account.course.promise account.call.purpose

/-- How a call can end, and what is counted for it then. -/
inductive Ends (account : Account) : Prop where
  | unresolved (resolved : account.isResolved = false) (counts : account.counts = [])
  | unanswered (resolved : account.isResolved = true) (response : account.response? = none)
    (approved : account.isApproved = false)
    (counts : account.counts = [⟨transportFailures, account.call.purpose.operationTags⟩])
  | sent (found : Response) (resolved : account.isResolved = true) (send : account.isSend = true)
    (approved : account.isApproved = false) (response : account.response? = some found)
    (succeeds : found.Succeeds) (counts : account.counts = [])
  | failed (found : Response) (status code : Text) (resolved : account.isResolved = true)
    (send : account.isSend = true) (approved : account.isApproved = false)
    (response : account.response? = some found) (fails : ¬ found.Succeeds)
    (hstatus : ∀ shown,
      found.Shows "status" (Integer.text found.http) shown ↔ shown = status)
    (hcode : ∀ shown, found.Shows "code" "unknown" shown ↔ shown = code)
    (counts : account.counts = [⟨failedRequests, Response.failureTags status code⟩])
  | approved (found : Response) (agent context : Json) (resolved : account.isResolved = true)
    (send : account.isSend = false) (approved : account.isApproved = true)
    (response : account.response? = some found)
    (counts : account.counts = [⟨verifications, approvalTags agent context⟩])
  | unapproved (found : Response) (agent context : Json) (code status : Text)
    (resolved : account.isResolved = true) (send : account.isSend = false)
    (approved : account.isApproved = false) (response : account.response? = some found)
    (counts : account.counts =
      [⟨verifications, approvalTags agent context ++ refusalTags code status⟩])

theorem ends_of_response (call : Call) (response : Response) :
    Ends ⟨call, .settled (some (.response response)),
      some (call.purpose.resolution (some (.response response)))⟩ := by
  rcases call.purpose.handle_response response with ⟨ho, hr⟩ | ⟨ho, value, hv, hr⟩
  · have hp : call.purpose.resolution (some (.response response)) = .broken .infiniteNumber := by
      rw [Purpose.resolution, hr]
    rw [hp]
    exact .unresolved rfl (Purpose.counts_of_overflows _ ho)
  · have hp : call.purpose.resolution (some (.response response)) = .fulfilled value := by
      rw [Purpose.resolution, hr]
    rw [hp]
    cases call with
    | send call =>
      have hnot : isApproved ⟨.send call, .settled (some (.response response)),
          some (.fulfilled value)⟩ = false := by
        cases value with
        | sent id => rfl
        | confirmed approved => exact hv.elim
      by_cases hs : response.Succeeds
      · exact .sent response rfl rfl hnot rfl hs (Purpose.counts_code_of_succeeds _ hs)
      · obtain ⟨status, code, hstatus, hcode, hc⟩ :=
          Purpose.counts_code_of_fails call.destination hs ho
        exact .failed response status code rfl rfl hnot rfl hs hstatus hcode hc
    | confirm call =>
      by_cases ha : response.Approves
      · have htrue := (Purpose.handle_approval_eq_true_iff call.agent call.context response).2 ha
        cases hr.symm.trans htrue
        exact .approved response call.agent call.context rfl rfl (by simp [isApproved]) rfl
          (Purpose.counts_approval_of_approves _ _ ha)
      · have hnot : value ≠ .confirmed true := by
          rintro rfl
          exact ha ((Purpose.handle_approval_eq_true_iff call.agent call.context response).1 hr)
        obtain ⟨code, status, hc⟩ :=
          Purpose.counts_approval_of_not_approves call.agent call.context ha ho
        exact .unapproved response call.agent call.context code status rfl rfl
          (by simp [isApproved, hnot]) rfl hc

theorem ends_of_isFaithful {account : Account} (h : account.IsFaithful) : account.Ends := by
  obtain ⟨call, course, promise⟩ := account
  cases (show promise = course.promise call.purpose from h)
  have hfailed (deciding : Option Outcome)
      (hp : call.purpose.resolution deciding = .fulfilled call.purpose.failed)
      (hr : response? ⟨call, .settled deciding, none⟩ = none)
      (hc : call.purpose.settledCounts deciding =
        [⟨transportFailures, call.purpose.operationTags⟩]) :
      Ends ⟨call, .settled deciding, some (call.purpose.resolution deciding)⟩ := by
    rw [hp]
    refine .unanswered rfl hr ?_ hc
    cases call <;> simp [isApproved, Call.purpose, Purpose.failed]
  cases course with
  | refused => exact .unresolved rfl rfl
  | waiting => exact .unresolved rfl rfl
  | settled deciding =>
    cases deciding with
    | none => exact hfailed none rfl rfl rfl
    | some outcome =>
      cases outcome with
      | fault kind reason => exact hfailed (some (.fault kind reason)) rfl rfl rfl
      | response response => exact ends_of_response call response

end Account

theorem countP_flatMap_of_indicator {α β : Type} {l : List α} {f : α → List β} {p : β → Bool}
    {q : α → Bool} (h : ∀ a ∈ l, (f a).countP p = if q a then 1 else 0) :
    (l.flatMap f).countP p = l.countP q := by
  induction l with
  | nil => rfl
  | cons a rest ih =>
    rw [List.flatMap_cons, List.countP_append, List.countP_cons,
      ih fun b hb => h b (List.mem_cons_of_mem a hb), h a List.mem_cons_self, Nat.add_comm]

namespace Client

theorem isFaithful_of_mem_accounts {client : Client} {actions : List Action}
    (hno : ∀ index, .cancelPromise index ∉ actions) {account : Account}
    (h : account ∈ client.accounts actions) : account.IsFaithful := by
  induction actions generalizing client with
  | nil => cases h
  | cons action rest ih =>
    have hrest (index : Nat) : .cancelPromise index ∉ rest := fun hm =>
      hno index (List.mem_cons_of_mem _ hm)
    rcases List.mem_append.1 h with hnow | hlater
    · cases action with
      | runJob | cancelJob | cancelPromise | close => cases hnow
      | call call =>
        cases List.mem_singleton.1 hnow
        exact (client.promiseOf_eq call rest).resolve_right fun hc => hrest _ hc.2
    · exact ih hrest hlater

/-- The registry of a new client tells a run by what its settlements count. -/
theorem counters_acts {settings : Settings} {supported : List Text} {session : Session}
    {client : Client} (hc : connect settings supported session .working = .ok client)
    (actions : List Action) : (client.acts actions).2.metrics.counters = Counters.addAll .empty
      (((client.settlements actions).flatMap (·.counts)).map fun count => (count.key, 1)) := by
  have hmetrics := (metrics_of_connect hc).1
  rw [metrics_acts, (Metrics.tally_of_working (by rw [hmetrics]) _).2, hmetrics]

/-- Every sum over the counters of a run is the number of calls with fulfilled promises that give
such a count, if every way to end gives at most one. -/
theorem total_acts {settings : Settings} {supported : List Text} {session : Session}
    {client : Client} (hc : connect settings supported session .working = .ok client)
    {actions : List Action} (hno : ∀ index, .cancelPromise index ∉ actions) {p : CounterKey → Bool}
    {q : Account → Bool} (hpq : ∀ account : Account, account.Ends →
      account.counts.countP (fun count => p count.key) =
        if q account && account.isResolved then 1 else 0) :
    (client.acts actions).2.metrics.counters.total p =
      ((client.accounts actions).filter (·.isResolved)).countP q := by
  have hperm := counts_settlements_perm_of_fresh (metrics_of_connect hc).2 actions
  rw [counters_acts hc, Counters.total_addAll_ones, hperm.countP_eq, List.countP_filter,
    countP_flatMap_of_indicator]
  · exact Int.zero_add _
  · intro account hm
    exact hpq account (Account.ends_of_isFaithful (isFaithful_of_mem_accounts hno hm))

theorem count_acts {settings : Settings} {supported : List Text} {session : Session}
    {client : Client} (hc : connect settings supported session .working = .ok client)
    {actions : List Action} (hno : ∀ index, .cancelPromise index ∉ actions) {name : Text}
    {wanted : Named Json} {q : Account → Bool} (hpq : ∀ account : Account, account.Ends →
      account.counts.countP (fun count => count.key.name = name && count.key.carries wanted) =
        if q account && account.isResolved then 1 else 0) :
    (client.acts actions).2.metrics.counters.count name wanted =
      ((client.accounts actions).filter (·.isResolved)).countP q := by
  rw [Counters.count_eq_total]
  exact total_acts hc hno hpq

end Client

/-! ## What registries hold -/

inductive CounterKey.IsKnown : CounterKey → Prop where
  | transportFailure (operation : Text) (h : operation = "send" ∨ operation = "approve") :
    IsKnown (.ofTags transportFailures [("operation", operation)])
  | failedRequest (status code : Text) : IsKnown (.ofTags failedRequests
      [("service", "verify"), ("statusCode", status), ("errorCode", code)])
  | approval (context platform : Text) :
    IsKnown (.ofTags verifications [("context", context), ("platform", platform)])
  | refusal (context platform code status : Text) : IsKnown (.ofTags verifications
      [("context", context), ("platform", platform), ("errorCode", code), ("statusCode", status)])

theorem Account.operation_cases (account : Account) :
    account.isSend = true ∧ account.call.purpose.operation = "send" ∨
      account.isSend = false ∧ account.call.purpose.operation = "approve" := by
  obtain ⟨call, course, promise⟩ := account
  cases call with
  | send call => exact .inl ⟨rfl, rfl⟩
  | confirm call => exact .inr ⟨rfl, rfl⟩

theorem Account.isKnown_of_mem_counts {account : Account} (h : account.Ends) {count : Count}
    (hm : count ∈ account.counts) : account.isResolved = true ∧ count.key.IsKnown := by
  cases h with
  | unresolved hr hc => simp [hc] at hm
  | sent found hr _ _ _ _ hc => simp [hc] at hm
  | unanswered hr _ _ hc =>
    cases List.mem_singleton.1 (hc ▸ hm)
    exact ⟨hr, .transportFailure _ (account.operation_cases.imp And.right And.right)⟩
  | failed found status code hr _ _ _ _ _ _ hc =>
    cases List.mem_singleton.1 (hc ▸ hm)
    exact ⟨hr, .failedRequest ..⟩
  | approved found agent context hr _ _ _ hc =>
    cases List.mem_singleton.1 (hc ▸ hm)
    exact ⟨hr, .approval ..⟩
  | unapproved found agent context code status hr _ _ _ hc =>
    cases List.mem_singleton.1 (hc ▸ hm)
    exact ⟨hr, .refusal ..⟩

theorem carries_nil (key : CounterKey) : key.carries [] = true := rfl

theorem carries_operation (purpose : Purpose) (operation : Text) :
    (CounterKey.ofTags transportFailures purpose.operationTags).carries
      (Tag.values [("operation", operation)]) = decide (purpose.operation = operation) := by
  have hn (value : Text) : (([("operation", value)] : List Tag).map (·.1)).Nodup :=
    List.nodup_singleton _
  rw [Purpose.operationTags, CounterKey.carries_ofTags (hn _) (hn _)]
  simp [eq_comm]

theorem carries_failureTags (status code wantedStatus wantedCode : Text) :
    (CounterKey.ofTags failedRequests (Response.failureTags status code)).carries
      (Tag.values (Response.failureTags wantedStatus wantedCode)) =
        (decide (wantedStatus = status) && decide (wantedCode = code)) := by
  have hn (status code : Text) : ((Response.failureTags status code).map (·.1)).Nodup :=
    (by decide : (["service", "statusCode", "errorCode"] : List Text).Nodup)
  have hservice : ("statusCode" : Text) ≠ "service" ∧ ("errorCode" : Text) ≠ "service" := by decide
  have hcode : ("statusCode" : Text) ≠ "errorCode" ∧ ("errorCode" : Text) ≠ "statusCode" := by
    decide
  rw [CounterKey.carries_ofTags (hn _ _) (hn _ _)]
  simp [Response.failureTags, hservice, hcode]

theorem any_approvalTags (agent context : Json) :
    (CounterKey.ofTags verifications (approvalTags agent context)).tags.any (·.1 = "errorCode") =
      false := by
  have hn : ((approvalTags agent context).map (·.1)).Nodup :=
    (by decide : (["context", "platform"] : List Text).Nodup)
  have hc : ("context" : Text) ≠ "errorCode" := by decide
  have hp : ("platform" : Text) ≠ "errorCode" := by decide
  rw [CounterKey.any_tags_ofTags hn]
  simp [approvalTags, hc, hp]

theorem any_refusalTags (agent context : Json) (code status : Text) :
    (CounterKey.ofTags verifications
      (approvalTags agent context ++ refusalTags code status)).tags.any (·.1 = "errorCode") =
      true := by
  have hn : ((approvalTags agent context ++ refusalTags code status).map (·.1)).Nodup :=
    (by decide : (["context", "platform", "errorCode", "statusCode"] : List Text).Nodup)
  rw [CounterKey.any_tags_ofTags hn]
  simp [refusalTags]

theorem names_ne : (transportFailures ≠ failedRequests ∧ failedRequests ≠ transportFailures) ∧
    (transportFailures ≠ verifications ∧ verifications ≠ transportFailures) ∧
    failedRequests ≠ verifications ∧ verifications ≠ failedRequests := by decide +kernel

namespace Account
variable {account : Account}

theorem countP_transportFailures (h : account.Ends) (operation : Text) :
    account.counts.countP (fun count => count.key.name = transportFailures &&
        count.key.carries (Tag.values [("operation", operation)])) =
      if account.call.purpose.operation = operation ∧ account.response? = none ∧
        account.isResolved = true then 1 else 0 := by
  cases h with
  | unresolved hr hc => simp [hr, hc]
  | unanswered hr hresponse _ hc => simp [hr, hresponse, hc, Count.key, carries_operation]
  | sent found _ _ _ hresponse _ hc => simp [hresponse, hc]
  | failed found _ _ _ _ _ hresponse _ _ _ hc => simp [hresponse, hc, Count.key, names_ne]
  | approved found _ _ _ _ _ hresponse hc => simp [hresponse, hc, Count.key, names_ne]
  | unapproved found _ _ _ _ _ _ _ hresponse hc => simp [hresponse, hc, Count.key, names_ne]

theorem countP_failedRequests (h : account.Ends) :
    account.counts.countP (fun count => count.key.name = failedRequests &&
        count.key.carries []) =
      if (account.isSend && account.response?.any fun response => ¬ response.Succeeds) &&
        account.isResolved then 1 else 0 := by
  cases h with
  | unresolved hr hc => simp [hr, hc]
  | unanswered _ hresponse _ hc => simp [hresponse, hc, Count.key, names_ne]
  | sent found _ _ _ hresponse hs hc => simp [hresponse, hs, hc]
  | failed found _ _ hr hsend _ hresponse hs _ _ hc =>
    simp [hr, hsend, hresponse, hs, hc, Count.key, carries_nil]
  | approved found _ _ _ hsend _ _ hc => simp [hsend, hc, Count.key, names_ne]
  | unapproved found _ _ _ _ _ hsend _ _ hc => simp [hsend, hc, Count.key, names_ne]

theorem countP_failedRequestsAs (h : account.Ends) (status code : Text) :
    account.counts.countP (fun count => count.key.name = failedRequests &&
        count.key.carries (Tag.values (Response.failureTags status code))) =
      if (account.isSend && account.response?.any fun response => ¬ response.Succeeds ∧
        response.Shows "status" (Integer.text response.http) status ∧
          response.Shows "code" "unknown" code) && account.isResolved then 1 else 0 := by
  cases h with
  | unresolved hr hc => simp [hr, hc]
  | unanswered _ hresponse _ hc => simp [hresponse, hc, Count.key, names_ne]
  | sent found _ _ _ hresponse hs hc => simp [hresponse, hs, hc]
  | failed found _ _ hr hsend _ hresponse hs hstatus hcode hc =>
    simp [hr, hsend, hresponse, hs, hc, Count.key, carries_failureTags, hstatus, hcode]
  | approved found _ _ _ hsend _ _ hc => simp [hsend, hc, Count.key, names_ne]
  | unapproved found _ _ _ _ _ hsend _ _ hc => simp [hsend, hc, Count.key, names_ne]

theorem countP_verifications (h : account.Ends) :
    account.counts.countP (fun count => count.key.name = verifications && count.key.carries []) =
      if (!account.isSend && account.response?.isSome) && account.isResolved then 1 else 0 := by
  cases h with
  | unresolved hr hc => simp [hr, hc]
  | unanswered _ hresponse _ hc => simp [hresponse, hc, Count.key, names_ne]
  | sent found _ hsend _ _ _ hc => simp [hsend, hc]
  | failed found _ _ _ hsend _ _ _ _ _ hc => simp [hsend, hc, Count.key, names_ne]
  | approved found _ _ hr hsend _ hresponse hc =>
    simp [hr, hsend, hresponse, hc, Count.key, carries_nil]
  | unapproved found _ _ _ _ hr hsend _ hresponse hc =>
    simp [hr, hsend, hresponse, hc, Count.key, carries_nil]

theorem countP_approvals (h : account.Ends) :
    account.counts.countP (fun count => count.key.name = verifications &&
        !count.key.tags.any (·.1 = "errorCode")) =
      if account.isApproved && account.isResolved then 1 else 0 := by
  cases h with
  | unresolved hr hc => simp [hr, hc]
  | unanswered _ _ ha hc => simp [ha, hc, Count.key, names_ne]
  | sent found _ _ ha _ _ hc => simp [ha, hc]
  | failed found _ _ _ _ ha _ _ _ _ hc => simp [ha, hc, Count.key, names_ne]
  | approved found _ _ hr _ ha _ hc =>
    rw [hc, List.countP_singleton, Count.key, any_approvalTags]
    simp [hr, ha]
  | unapproved found _ _ _ _ _ _ ha _ hc =>
    rw [hc, List.countP_singleton, Count.key, any_refusalTags]
    simp [ha]

theorem countP_all (h : account.Ends) : account.counts.countP (fun _ => true) =
    if !(account.isSend && account.response?.any fun response => response.Succeeds) &&
      account.isResolved then 1 else 0 := by
  cases h with
  | unresolved hr hc => simp [hr, hc]
  | unanswered hr hresponse _ hc => simp [hr, hresponse, hc]
  | sent found _ hsend _ hresponse hs hc => simp [hsend, hresponse, hs, hc]
  | failed found _ _ hr _ _ hresponse hs _ _ hc => simp [hr, hresponse, hs, hc]
  | approved found _ _ hr hsend _ _ hc => simp [hr, hsend, hc]
  | unapproved found _ _ _ _ hr hsend _ _ hc => simp [hr, hsend, hc]

end Account

/-- The registry agrees with the accounts of all calls whose promises were fulfilled. -/
structure Counters.Conserves (counters : Counters) (resolved : List Account) : Prop where
  sendFailures : counters.count transportFailures (Tag.values [("operation", "send")]) =
    resolved.countP fun account => account.isSend && account.response?.isNone
  approvalFailures : counters.count transportFailures (Tag.values [("operation", "approve")]) =
    resolved.countP fun account => !account.isSend && account.response?.isNone
  failedRequests : counters.count failedRequests [] =
    resolved.countP fun account => account.isSend && account.response?.any fun response =>
      ¬ response.Succeeds
  /-- The status of a failed request is the whole number that the body has for it, or else that of
  the response; its code is the whole number that the body has for it, or else unknown. -/
  failedRequestsAs : ∀ status code, counters.count Handling.failedRequests
      (Tag.values [("service", "verify"), ("statusCode", status), ("errorCode", code)]) =
    resolved.countP fun account => account.isSend && account.response?.any fun response =>
      ¬ response.Succeeds ∧ response.Shows "status" (Integer.text response.http) status ∧
        response.Shows "code" "unknown" code
  verifications : counters.count verifications [] =
    resolved.countP fun account => !account.isSend && account.response?.isSome
  approvals : (counters.total fun key =>
      key.name = Handling.verifications && !key.tags.any (·.1 = "errorCode")) =
    resolved.countP (·.isApproved)
  known : ∀ entry ∈ counters.entries, entry.1.IsKnown
  /-- Every call is counted once, except that no code that was sent is. -/
  all : counters.total (fun _ => true) =
    resolved.countP fun account => !(account.isSend && account.response?.any fun response =>
      response.Succeeds)

namespace Client

theorem isKnown_of_mem_entries {settings : Settings} {supported : List Text} {session : Session}
    {client : Client} (hc : connect settings supported session .working = .ok client)
    {actions : List Action} (hno : ∀ index, .cancelPromise index ∉ actions)
    {entry : CounterKey × Int} (h : entry ∈ (client.acts actions).2.metrics.counters.entries) :
    entry.1.IsKnown := by
  rw [counters_acts hc] at h
  rcases Counters.mem_keys_addAll_iff.1 (List.mem_map_of_mem h) with hm | hm
  · simp only [List.map_map, List.mem_map] at hm
    obtain ⟨count, hcount, hkey⟩ := hm
    have hperm := counts_settlements_perm_of_fresh (metrics_of_connect hc).2 actions
    obtain ⟨account, ha, hmem⟩ := List.mem_flatMap.1 (hperm.mem_iff.1 hcount)
    rw [← hkey]
    exact (Account.isKnown_of_mem_counts
      (Account.ends_of_isFaithful (isFaithful_of_mem_accounts hno ha)) hmem).2
  · cases hm

/-- After any run in which nobody cancels a promise, the registry of a new client agrees with the
accounts of the run's calls. -/
theorem conserves_acts {settings : Settings} {supported : List Text} {session : Session}
    {client : Client} (hc : connect settings supported session .working = .ok client)
    {actions : List Action} (hno : ∀ index, .cancelPromise index ∉ actions) :
    (client.acts actions).2.metrics.counters.Conserves
      ((client.accounts actions).filter (·.isResolved)) := by
  have hsa : ("send" : Text) ≠ "approve" ∧ ("approve" : Text) ≠ "send" := by decide
  exact {
    sendFailures := count_acts hc hno fun account h => by
      rw [Account.countP_transportFailures h]
      rcases account.operation_cases with ⟨hs, ho⟩ | ⟨hs, ho⟩ <;> simp [hs, ho, hsa]
    approvalFailures := count_acts hc hno fun account h => by
      rw [Account.countP_transportFailures h]
      rcases account.operation_cases with ⟨hs, ho⟩ | ⟨hs, ho⟩ <;> simp [hs, ho, hsa]
    failedRequests := count_acts hc hno fun account h => Account.countP_failedRequests h
    failedRequestsAs := fun status code => count_acts hc hno fun account h =>
      Account.countP_failedRequestsAs h status code
    verifications := count_acts hc hno fun account h => Account.countP_verifications h
    approvals := total_acts hc hno fun account h => Account.countP_approvals h
    known := fun entry he => isKnown_of_mem_entries hc hno he
    all := total_acts hc hno fun account h => Account.countP_all h }

theorem conserves_scripted :
    let client := scripted [.response ⟨some 404, "\x7b\"status\":\"4\"\x7d",
      [("Content-Type", "application/json")]⟩, .fault .readTimeout "slow"]
    let actions : List Action := [.call (.sms (.text "+14155551234") .null (.text "123456") []),
      .call (.confirm ⟨.text "VE1", .null, .text "registration"⟩)]
    connect .plain supportedLanguages client.session .working = .ok client ∧
      (∀ index, .cancelPromise index ∉ actions) ∧
      (client.accounts actions).countP (·.isResolved) = 2 ∧
      (client.acts actions).2.metrics.counters.Conserves
        ((client.accounts actions).filter (·.isResolved)) := by
  intro client actions
  have hno : ∀ index, .cancelPromise index ∉ actions := by simp [actions]
  exact ⟨connect_plain _, hno, by decide +kernel, conserves_acts (connect_plain _) hno⟩

end Client
end OneTimeCode
