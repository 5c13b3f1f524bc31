import OneTimeCode.Proofs.Verification.Accounts

/-!
# Silent failures

A request for a code that comes to nothing is recorded in the step that settles it, by a count or by
an entry of some severity. The exception is a response that says success and names no identifier: it
is recorded if it declares JSON and its body is no object, and passes in silence otherwise.
-/
namespace OneTimeCode
open Text

/-- An entry of the handling of answers that is no mere detail. -/
def LogEntry.IsRecord (entry : LogEntry) : Prop :=
  entry.source = Handling.source ∧ Severity.info.level ≤ entry.severity.level

instance (entry : LogEntry) : Decidable entry.IsRecord :=
  inferInstanceAs (Decidable (_ ∧ _))

/-- The client tries a count or logs a record in its next step. -/
def Client.Records (client : Client) (action : Action) : Prop :=
  (client.act action).2.metrics.tried ≠ client.metrics.tried ∨
    ∃ entry ∈ (client.act action).1.log, entry.IsRecord

instance (client : Client) (action : Action) : Decidable (client.Records action) :=
  inferInstanceAs (Decidable (_ ∨ _))

/-- If the response declares JSON, its body is an object. -/
def Response.IsRegular (response : Response) : Prop :=
  ∀ given, response.header? "Content-Type" = some given →
    lower (trim (before ';' given)) = jsonType → ∃ members, response.Lists members

/-- The response says success, names no identifier, and is regular all the same. -/
structure Response.KeepsSilent (response : Response) : Prop where
  succeeds : response.Succeeds
  unnamed : ∀ id, ¬ response.Names id
  regular : response.IsRegular

/-! ## What a step records -/

theorem Delivery.not_isRecord_of_mem_attempts {post : Post} {total left : Nat} {script : Script}
    {entry : LogEntry} (h : entry ∈ (attempts post total left script).log) : ¬ entry.IsRecord := by
  induction left generalizing script with
  | zero => cases h
  | succ left ih =>
    rcases attempts_succ_cases post total left script with ⟨answer, he⟩ | ⟨reason, he⟩
    · rw [he] at h
      cases h
    · rw [he] at h
      rcases List.mem_cons.1 h with rfl | h
      · intro hr
        exact absurd hr.1 (by decide : source ≠ Handling.source)
      · exact ih h

/-- The transport has a source of its own. -/
theorem Session.not_isRecord_of_mem_send {session : Session} {letter : Letter} {entry : LogEntry}
    (h : entry ∈ (session.send letter).1.log) : ¬ entry.IsRecord := by
  rcases session.policy.deliver_cases letter session.script with ⟨error, he⟩ | ⟨post, n, -, he⟩
  · rw [send, he] at h
    cases h
  · rw [send, he] at h
    exact Delivery.not_isRecord_of_mem_attempts h

theorem Metrics.perform_snd_of_counts_eq_nil {metrics : Metrics} {effects : List Effect}
    (h : Effect.counts effects = []) : (metrics.perform effects).2 = Effect.notes effects := by
  induction effects with
  | nil => rfl
  | cons effect rest ih =>
    cases effect with
    | note entry => exact congrArg (entry :: ·) (ih h)
    | count name tags => cases h

def Effect.Record (effects : List Effect) : Prop :=
  counts effects ≠ [] ∨ ∃ entry ∈ notes effects, entry.IsRecord

theorem Effect.record_append (first second : List Effect) :
    Record (first ++ second) ↔ Record first ∨ Record second := by
  have hcounts : counts (first ++ second) ≠ [] ↔ counts first ≠ [] ∨ counts second ≠ [] := by
    rw [counts_append, ne_eq, List.append_eq_nil_iff, not_and_or]
  have hnotes : (∃ entry ∈ notes (first ++ second), entry.IsRecord) ↔
      (∃ entry ∈ notes first, entry.IsRecord) ∨ ∃ entry ∈ notes second, entry.IsRecord := by
    simp only [notes, List.filterMap_append, List.mem_append, or_and_right, exists_or]
  rw [Record, hcounts, hnotes, or_or_or_comm]
  rfl

/-- A result that is dropped is noted, but by nobody who handles answers. -/
theorem Promise.not_record_settle (promise : Promise) (result : Except ReplyError CallResult) :
    ¬ Effect.Record (promise.settle result).2 := by
  have hdropped : ¬ dropped.IsRecord := by decide
  have hlate : ¬ Effect.Record [.note dropped] := by
    simpa [Effect.Record, Effect.counts, Effect.counted?, Effect.notes, Effect.noted?]
      using hdropped
  have hnone : ¬ Effect.Record [] := by simp [Effect.Record, Effect.counts, Effect.notes]
  cases promise with
  | pending => cases result <;> exact hnone
  | _ => exact hlate

theorem Promise.settle_pending_eq_fulfilled_iff {result : Except ReplyError CallResult}
    {value : CallResult} :
    (pending.settle result).1 = fulfilled value ↔ result = .ok value := by
  cases result <;> simp [settle]

theorem Settlement.record_effects_iff (settlement : Settlement) :
    Effect.Record settlement.effects ↔
      Effect.Record (settlement.ticket.purpose.handle settlement.answer).effects := by
  rw [effects, Ticket.answer, Effect.record_append]
  exact or_iff_left (Promise.not_record_settle _ _)

namespace Client

theorem not_isRecord_of_mem_composing {client : Client} {action : Action} {entry : LogEntry}
    (h : entry ∈ client.composing action) : ¬ entry.IsRecord := by
  have hbest {ranges : List RangeItem} (hm : entry ∈ (client.bestLocale ranges).log) :
      ¬ entry.IsRecord := by
    unfold bestLocale at hm
    split at hm
    · cases hm
    · rw [List.mem_singleton.1 hm]
      exact fun hr => absurd hr.2 (by decide : ¬ Severity.info.level ≤ Severity.debug.level)
  cases action with
  | call call =>
    cases call with
    | confirm call => cases h
    | send call =>
      simp only [composing, compose] at h
      split at h
      · cases h
      · exact hbest h
  | _ => cases h

theorem not_isRecord_of_mem_settlement? {client : Client} {action : Action}
    {settlement : Settlement} (hs : client.settlement? action = some settlement) {entry : LogEntry}
    (h : entry ∈ settlement.log) : ¬ entry.IsRecord := by
  rcases kind_of_settlement? hs with hk | ⟨reason, hk⟩
  · rw [hk] at h
    exact Session.not_isRecord_of_mem_send h
  · rw [hk] at h
    cases h

/-- A step records what the effects of its settlement record. -/
theorem records_iff {client : Client} {action : Action} {settlement : Settlement}
    (hs : client.settlement? action = some settlement) :
    client.Records action ↔ Effect.Record settlement.effects := by
  have hreflects := client.act_reflects action
  rw [hs] at hreflects
  obtain ⟨-, hlog, hmetrics⟩ := hreflects
  have htried : (client.act action).2.metrics.tried =
      client.metrics.tried ++ (Effect.counts settlement.effects).map (·.name) := by
    rw [hmetrics, Metrics.perform_fst, Metrics.tried_tally]
    rfl
  unfold Records Effect.Record
  rw [htried, hlog, ne_eq, List.append_right_eq_self, List.map_eq_nil_iff]
  by_cases hc : Effect.counts settlement.effects = []
  · simp only [Option.elim, Metrics.perform_snd_of_counts_eq_nil hc, List.mem_append]
    constructor
    · rintro (hn | ⟨entry, (hm | hm) | hm, hr⟩)
      · exact absurd hc hn
      · exact absurd hr (not_isRecord_of_mem_composing hm)
      · exact absurd hr (not_isRecord_of_mem_settlement? hs hm)
      · exact .inr ⟨entry, hm, hr⟩
    · rintro (hn | ⟨entry, hm, hr⟩)
      · exact absurd hc hn
      · exact .inr ⟨entry, .inr hm, hr⟩
  · exact ⟨fun _ => .inl hc, fun _ => .inl hc⟩

end Client

/-! ## What answers leave no trace -/

namespace Response

/-- Reading the body of a response notes a record unless the response is regular. -/
theorem record_members_iff (response : Response) :
    (∃ entry ∈ response.members.2, entry.IsRecord) ↔ ¬ response.IsRegular := by
  have hwarning (message : Text) : LogEntry.IsRecord ⟨.warning, Reply.source, message⟩ :=
    ⟨rfl, (by decide : Severity.info.level ≤ Severity.warning.level)⟩
  unfold members
  split
  · next hj =>
    obtain ⟨given, hgiven, hdeclared⟩ := (isJson_iff response).1 hj
    have hlists : response.IsRegular → ∃ members, response.Lists members :=
      fun h => h given hgiven hdeclared
    unfold object
    split
    · next hr =>
      apply iff_of_true ⟨_, List.mem_singleton_self _, hwarning _⟩
      intro h
      obtain ⟨members, hl⟩ := hlists h
      rw [hl.body] at hr
      cases hr
    · next members hr =>
      apply iff_of_false (by simp)
      exact not_not_intro fun _ _ _ => ⟨members, ⟨given, hgiven, hdeclared⟩, hr⟩
    · next value hne hr =>
      apply iff_of_true ⟨_, List.mem_singleton_self _, hwarning _⟩
      intro h
      obtain ⟨members, hl⟩ := hlists h
      rw [hl.body] at hr
      cases hr
      exact hne members rfl
  · next hj =>
    apply iff_of_false (by simp)
    apply not_not_intro
    intro given hgiven hdeclared
    exact absurd ((isJson_iff response).2 ⟨given, hgiven, hdeclared⟩) hj

end Response

namespace Purpose
open Handling

/-- A success is read and leaves nothing else behind. -/
theorem effects_code_of_succeeds (destination : Json) {response : Response}
    (h : response.Succeeds) :
    ((code destination).handle (.ok response)).effects = response.members.2.map .note := by
  obtain ⟨id, status, hr, -⟩ := Response.reading_reply_of_succeeds h
  show (ofResponse response (sendReply destination)).effects = _
  unfold ofResponse
  simp only [hr, sendReply]
  exact List.append_nil _

/-- Handling an answer that names no identifier leaves no record exactly of responses that keep
silent. -/
theorem record_code_iff {destination : Json} {answer : Except TransportError Response}
    (h : ((code destination).handle answer).result = .ok (.sent none)) :
    Effect.Record ((code destination).handle answer).effects ↔
      ¬ ∃ response, answer = .ok response ∧ response.KeepsSilent := by
  cases answer with
  | error e =>
    have hcounts : (code destination).counts (.error e) ≠ [] := by
      rw [counts_error]
      exact List.cons_ne_nil _ _
    apply iff_of_true (.inl hcounts)
    rintro ⟨response, hr, -⟩
    cases hr
  | ok response =>
    by_cases hs : response.Succeeds
    · have hunnamed (id : Text) : ¬ response.Names id := by
        rw [← handle_code_eq_some_iff destination, h]
        simp
      have hnotes : Effect.notes (response.members.2.map .note) = response.members.2 := by
        rw [Effect.notes, List.filterMap_map]
        exact List.filterMap_some
      rw [effects_code_of_succeeds destination hs, Effect.Record, Effect.counts_notes, hnotes,
        response.record_members_iff]
      constructor
      · rintro (hn | hn) ⟨other, ho, hsilent⟩
        · exact hn rfl
        · cases ho
          exact hn hsilent.regular
      · intro hn
        right
        intro hregular
        exact hn ⟨response, rfl, hs, hunnamed, hregular⟩
    · have ho : ¬ response.Overflows := by
        rcases (code destination).handle_response response with ⟨-, he⟩ | ⟨ho, -⟩
        · rw [h] at he
          cases he
        · exact ho
      have hcounts : (code destination).counts (.ok response) ≠ [] := by
        obtain ⟨status, code, -, -, hc⟩ := counts_code_of_fails destination hs ho
        rw [hc]
        exact List.cons_ne_nil _ _
      apply iff_of_true (.inl hcounts)
      rintro ⟨other, hr, hsilent⟩
      cases hr
      exact hs hsilent.succeeds

end Purpose

/-! ## The step that settles a call -/

namespace Client

/-- After the actions before it, the action settles the call: at once the call itself, by hand the
first one that runs or cancels its job. -/
structure SettledBy (client : Client) (call : Call) (before : List Action) (action : Action) :
    Prop where
  atOnce : client.session.executor ≠ .manual → before = [] ∧ action = .call call
  byHand : client.session.executor = .manual → ∃ waited, before = .call call :: waited ∧
    (∀ other ∈ waited, other.settles client.tickets.length = false) ∧
    action.settles client.tickets.length = true

/-- The settlement is one of a ticket for that purpose, and a response answers it exactly if it
decides. -/
structure DecidedBy (settlement : Settlement) (purpose : Purpose) (deciding : Option Outcome) :
    Prop where
  purpose : settlement.ticket.purpose = purpose
  answer : ∀ response, settlement.answer = .ok response ↔ deciding = some (.response response)

theorem decidedBy_delivered (session : Session) (place : Option Nat) (ticket : Ticket) :
    DecidedBy (.delivered session place ticket) ticket.purpose
      (session.deciding? ticket.letter) :=
  ⟨rfl, session.answer_send_eq_ok_iff ticket.letter⟩

theorem decidedBy_abandoned (reason : TransportError) (place : Option Nat) (ticket : Ticket) :
    DecidedBy (.abandoned reason place ticket) ticket.purpose none :=
  ⟨rfl, fun _ => iff_of_false (fun h => nomatch h) (fun h => nomatch h)⟩

/-- A job whose course ends is settled by the first action that runs or cancels it. -/
theorem settling_of_courseOfJob {client : Client} {index : Nat} {ticket : Ticket}
    (hq : client.queued? index = some ticket) {later : List Action} {deciding : Option Outcome}
    (h : client.courseOfJob index ticket.letter later = .settled deciding) :
    ∃ waited action rest settlement, later = waited ++ action :: rest ∧
      (∀ other ∈ waited, other.settles index = false) ∧ action.settles index = true ∧
      (client.acts waited).2.settlement? action = some settlement ∧
      DecidedBy settlement ticket.purpose deciding := by
  induction later generalizing client ticket with
  | nil => cases h
  | cons action rest ih =>
    cases hs : action.settles index with
    | true =>
      obtain ⟨settlement, hsettled, -, -, hkind⟩ := settles hq hs
      refine ⟨[], action, rest, settlement, rfl, by simp, hs, hsettled, ?_⟩
      rcases hkind with ⟨rfl, rfl⟩ | ⟨rfl, rfl⟩
      · rw [courseOfJob, if_pos rfl] at h
        cases h
        exact decidedBy_delivered ..
      · rw [courseOfJob, if_pos rfl] at h
        cases h
        exact decidedBy_abandoned ..
    | false =>
      obtain ⟨ht, hj⟩ := queued?_eq_some_iff.1 hq
      have hnext : (client.act action).2.queued? index = some (ticket.withdrawn index [action]) :=
        queued?_eq_some_iff.2 ⟨ticket_act_of_not_settles ht hs, hj⟩
      rw [courseOfJob_cons_of_not_settles hs] at h
      obtain ⟨waited, last, others, settlement, rfl, hwaited, hrest⟩ := ih hnext h
      refine ⟨action :: waited, last, others, settlement, rfl, ?_, hrest⟩
      intro other hm
      rcases List.mem_cons.1 hm with rfl | hm
      · exact hs
      · exact hwaited other hm

/-- A call whose course ends is settled in some step of every run that it begins. -/
theorem settling_of_courseOf {client : Client} {call : Call} {later : List Action}
    {deciding : Option Outcome} (h : client.courseOf call later = .settled deciding) :
    ∃ before action rest settlement, .call call :: later = before ++ action :: rest ∧
      client.SettledBy call before action ∧
      (client.acts before).2.settlement? action = some settlement ∧
      DecidedBy settlement call.purpose deciding := by
  cases hc : (client.compose call).answer with
  | error e =>
    have hrefused := (client.courseOf_eq_refused_iff call later).2 ⟨e, hc⟩
    rw [h] at hrefused
    cases hrefused
  | ok composed =>
    obtain ⟨letter, purpose⟩ := composed
    cases purpose_of_compose_ok hc
    by_cases hm : client.session.executor = .manual
    · have hcourse : client.courseOf call later =
          (client.act (.call call)).2.courseOfJob client.tickets.length letter later := by
        simp only [courseOf, hc, hm]
      obtain ⟨waited, action, rest, settlement, rfl, hwaited, hs, hsettled, hdecided⟩ :=
        settling_of_courseOfJob (queued?_after_call hm hc) (hcourse ▸ h)
      refine ⟨.call call :: waited, action, rest, settlement, rfl, ⟨?_, ?_⟩, hsettled, hdecided⟩
      · exact fun hn => absurd hm hn
      · exact fun _ => ⟨waited, rfl, hwaited, hs⟩
    · rw [courseOf_of_ne_manual hc hm] at h
      cases h
      have hsettled : client.settlement? (.call call) = some (if client.session.executor.accepts
          then .delivered client.session none { letter, purpose := call.purpose }
          else .abandoned .shutDown none { letter, purpose := call.purpose }) := by
        rw [settlement?, hc]
        exact submission?_of_ne_manual hm _
      refine ⟨[], .call call, later, _, rfl, ⟨?_, ?_⟩, hsettled, ?_⟩
      · exact fun _ => ⟨rfl, rfl⟩
      · exact fun he => absurd he hm
      · split
        · exact decidedBy_delivered ..
        · exact decidedBy_abandoned ..

/-- A request for a code that comes to nothing is recorded in the step that settles it, unless it
was decided by a response that keeps silent. -/
theorem records_iff_not_keepsSilent {client : Client} {call : SendCall} {later : List Action}
    (h : client.promiseOf (.send call) later = some (.fulfilled (.sent none))) :
    ∃ before action rest, .call (.send call) :: later = before ++ action :: rest ∧
      client.SettledBy (.send call) before action ∧
      ((client.acts before).2.Records action ↔ ¬ ∃ response,
        client.courseOf (.send call) later = .settled (some (.response response)) ∧
          response.KeepsSilent) := by
  have hpromise : (client.courseOf (.send call) later).promise (.code call.destination) =
      some (.fulfilled (.sent none)) := by
    rcases client.promiseOf_eq (.send call) later with hp | ⟨hp, -⟩
    · exact hp.symm.trans h
    · rw [hp] at h
      cases h
  cases hcourse : client.courseOf (.send call) later with
  | refused | waiting =>
    rw [hcourse] at hpromise
    cases hpromise
  | settled deciding =>
    rw [hcourse] at hpromise
    obtain ⟨before, action, rest, settlement, hrun, hby, hsettled, hpurpose, hanswer⟩ :=
      settling_of_courseOf hcourse
    have hresult : ((Purpose.code call.destination).handle settlement.answer).result =
        .ok (.sent none) := by
      apply Promise.settle_pending_eq_fulfilled_iff.1
      rw [Purpose.settle_pending (.code call.destination) hanswer]
      exact Option.some.inj hpromise
    refine ⟨before, action, rest, hrun, hby, ?_⟩
    rw [records_iff hsettled, settlement.record_effects_iff, hpurpose]
    show Effect.Record ((Purpose.code call.destination).handle settlement.answer).effects ↔ _
    rw [Purpose.record_code_iff hresult]
    simp only [hanswer, Course.settled.injEq]

/-- Too many requests are recorded. -/
theorem records_too_many :
    let client := scripted [.response ⟨some 429, [], []⟩]
    let call : SendCall := ⟨.text "sms", .text "+14155551234", .text "123456", .null, []⟩
    client.promiseOf (.send call) [] = some (.fulfilled (.sent none)) ∧
      ∃ before action rest, [.call (.send call)] = before ++ action :: rest ∧
        client.SettledBy (.send call) before action ∧ (client.acts before).2.Records action := by
  intro client call
  have hp : client.promiseOf (.send call) [] = some (.fulfilled (.sent none)) := by decide +kernel
  have hcourse : client.courseOf (.send call) [] =
      .settled (some (.response ⟨some 429, [], []⟩)) := by decide +kernel
  obtain ⟨before, action, rest, hrun, hby, hrecords⟩ := records_iff_not_keepsSilent hp
  refine ⟨hp, before, action, rest, hrun, hby, hrecords.2 ?_⟩
  rintro ⟨response, hr, hsilent⟩
  rw [hcourse] at hr
  cases hr
  exact absurd hsilent.succeeds.2 (by decide)

/-- A plain text and an empty object pass in silence. -/
theorem silent_on_text_and_empty_object :
    let call : SendCall := ⟨.text "sms", .text "+14155551234", .text "123456", .null, []⟩
    ∀ response ∈ [(⟨some 200, "hello", [("Content-Type", "text/plain")]⟩ : Response),
        ⟨some 200, "\x7b\x7d", [("Content-Type", "application/json")]⟩],
      (scripted [.response response]).promiseOf (.send call) [] = some (.fulfilled (.sent none)) ∧
        ¬ (scripted [.response response]).Records (.call (.send call)) := by
  decide +kernel

end Client
end OneTimeCode
