import OneTimeCode.Proofs.Verification.Course
import OneTimeCode.Proofs.Verification.Places
import Mathlib.Data.List.TakeWhile

/-!
# Interleaved calls

With a manual session calls wait side by side, and jobs are run or cancelled and promises cancelled
in any order. Every call is handled once, when its job is settled, and what the caller does to the
promises shows in the promises only: two clients that differ in nothing else act alike.
-/
namespace OneTimeCode

def Ticket.bare (ticket : Ticket) : Ticket := { ticket with promise := .pending }

def Settlement.bare (settlement : Settlement) : Settlement :=
  { settlement with ticket := settlement.ticket.bare }

def Client.bare (client : Client) : Client :=
  { client with tickets := client.tickets.map .bare }

namespace Action

def isOnPromise : Action → Bool
  | .cancelPromise _ => true
  | .call _ | .runJob _ | .cancelJob _ | .close => false

end Action

namespace Client

theorem getElem?_bare (client : Client) (index : Nat) :
    client.bare.tickets[index]? = client.tickets[index]?.map Ticket.bare := List.getElem?_map ..

theorem queued?_bare (client : Client) (index : Nat) :
    client.bare.queued? index = (client.queued? index).map .bare := by
  rw [queued?, queued?, getElem?_bare]
  cases client.tickets[index]? with
  | none => rfl
  | some ticket =>
    simp only [Option.map_some, Option.filter_some, Ticket.bare]
    split <;> rfl

theorem compose_bare (client : Client) (call : Call) :
    client.bare.compose call = client.compose call := by
  cases call <;> rfl

theorem settlement?_bare (client : Client) (action : Action) :
    client.bare.settlement? action = (client.settlement? action).map .bare := by
  cases action with
  | close | cancelPromise => rfl
  | runJob index =>
    simp only [settlement?, queued?_bare, Option.map_map]
    rfl
  | cancelJob index =>
    simp only [settlement?, queued?_bare, Option.map_map]
    rfl
  | call call =>
    simp only [settlement?, compose_bare]
    cases (client.compose call).answer with
    | error e => rfl
    | ok composed =>
      obtain ⟨letter, purpose⟩ := composed
      show client.bare.submission? { letter, purpose } =
        (client.submission? { letter, purpose }).map .bare
      by_cases hm : client.session.executor = .manual
      · rw [submission?_of_manual hm, @submission?_of_manual client.bare hm]
        rfl
      · rw [submission?_of_ne_manual hm, @submission?_of_ne_manual client.bare hm]
        show some (if client.session.executor.accepts then _ else _) = _
        split <;> rfl

theorem map_bare_bare (tickets : List Ticket) :
    (tickets.map Ticket.bare).map Ticket.bare = tickets.map Ticket.bare := List.map_map

theorem bare_bare (client : Client) : client.bare.bare = client.bare := by
  simp only [bare, map_bare_bare]

theorem deliver_bare (client : Client) (ticket : Ticket) :
    (client.bare.deliver ticket.bare).2 = (client.deliver ticket).2.bare := by
  rw [deliver_snd _ none, deliver_snd _ none, Metrics.perform_fst, Metrics.perform_fst,
    Settlement.counts_effects, Settlement.counts_effects]
  rfl

theorem abandon_bare (client : Client) (ticket : Ticket) (reason : TransportError) :
    (client.bare.abandon ticket.bare reason).2 = (client.abandon ticket reason).2.bare := by
  rw [abandon_snd _ none, abandon_snd _ none, Metrics.perform_fst, Metrics.perform_fst,
    Settlement.counts_effects, Settlement.counts_effects]
  rfl

theorem record_bare (index : Nat) {first second : Trace Ticket × Client}
    (hc : first.2 = second.2.bare) (ht : first.1.answer.bare = second.1.answer.bare) :
    (record index first).2.bare = (record index second).2.bare := by
  obtain ⟨trace, client⟩ := first
  cases hc
  simp only [record, bare, List.map_set, map_bare_bare, ht]

/-- What an action makes of a client, but for the promises, does not depend on the promises. -/
theorem act_bare (client : Client) (action : Action) :
    (client.bare.act action).2.bare = (client.act action).2.bare := by
  have hwaiting {index : Nat} {ticket : Ticket} (hq : client.queued? index = some ticket) :
      client.bare.tickets[index]? = some ticket.bare ∧ ticket.bare.job = .queued :=
    queued?_eq_some_iff.1 (by rw [queued?_bare, hq]; rfl)
  have hidle {index : Nat} (hq : client.queued? index = none)
      (ha : action = .runJob index ∨ action = .cancelJob index) :
      (client.bare.act action).2.bare = (client.act action).2.bare := by
    obtain ⟨answer, hact⟩ := act_of_queued?_eq_none hq ha
    have hqbare : client.bare.queued? index = none := by rw [queued?_bare, hq]; rfl
    obtain ⟨bareAnswer, hbare⟩ := act_of_queued?_eq_none hqbare ha
    rw [hact, hbare, bare_bare]
  cases action with
  | close => exact bare_bare client.close
  | cancelPromise index =>
    simp only [act, onTicket, getElem?_bare]
    cases client.tickets[index]? with
    | none => exact client.bare_bare
    | some ticket =>
      simp only [Option.map_some, cancelPromise, bare, List.map_set, map_bare_bare]
      rfl
  | runJob index =>
    cases hq : client.queued? index with
    | none => exact hidle hq (.inl rfl)
    | some ticket =>
      obtain ⟨ht, hj⟩ := queued?_eq_some_iff.1 hq
      rw [act_runJob_of_queued ht hj, act_runJob_of_queued (hwaiting hq).1 (hwaiting hq).2]
      exact record_bare index (client.deliver_bare ticket) rfl
  | cancelJob index =>
    cases hq : client.queued? index with
    | none => exact hidle hq (.inr rfl)
    | some ticket =>
      obtain ⟨ht, hj⟩ := queued?_eq_some_iff.1 hq
      rw [act_cancelJob_of_queued ht hj, act_cancelJob_of_queued (hwaiting hq).1 (hwaiting hq).2]
      exact record_bare index (client.abandon_bare ticket .withdrawn) rfl
  | call call =>
    show (client.bare.call call).2.bare = (client.call call).2.bare
    cases hc : (client.compose call).answer with
    | error e =>
      rw [call_of_compose_error hc, call_of_compose_error ((client.compose_bare call) ▸ hc)]
      exact client.bare_bare
    | ok composed =>
      obtain ⟨letter, purpose⟩ := composed
      rw [call_of_compose_ok hc, call_of_compose_ok ((client.compose_bare call) ▸ hc)]
      let ticket : Ticket := { letter, purpose }
      show (client.bare.submit ticket).2.bare = (client.submit ticket).2.bare
      by_cases hm : client.session.executor = .manual
      · rw [submit_of_manual hm, @submit_of_manual client.bare hm]
        simp only [bare, List.map_append, map_bare_bare]
      · rw [submit_of_ne_manual hm, @submit_of_ne_manual client.bare hm]
        show (if client.session.executor.accepts then client.bare.deliver ticket.bare
          else client.bare.abandon ticket.bare .shutDown).2.bare = _
        split
        · rw [deliver_bare, bare_bare]
        · rw [abandon_bare, bare_bare]

/-- Clients that differ in promises only settle the same in every run, and end up differing in
promises only. -/
theorem acts_of_bare_eq {first second : Client} (h : first.bare = second.bare)
    (actions : List Action) : (first.acts actions).2.bare = (second.acts actions).2.bare ∧
      (first.settlements actions).map Settlement.bare =
        (second.settlements actions).map Settlement.bare := by
  induction actions generalizing first second with
  | nil => exact ⟨h, rfl⟩
  | cons action rest ih =>
    have hnext : (first.act action).2.bare = (second.act action).2.bare := by
      rw [← act_bare, h, act_bare]
    have hnow : (first.settlement? action).map Settlement.bare =
        (second.settlement? action).map Settlement.bare := by
      rw [← settlement?_bare, h, settlement?_bare]
    obtain ⟨hlast, hlater⟩ := ih hnext
    refine ⟨hlast, ?_⟩
    rw [settlements, settlements, List.map_append, List.map_append, hlater, ← Option.toList_map,
      ← Option.toList_map, hnow]

theorem act_cancelPromise_bare (client : Client) (index : Nat) :
    (client.act (.cancelPromise index)).2.bare = client.bare := by
  simp only [act, onTicket]
  cases ht : client.tickets[index]? with
  | none => rfl
  | some ticket =>
    have hsame : (client.tickets.map Ticket.bare).set index ticket.bare =
        client.tickets.map .bare := by
      obtain ⟨hlt, rfl⟩ := List.getElem?_eq_some_iff.1 ht
      rw [← List.map_set, List.set_getElem_self]
    simp only [cancelPromise, bare, List.map_set]
    exact congrArg (fun tickets => ({ client with tickets } : Client)) hsame

/-- Cancellations of promises change nothing but promises: without them a run settles the same. -/
theorem acts_without_cancelPromise (client : Client) (actions : List Action) :
    (client.acts (actions.filter (!·.isOnPromise))).2.bare = (client.acts actions).2.bare ∧
      (client.settlements (actions.filter (!·.isOnPromise))).map Settlement.bare =
        (client.settlements actions).map Settlement.bare := by
  induction actions generalizing client with
  | nil => exact ⟨rfl, rfl⟩
  | cons action rest ih =>
    cases hp : action.isOnPromise with
    | false =>
      obtain ⟨hlast, hlater⟩ := ih (client.act action).2
      rw [List.filter_cons_of_pos (by simp [hp])]
      refine ⟨hlast, ?_⟩
      rw [settlements, settlements, List.map_append, List.map_append, hlater]
    | true =>
      obtain ⟨index, rfl⟩ : ∃ index, action = .cancelPromise index := by
        cases action <;> simp [Action.isOnPromise] at hp ⊢
      rw [List.filter_cons_of_neg (by simp [hp])]
      obtain ⟨hlast, hlater⟩ := ih (client.act (.cancelPromise index)).2
      have hbare := acts_of_bare_eq (client.act_cancelPromise_bare index)
        (rest.filter (!·.isOnPromise))
      exact ⟨hbare.1.symm.trans hlast, hbare.2.symm.trans hlater⟩

theorem posts_without_cancelPromise (client : Client) (actions : List Action) :
    (client.acts (actions.filter (!·.isOnPromise))).1.flatMap (·.posts) =
      (client.acts actions).1.flatMap (·.posts) := by
  have hposts (settlements : List Settlement) :
      settlements.flatMap (·.posts) = (settlements.map Settlement.bare).flatMap (·.posts) := by
    rw [List.flatMap_map]
    rfl
  rw [posts_acts, posts_acts, hposts, (client.acts_without_cancelPromise actions).2, ← hposts]

end Client

/-! ## A call that waits -/

/-- The caller cancels the promise at a place before its job is settled. -/
def Action.Withdrawn (index : Nat) (actions : List Action) : Prop :=
  (actions.takeWhile (!·.settles index)).any (·.withdraws index)

/-- What becomes of the job at a place: the first action that runs or cancels it decides. -/
def Job.after (index : Nat) (actions : List Action) : Job :=
  match actions.find? (·.settles index) with
  | none => .queued
  | some (.cancelJob _) => .cancelled
  | some _ => .finished

theorem Job.after_of_waits {index : Nat} {actions : List Action}
    (h : ∀ action ∈ actions, action.settles index = false) : Job.after index actions = .queued := by
  have hf : actions.find? (·.settles index) = none := List.find?_eq_none.2 (by simpa using h)
  rw [after, hf]

theorem Job.after_append {index : Nat} {before : List Action}
    (h : ∀ action ∈ before, action.settles index = false) (rest : List Action) :
    Job.after index (before ++ .runJob index :: rest) = .finished ∧
      Job.after index (before ++ .cancelJob index :: rest) = .cancelled := by
  have hf (action : Action) (hs : action.settles index = true) :
      (before ++ action :: rest).find? (·.settles index) = some action :=
    List.find?_eq_some_iff_append.2 ⟨hs, before, rest, rfl, by simpa using h⟩
  rw [after, after, hf (.runJob index) (by simp [Action.settles]),
    hf (.cancelJob index) (by simp [Action.settles])]
  exact ⟨rfl, rfl⟩

theorem Action.withdrawn_of_waits {index : Nat} {actions : List Action}
    (h : ∀ action ∈ actions, action.settles index = false) :
    Withdrawn index actions ↔ actions.any (·.withdraws index) = true := by
  rw [Withdrawn, List.takeWhile_eq_self_iff.2 (by simpa using h)]

theorem Action.withdrawn_append {index : Nat} {before : List Action}
    (h : ∀ action ∈ before, action.settles index = false) {action : Action}
    (hs : action.settles index = true) (rest : List Action) :
    Withdrawn index (before ++ action :: rest) ↔ before.any (·.withdraws index) = true := by
  rw [Withdrawn, List.takeWhile_append_of_pos (by simpa using h),
    List.takeWhile_cons_of_neg (by simp [hs]), List.append_nil]

theorem Promise.settle_eq_cancelled_iff (promise : Promise)
    (result : Except ReplyError CallResult) :
    (promise.settle result).1 = cancelled ↔ promise = cancelled := by
  cases promise with
  | pending => cases result <;> simp [settle]
  | _ => simp [settle]

theorem Ticket.promise_withdrawn {ticket : Ticket} (h : ticket.promise = .pending) (index : Nat)
    (actions : List Action) : (ticket.withdrawn index actions).promise =
      if actions.any (·.withdraws index) then .cancelled else .pending := by
  rw [withdrawn, h]
  rfl

theorem Settlement.next_promise_abandoned {ticket : Ticket} (reason : TransportError)
    (place : Option Nat) (h : ticket.promise = .pending ∨ ticket.promise = .cancelled) :
    (abandoned reason place ticket).next.promise = .cancelled ∨
      (abandoned reason place ticket).next.promise = .fulfilled ticket.purpose.failed := by
  have hnext : (abandoned reason place ticket).next.promise =
      (ticket.promise.settle (.ok ticket.purpose.failed)).1 := by
    rw [← Purpose.handle_error]
    rfl
  rw [hnext]
  rcases h with h | h <;> simp [h, Promise.settle]

/-- What has become of a call after further actions: its ticket, and what was settled for it. -/
structure Call.Handled (call : Call) (index : Nat) (later : List Action) (ticket : Ticket)
    (settled : List Settlement) : Prop where
  purpose : ticket.purpose = call.purpose
  job : ticket.job = .after index later
  once : settled.length = if ticket.job = .queued then 0 else 1
  result : ∀ settlement ∈ settled, settlement.ticket.purpose = call.purpose ∧
    settlement.next = ticket ∧ settlement.counts.length ≤ 1
  failed : ticket.job = .cancelled → ∀ settlement ∈ settled, settlement.posts = [] ∧
    settlement.counts = [⟨Handling.transportFailures, call.purpose.operationTags⟩]
  pending_iff : ticket.promise = .pending ↔ ticket.job = .queued ∧ ¬ Action.Withdrawn index later
  cancelled_iff : ticket.promise = .cancelled ↔ Action.Withdrawn index later
  failure : ticket.job = .cancelled →
    ticket.promise = .cancelled ∨ ticket.promise = .fulfilled call.purpose.failed

theorem Call.handled_of_waits {call : Call} {index : Nat} {ticket : Ticket}
    (hj : ticket.job = .queued) (hp : ticket.promise = .pending)
    (hpurpose : ticket.purpose = call.purpose) {later : List Action}
    (hno : ∀ action ∈ later, action.settles index = false) :
    call.Handled index later (ticket.withdrawn index later) [] where
  purpose := hpurpose
  job := hj.trans (Job.after_of_waits hno).symm
  once := (if_pos hj).symm
  result := by simp
  failed := by simp
  pending_iff := by
    have hjob : (ticket.withdrawn index later).job = .queued := hj
    rw [Ticket.promise_withdrawn hp, Action.withdrawn_of_waits hno]
    split
    · next hw => simp [hw]
    · next hw => simp [hw, hjob]
  cancelled_iff := by
    rw [Ticket.promise_withdrawn hp, Action.withdrawn_of_waits hno]
    split
    · next hw => simp [hw]
    · next hw => simp [hw]
  failure := by
    intro hc
    cases hc.symm.trans hj

theorem Call.handled_of_settles {call : Call} {index : Nat} {ticket : Ticket}
    (hp : ticket.promise = .pending) (hpurpose : ticket.purpose = call.purpose)
    {before : List Action} (hno : ∀ action ∈ before, action.settles index = false)
    {action : Action} {settlement : Settlement}
    (hticket : settlement.ticket = ticket.withdrawn index before)
    (hkind : action = .runJob index ∧ settlement.job = .finished ∨
      action = .cancelJob index ∧
        settlement = .abandoned .withdrawn (some index) (ticket.withdrawn index before))
    (rest : List Action) :
    call.Handled index (before ++ action :: rest) settlement.next [settlement] := by
  have hs : action.settles index = true := by
    rcases hkind with ⟨rfl, -⟩ | ⟨rfl, -⟩ <;> simp [Action.settles]
  have hown : settlement.ticket.purpose = call.purpose := by
    rw [hticket]
    exact hpurpose
  have hpromise : settlement.ticket.promise =
      if before.any (·.withdraws index) then .cancelled else .pending := by
    rw [hticket, Ticket.promise_withdrawn hp]
  have hjob : settlement.job ≠ .queued ∧
      settlement.job = .after index (before ++ action :: rest) := by
    rcases hkind with ⟨rfl, h⟩ | ⟨rfl, h⟩
    · rw [h, (Job.after_append hno rest).1]
      exact ⟨by simp, rfl⟩
    · rw [h, (Job.after_append hno rest).2]
      exact ⟨by simp [Settlement.abandoned], rfl⟩
  -- a job that is cancelled in the end was abandoned, since running it finishes it
  have hfailed (hc : settlement.job = .cancelled) :
      settlement = .abandoned .withdrawn (some index) settlement.ticket := by
    rcases hkind with ⟨-, h⟩ | ⟨-, h⟩
    · cases hc.symm.trans h
    · rw [hticket]
      exact h
  exact {
    purpose := hown
    job := hjob.2
    once := (if_neg hjob.1).symm
    result := by
      rintro found hf
      cases List.mem_singleton.1 hf
      exact ⟨hown, rfl, settlement.length_counts⟩
    failed := by
      rintro hc found hf
      cases List.mem_singleton.1 hf
      rw [hfailed hc, ← hown]
      exact ⟨rfl, Purpose.counts_error _ _⟩
    pending_iff := by
      simp [settlement.next_promise_ne_pending, Settlement.next_job, hjob.1]
    cancelled_iff := by
      rw [Action.withdrawn_append hno hs]
      refine (Promise.settle_eq_cancelled_iff _ _).trans ?_
      rw [hpromise]
      split
      · next hw => simp [hw]
      · next hw => simp [hw]
    failure := by
      intro hc
      have hopen : settlement.ticket.promise = .pending ∨
          settlement.ticket.promise = .cancelled := by
        rw [hpromise]
        split <;> simp
      have h := Settlement.next_promise_abandoned .withdrawn (some index) hopen
      rw [← hfailed hc, hown] at h
      exact h }

namespace Client

/-- A waiting call is handled as the actions that follow it say. -/
theorem handled_of_queued {client : Client} {call : Call} {index : Nat} {ticket : Ticket}
    (hq : client.queued? index = some ticket) (hp : ticket.promise = .pending)
    (hpurpose : ticket.purpose = call.purpose) (later : List Action) :
    ∃ last, (client.acts later).2.tickets[index]? = some last ∧
      call.Handled index later last (client.settledAt index later) := by
  rcases ticket_acts_of_queued hq later with ⟨hno, hlast, hnone⟩ |
    ⟨before, action, rest, settlement, rfl, hno, hlast, hone, hticket, hkind⟩
  · rw [hnone]
    exact ⟨_, hlast, Call.handled_of_waits (queued?_eq_some_iff.1 hq).2 hp hpurpose hno⟩
  · rw [hone]
    exact ⟨_, hlast, Call.handled_of_settles hp hpurpose hno hticket hkind rest⟩

/-- What holds of a call that waits while calls, runs and cancellations follow it in any order: it
is handled once, and no step on another call and no cancellation of a promise interferes. -/
structure Interleaves (client : Client) (call : Call) (later : List Action) : Prop where
  handled : ∃ ticket,
    (client.acts (.call call :: later)).2.tickets[client.tickets.length]? = some ticket ∧
      call.Handled client.tickets.length later ticket
        (client.settledAt client.tickets.length (.call call :: later))
  /-- What can be seen of a step comes of what the step settles. -/
  seen : ∀ first action rest, .call call :: later = first ++ action :: rest →
    (client.acts first).2.Reflects action ((client.acts first).2.settlement? action)
  /-- A step that settles a call records what is counted for it, and any other records nothing. -/
  recorded : ∀ first action rest, .call call :: later = first ++ action :: rest →
    (client.acts first).2.metrics.Records ((client.acts first).2.act action).2.metrics
      (((client.acts first).2.settlement? action).elim [] (·.counts))
  total : client.metrics.Records (client.acts (.call call :: later)).2.metrics
    ((client.settlements (.call call :: later)).flatMap (·.counts))
  counted : (client.acts (.call call :: later)).2.metrics =
    client.metrics.tally ((client.settlements (.call call :: later)).flatMap (·.counts))
  /-- A promise leaves the pending state at most once. -/
  closed : ∀ first rest ticket, later = first ++ rest →
    (client.acts (.call call :: first)).2.tickets[client.tickets.length]? = some ticket →
    ticket.promise ≠ .pending →
    (client.acts (.call call :: later)).2.tickets[client.tickets.length]?.map (·.promise) =
      some ticket.promise
  /-- A step on another call leaves the ticket as it is. -/
  apart : ∀ first action rest, later = first ++ action :: rest →
    action.place? ≠ some client.tickets.length →
    (client.acts (.call call :: (first ++ [action]))).2.tickets[client.tickets.length]? =
      (client.acts (.call call :: first)).2.tickets[client.tickets.length]?
  /-- Without the cancellations of promises the run posts and settles the same, and leaves the same
  client but for the promises. -/
  aside : (client.acts ((.call call :: later).filter (!·.isOnPromise))).1.flatMap (·.posts) =
      (client.acts (.call call :: later)).1.flatMap (·.posts) ∧
    (client.settlements ((.call call :: later).filter (!·.isOnPromise))).map Settlement.bare =
      (client.settlements (.call call :: later)).map Settlement.bare ∧
    (client.acts ((.call call :: later).filter (!·.isOnPromise))).2.bare =
      (client.acts (.call call :: later)).2.bare

/-- With a manual session every call that is taken on is handled exactly once when its job is
settled, and not before, whatever else is called, run or cancelled in between. -/
theorem interleaves_of_manual {client : Client} {call : Call} {letter : Letter} {purpose : Purpose}
    (hm : client.session.executor = .manual)
    (hc : (client.compose call).answer = .ok (letter, purpose)) (later : List Action) :
    client.Interleaves call later := by
  have hq := queued?_after_call hm hc
  obtain ⟨last, hlast, hhandled⟩ := handled_of_queued hq rfl (purpose_of_compose_ok hc) later
  have hsettled : client.settledAt client.tickets.length (.call call :: later) =
      (client.act (.call call)).2.settledAt client.tickets.length later :=
    settledAt_cons_of_not_settles rfl later
  exact {
    handled := ⟨last, hlast, hsettled ▸ hhandled⟩
    seen := fun first action _ _ => (client.acts first).2.act_reflects action
    recorded := fun first action _ _ => (client.acts first).2.records_act action
    total := client.records_acts _
    counted := client.metrics_acts _
    closed := by
      rintro first rest ticket rfl ht hp
      rw [← List.cons_append, acts_append]
      exact promise_acts_of_ne_pending ht hp rest
    apart := by
      rintro first action rest - ha
      obtain ⟨ticket, ht⟩ : ∃ ticket,
          (client.acts (.call call :: first)).2.tickets[client.tickets.length]? = some ticket := by
        obtain ⟨ticket, ht, -⟩ := handled_of_queued hq rfl (purpose_of_compose_ok hc) first
        exact ⟨ticket, ht⟩
      rw [← List.cons_append, acts_append, ht]
      exact ticket_act_of_ne ha ht
    aside := ⟨client.posts_without_cancelPromise _, (client.acts_without_cancelPromise _).2,
      (client.acts_without_cancelPromise _).1⟩ }

theorem interleaves_byHand :
    let call : Call := .sms (.text "+14155551234") .null (.text "123456") []
    let client := byHand [.response ⟨some 201, [], []⟩]
    (∃ letter purpose, client.session.executor = .manual ∧
      (client.compose call).answer = .ok (letter, purpose)) ∧
      client.Interleaves call [.cancelPromise 0, .call call, .cancelJob 0, .runJob 1] := by
  intro call client
  have hok : (client.compose call).answer.toOption.isSome = true := by decide +kernel
  cases hc : (client.compose call).answer with
  | error e =>
    rw [hc] at hok
    cases hok
  | ok composed => exact ⟨⟨_, _, rfl, rfl⟩, interleaves_of_manual rfl hc _⟩

end Client
end OneTimeCode
