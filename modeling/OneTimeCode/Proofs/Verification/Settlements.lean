import OneTimeCode.Proofs.Verification.Counts
import OneTimeCode.Proofs.Verification.Tickets

/-!
# Settlements

A client posts and counts only when it settles a ticket: it does the job of a ticket or abandons it,
and handles the answer. So what a run posts is what its settlements post, and what it leaves in the
metrics is what its settlements count, in their order.
-/
namespace OneTimeCode

/-- How a ticket was settled: what became of its job, the answer that was handled, and what the
transport posted and logged for it. A ticket has a place if it had to wait. -/
structure Settlement where
  place : Option Nat
  ticket : Ticket
  job : Job
  answer : Except TransportError Response
  posts : List Post
  log : List LogEntry

namespace Settlement

def delivered (session : Session) (place : Option Nat) (ticket : Ticket) : Settlement :=
  let delivery := (session.send ticket.letter).1
  ⟨place, ticket, .finished, delivery.answer, delivery.posts, delivery.log⟩

def abandoned (reason : TransportError) (place : Option Nat) (ticket : Ticket) : Settlement :=
  ⟨place, ticket, .cancelled, .error reason, [], []⟩

def next (settlement : Settlement) : Ticket :=
  (settlement.ticket.answer settlement.job settlement.answer).1

def effects (settlement : Settlement) : List Effect :=
  (settlement.ticket.answer settlement.job settlement.answer).2

def counts (settlement : Settlement) : List Count :=
  settlement.ticket.purpose.counts settlement.answer

theorem length_counts (settlement : Settlement) : settlement.counts.length ≤ 1 :=
  Purpose.length_counts_le_one ..

end Settlement

/-- A result that comes too late is noted and changes no count. -/
theorem Settlement.counts_effects (settlement : Settlement) :
    Effect.counts settlement.effects = settlement.counts := by
  have hlate (promise : Promise) (result : Except ReplyError CallResult) :
      Effect.counts (promise.settle result).2 = [] := by
    cases promise with
    | pending => cases result <;> rfl
    | _ => rfl
  show Effect.counts (_ ++ (settlement.ticket.promise.settle _).2) = _
  rw [Effect.counts_append, hlate, List.append_nil]
  rfl

theorem Settlement.counts_effects? (settled : Option Settlement) :
    Effect.counts (settled.elim [] (·.effects)) = settled.elim [] (·.counts) := by
  cases settled with
  | none => rfl
  | some settlement => exact settlement.counts_effects

namespace Client

theorem eq_of_connect {settings : Settings} {supported : List Text} {session : Session}
    {sink : Sink} {client : Client} (h : connect settings supported session sink = .ok client) :
    ∃ authorization, settings.authorization = .ok authorization ∧
      client = { settings, authorization, supported, session, metrics := { sink } } :=
  map_eq_ok_iff.1 h

/-- A new client has counted nothing, and nothing waits. -/
theorem metrics_of_connect {settings : Settings} {supported : List Text} {session : Session}
    {sink : Sink} {client : Client} (h : connect settings supported session sink = .ok client) :
    client.metrics = { sink } ∧ client.tickets = [] := by
  obtain ⟨authorization, -, rfl⟩ := eq_of_connect h
  exact ⟨rfl, rfl⟩

/-- The ticket at a place, if its job waits. -/
def queued? (client : Client) (index : Nat) : Option Ticket :=
  client.tickets[index]?.filter (·.job = .queued)

theorem queued?_eq_some_iff {client : Client} {index : Nat} {ticket : Ticket} :
    client.queued? index = some ticket ↔
      client.tickets[index]? = some ticket ∧ ticket.job = .queued := by
  rw [queued?, Option.filter_eq_some_iff, decide_eq_true_iff]

theorem queued?_of_done {client : Client} {index : Nat} {ticket : Ticket}
    (ht : client.tickets[index]? = some ticket) (hj : ticket.job ≠ .queued) :
    client.queued? index = none := by
  simp [queued?, ht, hj]

/-- What happens to a ticket at once when it is submitted; a manual session lets it wait. -/
def submission? (client : Client) (ticket : Ticket) : Option Settlement :=
  match client.session.executor with
  | .manual => none
  | executor =>
    some (if executor.accepts then .delivered client.session none ticket
      else .abandoned .shutDown none ticket)

def settlement? (client : Client) : Action → Option Settlement
  | .call call =>
    match (client.compose call).answer with
    | .error _ => none
    | .ok (letter, purpose) => client.submission? { letter, purpose }
  | .runJob index => (client.queued? index).map (.delivered client.session (some index))
  | .cancelJob index => (client.queued? index).map (.abandoned .withdrawn (some index))
  | .cancelPromise _ | .close => none

def settlements (client : Client) : List Action → List Settlement
  | [] => []
  | action :: rest =>
    (client.settlement? action).toList ++ (client.act action).2.settlements rest

theorem deliver_snd (client : Client) (place : Option Nat) (ticket : Ticket) :
    (client.deliver ticket).2 = { client with
      session := (client.session.send ticket.letter).2
      metrics := (client.metrics.perform
        (Settlement.delivered client.session place ticket).effects).1 } := rfl

theorem abandon_snd (client : Client) (place : Option Nat) (ticket : Ticket)
    (reason : TransportError) : (client.abandon ticket reason).2 = { client with
      metrics := (client.metrics.perform
        (Settlement.abandoned reason place ticket).effects).1 } := rfl

theorem submit_of_manual {client : Client} (h : client.session.executor = .manual)
    (ticket : Ticket) : client.submit ticket =
      (⟨ticket, [], []⟩, { client with tickets := client.tickets ++ [ticket] }) := by
  simp only [submit, h]

theorem submission?_of_manual {client : Client} (h : client.session.executor = .manual)
    (ticket : Ticket) : client.submission? ticket = none := by
  simp only [submission?, h]

theorem submit_of_ne_manual {client : Client} (h : client.session.executor ≠ .manual)
    (ticket : Ticket) : client.submit ticket =
      if client.session.executor.accepts then client.deliver ticket
      else client.abandon ticket .shutDown := by
  unfold submit
  split
  · next he => exact absurd he h
  · rfl

theorem submission?_of_ne_manual {client : Client} (h : client.session.executor ≠ .manual)
    (ticket : Ticket) : client.submission? ticket =
      some (if client.session.executor.accepts then .delivered client.session none ticket
        else .abandoned .shutDown none ticket) := by
  unfold submission?
  split
  · next he => exact absurd he h
  · rfl

theorem act_of_queued?_eq_none {client : Client} {index : Nat} (h : client.queued? index = none)
    {action : Action} (ha : action = .runJob index ∨ action = .cancelJob index) :
    ∃ answer, client.act action = (⟨answer, [], []⟩, client) := by
  cases ht : client.tickets[index]? with
  | none => rcases ha with rfl | rfl <;> exact ⟨_, by simp only [act, onTicket, ht]; rfl⟩
  | some ticket =>
    have hj : ticket.job ≠ .queued := by
      intro hj
      rw [queued?_eq_some_iff.2 ⟨ht, hj⟩] at h
      cases h
    rcases ha with rfl | rfl
    · exact ⟨_, by simp only [act, onTicket, ht, runJob]; rfl⟩
    · simp only [act, onTicket, ht, cancelJob]
      cases hc : ticket.job with
      | queued => exact absurd hc hj
      | finished => exact ⟨_, rfl⟩
      | cancelled => exact ⟨_, rfl⟩

def composing (client : Client) : Action → List LogEntry
  | .call call => (client.compose call).log
  | .runJob _ | .cancelJob _ | .cancelPromise _ | .close => []

/-- The action posts, logs and counts what comes of the settlement, and nothing else. -/
structure Reflects (client : Client) (action : Action) (settled : Option Settlement) : Prop where
  posts : (client.act action).1.posts = settled.elim [] (·.posts)
  log : (client.act action).1.log = client.composing action ++ settled.elim [] (·.log) ++
    (client.metrics.perform (settled.elim [] (·.effects))).2
  metrics : (client.act action).2.metrics =
    (client.metrics.perform (settled.elim [] (·.effects))).1

theorem reflects_of_queued?_eq_none {client : Client} {index : Nat} {action : Action}
    (h : client.queued? index = none) (ha : action = .runJob index ∨ action = .cancelJob index) :
    client.Reflects action none := by
  obtain ⟨answer, hact⟩ := act_of_queued?_eq_none h ha
  have hcomposing : client.composing action = [] := by rcases ha with rfl | rfl <;> rfl
  constructor <;> rw [hact]
  · rfl
  · rw [hcomposing]
    rfl
  · rfl

theorem submit_reflects (client : Client) (ticket : Ticket) :
    (client.submit ticket).1.posts = (client.submission? ticket).elim [] (·.posts) ∧
      (client.submit ticket).1.log = (client.submission? ticket).elim [] (·.log) ++
        (client.metrics.perform ((client.submission? ticket).elim [] (·.effects))).2 ∧
      (client.submit ticket).2.metrics =
        (client.metrics.perform ((client.submission? ticket).elim [] (·.effects))).1 := by
  by_cases hm : client.session.executor = .manual
  · rw [submit_of_manual hm, submission?_of_manual hm]
    exact ⟨rfl, rfl, rfl⟩
  · rw [submit_of_ne_manual hm, submission?_of_ne_manual hm]
    split <;> exact ⟨rfl, rfl, rfl⟩

theorem reflects_call (client : Client) (call : Call) :
    client.Reflects (.call call) (client.settlement? (.call call)) := by
  rw [settlement?]
  cases hc : (client.compose call).answer with
  | error e =>
    have hcall := call_of_compose_error hc
    have hlog : (client.call call).1.log = (client.compose call).log ++ [] ++ [] := by
      rw [hcall, List.append_nil, List.append_nil]
    exact ⟨congrArg (·.1.posts) hcall, hlog, congrArg (·.2.metrics) hcall⟩
  | ok composed =>
    obtain ⟨letter, purpose⟩ := composed
    have hcall := call_of_compose_ok hc
    obtain ⟨hposts, hlog, hmetrics⟩ := client.submit_reflects { letter, purpose }
    refine ⟨(congrArg (·.1.posts) hcall).trans hposts, (congrArg (·.1.log) hcall).trans ?_,
      (congrArg (·.2.metrics) hcall).trans hmetrics⟩
    rw [List.append_assoc, ← hlog]
    rfl

/-- Whatever an action posts, logs and counts comes of what it settles. -/
theorem act_reflects (client : Client) (action : Action) :
    client.Reflects action (client.settlement? action) := by
  cases action with
  | close => exact ⟨rfl, rfl, rfl⟩
  | cancelPromise index =>
    show client.Reflects (.cancelPromise index) none
    cases ht : client.tickets[index]? <;> constructor <;> simp only [act, onTicket, ht] <;> rfl
  | call call => exact client.reflects_call call
  | runJob index =>
    rw [settlement?]
    cases hq : client.queued? index with
    | none => exact reflects_of_queued?_eq_none hq (.inl rfl)
    | some ticket =>
      obtain ⟨ht, hj⟩ := queued?_eq_some_iff.1 hq
      constructor <;> rw [act_runJob_of_queued ht hj] <;> rfl
  | cancelJob index =>
    rw [settlement?]
    cases hq : client.queued? index with
    | none => exact reflects_of_queued?_eq_none hq (.inr rfl)
    | some ticket =>
      obtain ⟨ht, hj⟩ := queued?_eq_some_iff.1 hq
      constructor <;> rw [act_cancelJob_of_queued ht hj] <;> rfl

theorem settlement?_of_place {client : Client} {action : Action} {index : Nat}
    (ha : action.place? = some index) {settlement : Settlement}
    (hs : client.settlement? action = some settlement) :
    settlement.place = some index ∧ client.queued? index = some settlement.ticket := by
  cases action with
  | call | close => cases ha
  | cancelPromise => cases hs
  | runJob | cancelJob =>
    cases ha
    obtain ⟨ticket, hq, rfl⟩ := Option.map_eq_some_iff.1 hs
    exact ⟨rfl, hq⟩

theorem settlement?_call_cases {client : Client} {call : Call} {settlement : Settlement}
    (h : client.settlement? (.call call) = some settlement) : ∃ letter purpose,
      (client.compose call).answer = .ok (letter, purpose) ∧
      (settlement = .delivered client.session none { letter, purpose } ∨
        settlement = .abandoned .shutDown none { letter, purpose }) := by
  simp only [settlement?] at h
  cases hc : (client.compose call).answer with
  | error e => simp [hc] at h
  | ok composed =>
    obtain ⟨letter, purpose⟩ := composed
    refine ⟨letter, purpose, rfl, ?_⟩
    simp only [hc] at h
    by_cases hm : client.session.executor = .manual
    · simp [submission?_of_manual hm] at h
    · rw [submission?_of_ne_manual hm] at h
      cases h
      split
      · exact .inl rfl
      · exact .inr rfl

theorem kind_of_settlement? {client : Client} {action : Action} {settlement : Settlement}
    (h : client.settlement? action = some settlement) :
    settlement = .delivered client.session settlement.place settlement.ticket ∨
      ∃ reason, settlement = .abandoned reason settlement.place settlement.ticket := by
  cases action with
  | close | cancelPromise => cases h
  | runJob index =>
    obtain ⟨ticket, -, rfl⟩ := Option.map_eq_some_iff.1 h
    exact .inl rfl
  | cancelJob index =>
    obtain ⟨ticket, -, rfl⟩ := Option.map_eq_some_iff.1 h
    exact .inr ⟨_, rfl⟩
  | call call =>
    obtain ⟨letter, purpose, -, rfl | rfl⟩ := settlement?_call_cases h
    · exact .inl rfl
    · exact .inr ⟨_, rfl⟩

def ticketAfter (client : Client) (action : Action) (ticket : Ticket) : Ticket :=
  match client.settlement? action, action with
  | some settlement, _ => settlement.next
  | none, .cancelPromise _ => { ticket with promise := ticket.promise.cancel.1 }
  | none, _ => ticket

theorem tickets_act_eq_set {client : Client} {action : Action} {index : Nat} {ticket : Ticket}
    (ha : action.place? = some index) (ht : client.tickets[index]? = some ticket) :
    (client.act action).2.tickets =
      client.tickets.set index (client.ticketAfter action ticket) := by
  have hsame : client.tickets = client.tickets.set index ticket := by
    obtain ⟨hlt, rfl⟩ := List.getElem?_eq_some_iff.1 ht
    exact (List.set_getElem_self hlt).symm
  cases action with
  | call | close => cases ha
  | cancelPromise =>
    cases ha
    simp only [act, onTicket, ht, cancelPromise]
    rfl
  | runJob =>
    cases ha
    simp only [ticketAfter, settlement?]
    cases hq : client.queued? index with
    | none =>
      obtain ⟨answer, hact⟩ := act_of_queued?_eq_none hq (.inl rfl)
      rw [hact]
      exact hsame
    | some waiting =>
      obtain ⟨hw, hj⟩ := queued?_eq_some_iff.1 hq
      rw [act_runJob_of_queued hw hj]
      rfl
  | cancelJob =>
    cases ha
    simp only [ticketAfter, settlement?]
    cases hq : client.queued? index with
    | none =>
      obtain ⟨answer, hact⟩ := act_of_queued?_eq_none hq (.inr rfl)
      rw [hact]
      exact hsame
    | some waiting =>
      obtain ⟨hw, hj⟩ := queued?_eq_some_iff.1 hq
      rw [act_cancelJob_of_queued hw hj]
      rfl

/-- An action on one place leaves every other place alone. -/
theorem getElem?_act_of_ne {client : Client} {action : Action} {index place : Nat}
    (ha : action.place? = some index) (h : place ≠ index) :
    (client.act action).2.tickets[place]? = client.tickets[place]? := by
  cases ht : client.tickets[index]? with
  | none => rw [act_of_no_ticket ha ht]
  | some ticket => rw [tickets_act_eq_set ha ht, List.getElem?_set_ne (Ne.symm h)]

theorem ticketAfter_letter {client : Client} {action : Action} {index : Nat} {ticket : Ticket}
    (ha : action.place? = some index) (ht : client.tickets[index]? = some ticket) :
    (client.ticketAfter action ticket).letter = ticket.letter ∧
      (client.ticketAfter action ticket).purpose = ticket.purpose := by
  unfold ticketAfter
  split
  · next settlement hs =>
    have hq := (settlement?_of_place ha hs).2
    rw [queued?_eq_some_iff, ht] at hq
    cases hq.1
    exact ⟨rfl, rfl⟩
  · exact ⟨rfl, rfl⟩
  · exact ⟨rfl, rfl⟩

theorem acts_append (client : Client) (first second : List Action) :
    client.acts (first ++ second) =
      ((client.acts first).1 ++ ((client.acts first).2.acts second).1,
        ((client.acts first).2.acts second).2) := by
  induction first generalizing client with
  | nil => rfl
  | cons action rest ih => simp only [List.cons_append, acts, ih]

theorem settlements_append (client : Client) (first second : List Action) :
    client.settlements (first ++ second) =
      client.settlements first ++ (client.acts first).2.settlements second := by
  induction first generalizing client with
  | nil => rfl
  | cons action rest ih =>
    rw [List.cons_append, settlements, settlements, ih, acts_cons, List.append_assoc]

theorem flatMap_toList {α β : Type} (found : Option α) (f : α → List β) :
    found.toList.flatMap f = found.elim [] f := by
  cases found with
  | none => rfl
  | some value => exact List.append_nil _

/-- What a run posts is what its settlements post. -/
theorem posts_acts (client : Client) (actions : List Action) :
    (client.acts actions).1.flatMap (·.posts) =
      (client.settlements actions).flatMap (·.posts) := by
  induction actions generalizing client with
  | nil => rfl
  | cons action rest ih =>
    rw [settlements, List.flatMap_append, ← ih, flatMap_toList,
      ← (client.act_reflects action).posts]
    rfl

theorem metrics_act (client : Client) (action : Action) : (client.act action).2.metrics =
    client.metrics.tally ((client.settlement? action).elim [] (·.counts)) := by
  rw [(client.act_reflects action).metrics, Metrics.perform_fst, Settlement.counts_effects?]

theorem records_act (client : Client) (action : Action) : client.metrics.Records
    (client.act action).2.metrics ((client.settlement? action).elim [] (·.counts)) := by
  rw [metrics_act]
  exact client.metrics.records_tally _

/-- What a run leaves in the metrics is what its settlements count. -/
theorem metrics_acts (client : Client) (actions : List Action) :
    (client.acts actions).2.metrics =
      client.metrics.tally ((client.settlements actions).flatMap (·.counts)) := by
  induction actions generalizing client with
  | nil => rfl
  | cons action rest ih =>
    rw [acts_cons, ih, metrics_act, settlements, List.flatMap_append, flatMap_toList,
      Metrics.tally_append]

theorem records_acts (client : Client) (actions : List Action) : client.metrics.Records
    (client.acts actions).2.metrics ((client.settlements actions).flatMap (·.counts)) := by
  rw [metrics_acts]
  exact client.metrics.records_tally _

end Client
end OneTimeCode
