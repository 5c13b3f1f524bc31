import OneTimeCode.Verification.Client
import OneTimeCode.Proofs.Transport.Deciding
import OneTimeCode.Proofs.Verification.Verdict

/-!
# Tickets under actions

An action changes at most the ticket that it is about, and a promise that is no longer pending stays
as it is in every run. What becomes of a pending promise when its job is settled depends on the
outcome that decides the job, and on nothing else.
-/
namespace OneTimeCode

namespace Promise

theorem settle_of_ne_pending {promise : Promise} (h : promise ≠ pending)
    (result : Except ReplyError CallResult) : (promise.settle result).1 = promise := by
  cases promise with
  | pending => exact absurd rfl h
  | _ => rfl

theorem cancel_of_ne_pending {promise : Promise} (h : promise ≠ pending) :
    promise.cancel.1 = promise := by
  cases promise with
  | pending => exact absurd rfl h
  | _ => rfl

end Promise

/-- What becomes of a pending promise when its job is settled. -/
def Purpose.resolution (purpose : Purpose) : Option Outcome → Promise
  | some (.response response) =>
    match (purpose.handle (.ok response)).result with
    | .ok value => .fulfilled value
    | .error e => .broken e
  | _ => .fulfilled purpose.failed

theorem Purpose.settle_pending (purpose : Purpose) {answer : Except TransportError Response}
    {deciding : Option Outcome}
    (h : ∀ response, answer = .ok response ↔ deciding = some (.response response)) :
    (Promise.pending.settle (purpose.handle answer).result).1 = purpose.resolution deciding := by
  cases answer with
  | error e =>
    rw [handle_error]
    unfold resolution
    split
    · next response => exact absurd ((h response).2 rfl) (by simp)
    · rfl
  | ok response =>
    rw [(h response).1 rfl, resolution]
    cases (purpose.handle (.ok response)).result <;> rfl

theorem Purpose.resolution_cases (purpose : Purpose) (deciding : Option Outcome) :
    (∃ value, purpose.resolution deciding = .fulfilled value) ∨
      ∃ error, purpose.resolution deciding = .broken error := by
  unfold resolution
  split
  · next response =>
    cases (purpose.handle (.ok response)).result with
    | ok value => exact .inl ⟨value, rfl⟩
    | error e => exact .inr ⟨e, rfl⟩
  · exact .inl ⟨_, rfl⟩

theorem Purpose.resolution_ne_pending (purpose : Purpose) (deciding : Option Outcome) :
    purpose.resolution deciding ≠ .pending := by
  rcases purpose.resolution_cases deciding with ⟨value, h⟩ | ⟨error, h⟩ <;> simp [h]

theorem Purpose.resolution_ne_cancelled (purpose : Purpose) (deciding : Option Outcome) :
    purpose.resolution deciding ≠ .cancelled := by
  rcases purpose.resolution_cases deciding with ⟨value, h⟩ | ⟨error, h⟩ <;> simp [h]

/-- A result that is no failure comes from a response that decides. -/
theorem Purpose.resolution_eq_fulfilled_iff {purpose : Purpose} {deciding : Option Outcome}
    {value : CallResult} (hv : value ≠ purpose.failed) :
    purpose.resolution deciding = .fulfilled value ↔ ∃ response,
      deciding = some (.response response) ∧
        (purpose.handle (.ok response)).result = .ok value := by
  unfold resolution
  split
  · next response =>
    cases hr : (purpose.handle (.ok response)).result <;> simp [hr]
  · next hn =>
    constructor
    · intro h
      cases h
      exact absurd rfl hv
    · rintro ⟨response, hd, -⟩
      exact absurd hd (hn response)

def Action.place? : Action → Option Nat
  | .runJob index | .cancelJob index | .cancelPromise index => some index
  | .call _ | .close => none

namespace Client

theorem acts_cons (client : Client) (action : Action) (rest : List Action) :
    (client.acts (action :: rest)).2 = ((client.act action).2.acts rest).2 := rfl

theorem call_of_compose_error {client : Client} {call : Call} {error : RequestError}
    (h : (client.compose call).answer = .error error) :
    client.call call = (⟨.error error, [], (client.compose call).log⟩, client) := by
  simp only [Client.call, h]

theorem call_of_compose_ok {client : Client} {call : Call} {letter : Letter} {purpose : Purpose}
    (h : (client.compose call).answer = .ok (letter, purpose)) :
    client.call call =
      (⟨.ok (client.submit { letter, purpose }).1.answer.promise,
        (client.submit { letter, purpose }).1.posts,
        (client.compose call).log ++ (client.submit { letter, purpose }).1.log⟩,
        (client.submit { letter, purpose }).2) := by
  simp only [Client.call, h]

theorem act_runJob_of_queued {client : Client} {index : Nat} {ticket : Ticket}
    (ht : client.tickets[index]? = some ticket) (hj : ticket.job = .queued) :
    client.act (.runJob index) = record index (client.deliver ticket) := by
  simp only [act, onTicket, ht, runJob, hj]

theorem act_cancelJob_of_queued {client : Client} {index : Nat} {ticket : Ticket}
    (ht : client.tickets[index]? = some ticket) (hj : ticket.job = .queued) :
    client.act (.cancelJob index) = record index (client.abandon ticket .withdrawn) := by
  simp only [act, onTicket, ht, cancelJob, hj]

theorem act_runJob_of_done {client : Client} {index : Nat} {ticket : Ticket}
    (ht : client.tickets[index]? = some ticket) (hj : ticket.job ≠ .queued) :
    (client.act (.runJob index)).2 = client := by
  simp only [act, onTicket, ht, runJob]
  rfl

theorem act_cancelJob_of_done {client : Client} {index : Nat} {ticket : Ticket}
    (ht : client.tickets[index]? = some ticket) (hj : ticket.job ≠ .queued) :
    (client.act (.cancelJob index)).2 = client := by
  simp only [act, onTicket, ht, cancelJob]
  split
  · next hq => exact absurd hq hj
  · rfl
  · rfl

theorem promise_deliver (client : Client) {ticket : Ticket} (h : ticket.promise = .pending) :
    (client.deliver ticket).1.answer.promise =
      ticket.purpose.resolution (client.session.deciding? ticket.letter) := by
  show (ticket.promise.settle _).1 = _
  rw [h]
  exact ticket.purpose.settle_pending fun response =>
    client.session.answer_send_eq_ok_iff ticket.letter response

theorem promise_abandon (client : Client) {ticket : Ticket} (h : ticket.promise = .pending)
    (reason : TransportError) :
    (client.abandon ticket reason).1.answer.promise = ticket.purpose.resolution none := by
  show (ticket.promise.settle _).1 = _
  rw [h]
  exact ticket.purpose.settle_pending fun response => by simp

theorem promise_submit {client : Client} (hm : client.session.executor ≠ .manual) {ticket : Ticket}
    (h : ticket.promise = .pending) : (client.submit ticket).1.answer.promise =
      ticket.purpose.resolution (if client.session.executor.accepts then
        client.session.deciding? ticket.letter else none) := by
  unfold submit
  split
  · next he => exact absurd he hm
  · split
    · exact promise_deliver client h
    · exact promise_abandon client h _

theorem mem_posts_call {client : Client} {call : Call} {letter : Letter} {purpose : Purpose}
    (hc : (client.compose call).answer = .ok (letter, purpose)) {made : Post}
    (h : made ∈ (client.call call).1.posts) : client.session.policy.post letter = .ok made := by
  rw [call_of_compose_ok hc] at h
  simp only [submit] at h
  split at h
  · exact absurd h (by simp)
  · split at h
    · exact Session.mem_posts_send h
    · exact absurd h (by simp [abandon])

theorem tickets_call (client : Client) (call : Call) :
    ∃ more, (client.call call).2.tickets = client.tickets ++ more := by
  cases hc : (client.compose call).answer with
  | error e => exact ⟨[], by rw [call_of_compose_error hc, List.append_nil]⟩
  | ok composed =>
    rw [call_of_compose_ok hc, submit]
    split
    · exact ⟨_, rfl⟩
    · split <;> exact ⟨[], (List.append_nil _).symm⟩

/-- What an action makes of its ticket: a promise that is not pending stays as it is. -/
theorem tickets_act {client : Client} {action : Action} {index : Nat} {ticket : Ticket}
    (ha : action.place? = some index) (ht : client.tickets[index]? = some ticket) :
    ∃ next, (client.act action).2.tickets = client.tickets.set index next ∧
      (ticket.promise ≠ .pending → next.promise = ticket.promise) := by
  have hsame : client.tickets = client.tickets.set index ticket := by
    obtain ⟨hlt, rfl⟩ := List.getElem?_eq_some_iff.1 ht
    exact (List.set_getElem_self hlt).symm
  cases action with
  | call => cases ha
  | close => cases ha
  | runJob i =>
    cases ha
    by_cases hj : ticket.job = .queued
    · rw [act_runJob_of_queued ht hj]
      exact ⟨_, rfl, fun hp => Promise.settle_of_ne_pending hp _⟩
    · rw [act_runJob_of_done ht hj]
      exact ⟨ticket, hsame, fun _ => rfl⟩
  | cancelJob i =>
    cases ha
    by_cases hj : ticket.job = .queued
    · rw [act_cancelJob_of_queued ht hj]
      exact ⟨_, rfl, fun hp => Promise.settle_of_ne_pending hp _⟩
    · rw [act_cancelJob_of_done ht hj]
      exact ⟨ticket, hsame, fun _ => rfl⟩
  | cancelPromise i =>
    cases ha
    simp only [act, onTicket, ht, cancelPromise]
    exact ⟨_, rfl, fun hp => Promise.cancel_of_ne_pending hp⟩

theorem act_of_no_ticket {client : Client} {action : Action} {index : Nat}
    (ha : action.place? = some index) (ht : client.tickets[index]? = none) :
    (client.act action).2 = client := by
  cases action <;> cases ha <;> simp only [act, onTicket, ht]

theorem ticket_act_of_ne {client : Client} {action : Action} {index : Nat} {ticket : Ticket}
    (ha : action.place? ≠ some index) (ht : client.tickets[index]? = some ticket) :
    (client.act action).2.tickets[index]? = some ticket := by
  have hother (i : Nat) (hp : action.place? = some i) :
      (client.act action).2.tickets[index]? = some ticket := by
    have hne : i ≠ index := fun h => ha (h ▸ hp)
    cases hi : client.tickets[i]? with
    | none => rw [act_of_no_ticket hp hi, ht]
    | some other =>
      obtain ⟨next, hn, -⟩ := tickets_act hp hi
      rw [hn, List.getElem?_set_ne hne, ht]
  cases action with
  | call c =>
    obtain ⟨more, hm⟩ := tickets_call client c
    show (client.call c).2.tickets[index]? = _
    rw [hm, List.getElem?_append_left (List.getElem?_eq_some_iff.1 ht).1, ht]
  | close => exact ht
  | runJob i => exact hother i rfl
  | cancelJob i => exact hother i rfl
  | cancelPromise i => exact hother i rfl

/-- A promise that is not pending stays as it is in every run. -/
theorem promise_acts_of_ne_pending {client : Client} {index : Nat} {ticket : Ticket}
    (ht : client.tickets[index]? = some ticket) (hp : ticket.promise ≠ .pending)
    (later : List Action) :
    (client.acts later).2.tickets[index]?.map (·.promise) = some ticket.promise := by
  induction later generalizing client ticket with
  | nil =>
    show client.tickets[index]?.map _ = _
    rw [ht]
    rfl
  | cons action rest ih =>
    rw [acts_cons]
    by_cases ha : action.place? = some index
    · obtain ⟨next, hn, hkeep⟩ := tickets_act ha ht
      have hlt := (List.getElem?_eq_some_iff.1 ht).1
      have hnext : (client.act action).2.tickets[index]? = some next := by
        rw [hn, List.getElem?_set_self hlt]
      rw [ih hnext (hkeep hp ▸ hp), hkeep hp]
    · exact ih (ticket_act_of_ne ha ht) hp

end Client
end OneTimeCode
