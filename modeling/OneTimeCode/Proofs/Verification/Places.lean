import OneTimeCode.Proofs.Verification.Settlements

/-!
# The ticket at a place

The first action that runs or cancels the job at a place settles its ticket, and nothing else does.
Until then only the caller's cancellations show, in the promise; from then on the ticket stays as
its settlement left it.
-/
namespace OneTimeCode

namespace Action

def settles (index : Nat) : Action → Bool
  | .runJob i | .cancelJob i => i = index
  | .call _ | .cancelPromise _ | .close => false

def withdraws (index : Nat) : Action → Bool
  | .cancelPromise i => i = index
  | .call _ | .runJob _ | .cancelJob _ | .close => false

theorem settles_iff {index : Nat} {action : Action} :
    action.settles index = true ↔ action = .runJob index ∨ action = .cancelJob index := by
  cases action <;> simp [settles]

theorem withdraws_iff {index : Nat} {action : Action} :
    action.withdraws index = true ↔ action = .cancelPromise index := by
  cases action <;> simp [withdraws]

theorem place?_of_settles {index : Nat} {action : Action} (h : action.settles index = true) :
    action.place? = some index := by
  rcases settles_iff.1 h with rfl | rfl <;> rfl

theorem eq_cancelPromise {index : Nat} {action : Action} (hp : action.place? = some index)
    (hs : action.settles index = false) : action = .cancelPromise index := by
  cases action with
  | cancelPromise i =>
    cases hp
    rfl
  | call | close => cases hp
  | runJob | cancelJob =>
    cases hp
    simp [settles] at hs

end Action

namespace Promise

theorem cancel_cancel (promise : Promise) : promise.cancel.1.cancel.1 = promise.cancel.1 := by
  cases promise <;> rfl

theorem settle_ne_pending (promise : Promise) (result : Except ReplyError CallResult) :
    (promise.settle result).1 ≠ pending := by
  cases promise with
  | pending => cases result <;> simp [settle]
  | _ => simp [settle]

end Promise

/-- The ticket after the cancellations of its promise among the actions. -/
def Ticket.withdrawn (ticket : Ticket) (index : Nat) (actions : List Action) : Ticket :=
  { ticket with
    promise := if actions.any (·.withdraws index) then ticket.promise.cancel.1
      else ticket.promise }

theorem Ticket.withdrawn_cons (ticket : Ticket) (index : Nat) (action : Action)
    (rest : List Action) : ticket.withdrawn index (action :: rest) =
      (ticket.withdrawn index [action]).withdrawn index rest := by
  by_cases ha : action.withdraws index <;> by_cases hr : rest.any (·.withdraws index) <;>
    simp [withdrawn, ha, hr, Promise.cancel_cancel]

namespace Settlement

theorem next_promise_ne_pending (settlement : Settlement) : settlement.next.promise ≠ .pending :=
  settlement.ticket.promise.settle_ne_pending _

theorem next_job (settlement : Settlement) : settlement.next.job = settlement.job := rfl

end Settlement

namespace Client

def settledAt (client : Client) (index : Nat) (actions : List Action) : List Settlement :=
  (client.settlements actions).filter (·.place = some index)

theorem place_of_settlement? {client : Client} {action : Action} {settlement : Settlement}
    (h : client.settlement? action = some settlement) : settlement.place = action.place? := by
  cases hp : action.place? with
  | some index => exact (settlement?_of_place hp h).1
  | none =>
    cases action with
    | runJob | cancelJob | cancelPromise => cases hp
    | close => cases h
    | call call =>
      obtain ⟨letter, purpose, -, rfl | rfl⟩ := settlement?_call_cases h <;> rfl

/-- An action that does not settle a place settles no ticket there. -/
theorem settledAt_cons_of_not_settles {client : Client} {index : Nat} {action : Action}
    (h : action.settles index = false) (rest : List Action) :
    client.settledAt index (action :: rest) = (client.act action).2.settledAt index rest := by
  rw [settledAt, settlements, List.filter_append]
  have hnone : (client.settlement? action).toList.filter (·.place = some index) = [] := by
    rw [List.filter_eq_nil_iff]
    intro settlement hs
    have hs' := Option.mem_toList.1 hs
    rw [decide_eq_true_iff, place_of_settlement? hs']
    intro hp
    rw [Action.eq_cancelPromise hp h] at hs'
    cases hs'
  rw [hnone, List.nil_append]
  rfl

/-- An action that does not settle a place at most cancels the promise there. -/
theorem ticket_act_of_not_settles {client : Client} {index : Nat} {ticket : Ticket}
    (ht : client.tickets[index]? = some ticket) {action : Action}
    (h : action.settles index = false) :
    (client.act action).2.tickets[index]? = some (ticket.withdrawn index [action]) := by
  by_cases hp : action.place? = some index
  · rw [tickets_act_eq_set hp ht, List.getElem?_set_self (List.getElem?_eq_some_iff.1 ht).1,
      Action.eq_cancelPromise hp h]
    simp [ticketAfter, settlement?, Ticket.withdrawn, Action.withdraws]
  · have hw : action.withdraws index = false := by
      rw [Bool.eq_false_iff]
      intro hw
      exact hp (Action.withdraws_iff.1 hw ▸ rfl)
    rw [ticket_act_of_ne hp ht]
    simp [Ticket.withdrawn, hw]

/-- As long as nothing settles a place, only cancellations of its promise show. -/
theorem waits {client : Client} {index : Nat} {ticket : Ticket}
    (ht : client.tickets[index]? = some ticket) {actions : List Action}
    (h : ∀ action ∈ actions, action.settles index = false) :
    (client.acts actions).2.tickets[index]? = some (ticket.withdrawn index actions) ∧
      client.settledAt index actions = [] := by
  induction actions generalizing client ticket with
  | nil => exact ⟨ht, rfl⟩
  | cons action rest ih =>
    have hnow := h action List.mem_cons_self
    have hlater := ih (ticket_act_of_not_settles ht hnow) fun other hm =>
      h other (List.mem_cons_of_mem _ hm)
    rw [acts_cons, Ticket.withdrawn_cons, settledAt_cons_of_not_settles hnow]
    exact hlater

theorem act_call_of_manual {client : Client} (hm : client.session.executor = .manual) {call : Call}
    {letter : Letter} {purpose : Purpose}
    (hc : (client.compose call).answer = .ok (letter, purpose)) :
    (client.act (.call call)).2 =
      { client with tickets := client.tickets ++ [{ letter, purpose }] } := by
  show (client.call call).2 = _
  rw [call_of_compose_ok hc, submit_of_manual hm]

theorem queued?_after_call {client : Client} (hm : client.session.executor = .manual) {call : Call}
    {letter : Letter} {purpose : Purpose}
    (hc : (client.compose call).answer = .ok (letter, purpose)) :
    (client.act (.call call)).2.queued? client.tickets.length = some { letter, purpose } := by
  rw [act_call_of_manual hm hc, queued?_eq_some_iff]
  exact ⟨List.getElem?_concat_length, rfl⟩

theorem settles {client : Client} {index : Nat} {ticket : Ticket}
    (hq : client.queued? index = some ticket) {action : Action}
    (h : action.settles index = true) : ∃ settlement : Settlement,
      client.settlement? action = some settlement ∧ settlement.ticket = ticket ∧
      (client.act action).2.tickets[index]? = some settlement.next ∧
      (action = .runJob index ∧ settlement = .delivered client.session (some index) ticket ∨
        action = .cancelJob index ∧ settlement = .abandoned .withdrawn (some index) ticket) := by
  have ht := (queued?_eq_some_iff.1 hq).1
  have hnext (settlement : Settlement) (hs : client.settlement? action = some settlement) :
      (client.act action).2.tickets[index]? = some settlement.next := by
    have hafter : client.ticketAfter action ticket = settlement.next := by
      simp only [ticketAfter, hs]
    rw [tickets_act_eq_set (Action.place?_of_settles h) ht, hafter,
      List.getElem?_set_self (List.getElem?_eq_some_iff.1 ht).1]
  rcases Action.settles_iff.1 h with rfl | rfl
  · have hs : client.settlement? (.runJob index) =
        some (.delivered client.session (some index) ticket) := by rw [settlement?, hq]; rfl
    exact ⟨_, hs, rfl, hnext _ hs, .inl ⟨rfl, rfl⟩⟩
  · have hs : client.settlement? (.cancelJob index) =
        some (.abandoned .withdrawn (some index) ticket) := by rw [settlement?, hq]; rfl
    exact ⟨_, hs, rfl, hnext _ hs, .inr ⟨rfl, rfl⟩⟩

theorem settledAt_cons_of_queued?_eq_none {client : Client} {index : Nat}
    (hq : client.queued? index = none) {action : Action} (h : action.settles index = true)
    (rest : List Action) : (client.act action).2 = client ∧
      client.settledAt index (action :: rest) = client.settledAt index rest := by
  have hnone : client.settlement? action = none := by
    rcases Action.settles_iff.1 h with rfl | rfl <;> rw [settlement?, hq] <;> rfl
  obtain ⟨answer, hact⟩ := act_of_queued?_eq_none hq (Action.settles_iff.1 h)
  rw [settledAt, settlements, hnone, hact]
  exact ⟨rfl, rfl⟩

theorem settledAt_append (client : Client) (index : Nat) (first second : List Action) :
    client.settledAt index (first ++ second) =
      client.settledAt index first ++ (client.acts first).2.settledAt index second := by
  rw [settledAt, settlements_append, List.filter_append]
  rfl

theorem stays {client : Client} {index : Nat} {ticket : Ticket}
    (ht : client.tickets[index]? = some ticket) (hj : ticket.job ≠ .queued)
    (hp : ticket.promise ≠ .pending) (actions : List Action) :
    (client.acts actions).2.tickets[index]? = some ticket ∧
      client.settledAt index actions = [] := by
  induction actions generalizing client with
  | nil => exact ⟨ht, rfl⟩
  | cons action rest ih =>
    rw [acts_cons]
    cases hs : action.settles index with
    | false =>
      have hw : ticket.withdrawn index [action] = ticket := by
        simp [Ticket.withdrawn, Promise.cancel_of_ne_pending hp]
      rw [settledAt_cons_of_not_settles hs]
      exact ih (hw ▸ ticket_act_of_not_settles ht hs)
    | true =>
      obtain ⟨hact, hnone⟩ := settledAt_cons_of_queued?_eq_none (queued?_of_done ht hj) hs rest
      rw [hact, hnone]
      exact ih ht

/-- What settles a waiting ticket settles it once and for all. -/
theorem settles_for_good {client : Client} {index : Nat} {ticket : Ticket}
    (hq : client.queued? index = some ticket) {action : Action}
    (h : action.settles index = true) (rest : List Action) : ∃ settlement : Settlement,
      settlement.ticket = ticket ∧ client.settledAt index (action :: rest) = [settlement] ∧
      ((client.act action).2.acts rest).2.tickets[index]? = some settlement.next ∧
      (action = .runJob index ∧ settlement = .delivered client.session (some index) ticket ∨
        action = .cancelJob index ∧ settlement = .abandoned .withdrawn (some index) ticket) := by
  obtain ⟨settlement, hs, hticket, hnext, hkind⟩ := settles hq h
  have hjob : settlement.next.job ≠ .queued := by
    rcases hkind with ⟨-, rfl⟩ | ⟨-, rfl⟩ <;> simp [Settlement.next_job, Settlement.delivered,
      Settlement.abandoned]
  obtain ⟨hend, hlater⟩ := stays hnext hjob settlement.next_promise_ne_pending rest
  have hplace : settlement.place = some index := by
    rw [place_of_settlement? hs, Action.place?_of_settles h]
  refine ⟨settlement, hticket, ?_, hend, hkind⟩
  rw [settledAt] at hlater ⊢
  rw [settlements, hs, List.filter_append, hlater]
  simp [hplace]

/-- No run settles a place twice. -/
theorem length_settledAt_le_one (client : Client) (index : Nat) (actions : List Action) :
    (client.settledAt index actions).length ≤ 1 := by
  induction actions generalizing client with
  | nil => exact Nat.zero_le 1
  | cons action rest ih =>
    cases hs : action.settles index with
    | false =>
      rw [settledAt_cons_of_not_settles hs]
      exact ih _
    | true =>
      cases hq : client.queued? index with
      | none =>
        rw [(settledAt_cons_of_queued?_eq_none hq hs rest).2]
        exact ih client
      | some ticket =>
        obtain ⟨settlement, -, hsettled, -⟩ := settles_for_good hq hs rest
        rw [hsettled, List.length_singleton]

/-- The ticket of a waiting job after any run, and what the run settles at its place: nothing, if
nothing settles it, and otherwise once, by the first action that does. -/
theorem ticket_acts_of_queued {client : Client} {index : Nat} {ticket : Ticket}
    (hq : client.queued? index = some ticket) (later : List Action) :
    ((∀ action ∈ later, action.settles index = false) ∧
      (client.acts later).2.tickets[index]? = some (ticket.withdrawn index later) ∧
      client.settledAt index later = []) ∨
    ∃ before action rest settlement, later = before ++ action :: rest ∧
      (∀ action ∈ before, action.settles index = false) ∧
      (client.acts later).2.tickets[index]? = some settlement.next ∧
      client.settledAt index later = [settlement] ∧
      settlement.ticket = ticket.withdrawn index before ∧
      (action = .runJob index ∧ settlement.job = .finished ∨
        action = .cancelJob index ∧
          settlement = .abandoned .withdrawn (some index) (ticket.withdrawn index before)) := by
  obtain ⟨ht, hj⟩ := queued?_eq_some_iff.1 hq
  cases hf : later.find? (·.settles index) with
  | none =>
    have hno : ∀ action ∈ later, action.settles index = false := by simpa using hf
    exact .inl ⟨hno, waits ht hno⟩
  | some action =>
    right
    obtain ⟨hs, before, rest, rfl, hbefore⟩ := List.find?_eq_some_iff_append.1 hf
    have hno : ∀ action ∈ before, action.settles index = false := by simpa using hbefore
    obtain ⟨hw, hnone⟩ := waits ht hno
    have hq' : (client.acts before).2.queued? index = some (ticket.withdrawn index before) :=
      queued?_eq_some_iff.2 ⟨hw, hj⟩
    obtain ⟨settlement, hticket, hsettled, hend, hkind⟩ := settles_for_good hq' hs rest
    refine ⟨before, action, rest, settlement, rfl, hno, ?_, ?_, hticket, ?_⟩
    · rw [acts_append, acts_cons]
      exact hend
    · rw [settledAt_append, hnone, hsettled, List.nil_append]
    · rcases hkind with ⟨ha, rfl⟩ | ⟨ha, h⟩
      · exact .inl ⟨ha, rfl⟩
      · exact .inr ⟨ha, h⟩

end Client
end OneTimeCode
