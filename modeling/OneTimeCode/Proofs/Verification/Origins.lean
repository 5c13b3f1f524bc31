import OneTimeCode.Proofs.Verification.Settlements

/-!
# Where tickets and posts come from

A client composes its letters in the same way throughout a run, and a ticket keeps its letter. So
whatever a run settles and posts belongs to a call of the run, unless it waited before.
-/
namespace OneTimeCode

def Client.Issues (client : Client) (call : Call) (ticket : Ticket) : Prop :=
  (client.compose call).answer = .ok (ticket.letter, ticket.purpose)

namespace Client

/-- Only the script, the metrics and the tickets are others. -/
def Continues (client next : Client) : Prop := ∃ script metrics tickets, next =
  { client with session := { client.session with script := script }, metrics, tickets }

theorem continues_onTicket {client : Client} {index : Nat}
    {f : Client → Nat → Ticket → Trace Answer × Client}
    (h : ∀ ticket, client.Continues (f client index ticket).2) :
    client.Continues (client.onTicket index f).2 := by
  unfold onTicket
  split
  · exact h _
  · exact ⟨_, _, _, rfl⟩

/-- Only a close changes more of the session than its script. -/
theorem continues_act (client : Client) {action : Action} (h : action ≠ .close) :
    client.Continues (client.act action).2 := by
  cases action with
  | close => exact absurd rfl h
  | cancelPromise index => exact continues_onTicket fun _ => ⟨_, _, _, rfl⟩
  | runJob index =>
    apply continues_onTicket
    intro ticket
    unfold runJob
    split <;> exact ⟨_, _, _, rfl⟩
  | cancelJob index =>
    apply continues_onTicket
    intro ticket
    unfold cancelJob
    split <;> exact ⟨_, _, _, rfl⟩
  | call call =>
    show client.Continues (client.call call).2
    cases hc : (client.compose call).answer with
    | error e =>
      rw [call_of_compose_error hc]
      exact ⟨_, _, _, rfl⟩
    | ok composed =>
      rw [call_of_compose_ok hc]
      by_cases hm : client.session.executor = .manual
      · rw [submit_of_manual hm]
        exact ⟨_, _, _, rfl⟩
      · rw [submit_of_ne_manual hm]
        split <;> exact ⟨_, _, _, rfl⟩

/-- What letters are composed with stays the same. -/
theorem constants_act (client : Client) (action : Action) :
    (client.act action).2.settings = client.settings ∧
      (client.act action).2.authorization = client.authorization ∧
      (client.act action).2.supported = client.supported := by
  by_cases h : action = .close
  · rw [h]
    exact ⟨rfl, rfl, rfl⟩
  · obtain ⟨script, metrics, tickets, hn⟩ := client.continues_act h
    rw [hn]
    exact ⟨rfl, rfl, rfl⟩

theorem policy_act (client : Client) (action : Action) :
    (client.act action).2.session.policy = client.session.policy := by
  by_cases h : action = .close
  · rw [h]
    rfl
  · obtain ⟨script, metrics, tickets, hn⟩ := client.continues_act h
    rw [hn]

theorem compose_act (client : Client) (action : Action) (call : Call) :
    (client.act action).2.compose call = client.compose call := by
  obtain ⟨hs, ha, hl⟩ := client.constants_act action
  cases call <;> simp only [compose, bestLocale, hs, ha, hl]

theorem settings_acts (client : Client) (actions : List Action) :
    (client.acts actions).2.settings = client.settings := by
  induction actions generalizing client with
  | nil => rfl
  | cons action rest ih => rw [acts_cons, ih, (client.constants_act action).1]

theorem policy_acts (client : Client) (actions : List Action) :
    (client.acts actions).2.session.policy = client.session.policy := by
  induction actions generalizing client with
  | nil => rfl
  | cons action rest ih => rw [acts_cons, ih, policy_act]

theorem compose_acts (client : Client) (actions : List Action) (call : Call) :
    (client.acts actions).2.compose call = client.compose call := by
  induction actions generalizing client with
  | nil => rfl
  | cons action rest ih => rw [acts_cons, ih, compose_act]

/-- A ticket that waits after an action was issued by it or waited before, with the same letter. -/
theorem mem_tickets_act {client : Client} {action : Action} {ticket : Ticket}
    (h : ticket ∈ (client.act action).2.tickets) :
    (∃ call, action = .call call ∧ client.Issues call ticket) ∨
      ∃ old ∈ client.tickets, old.letter = ticket.letter ∧ old.purpose = ticket.purpose := by
  have hold (hm : ticket ∈ client.tickets) :
      ∃ old ∈ client.tickets, old.letter = ticket.letter ∧ old.purpose = ticket.purpose :=
    ⟨ticket, hm, rfl, rfl⟩
  cases hp : action.place? with
  | some index =>
    right
    cases ht : client.tickets[index]? with
    | none => exact hold (act_of_no_ticket hp ht ▸ h)
    | some old =>
      rw [tickets_act_eq_set hp ht] at h
      rcases List.mem_or_eq_of_mem_set h with hm | rfl
      · exact hold hm
      · obtain ⟨hl, hpurpose⟩ := ticketAfter_letter hp ht
        exact ⟨old, List.mem_of_getElem? ht, hl.symm, hpurpose.symm⟩
  | none =>
    cases action with
    | runJob | cancelJob | cancelPromise => cases hp
    | close => exact .inr (hold h)
    | call call =>
      change ticket ∈ (client.call call).2.tickets at h
      cases hc : (client.compose call).answer with
      | error e =>
        rw [call_of_compose_error hc] at h
        exact .inr (hold h)
      | ok composed =>
        obtain ⟨letter, purpose⟩ := composed
        rw [call_of_compose_ok hc] at h
        by_cases hm : client.session.executor = .manual
        · rw [submit_of_manual hm, List.mem_append, List.mem_singleton] at h
          rcases h with h | rfl
          · exact .inr (hold h)
          · exact .inl ⟨call, rfl, hc⟩
        · rw [submit_of_ne_manual hm] at h
          right
          apply hold
          split at h <;> exact h

theorem ticket_of_settlement? {client : Client} {action : Action} {settlement : Settlement}
    (h : client.settlement? action = some settlement) :
    (∃ call, action = .call call ∧ client.Issues call settlement.ticket) ∨
      settlement.ticket ∈ client.tickets := by
  cases hp : action.place? with
  | some index =>
    obtain ⟨ht, -⟩ := queued?_eq_some_iff.1 (settlement?_of_place hp h).2
    exact .inr (List.mem_of_getElem? ht)
  | none =>
    cases action with
    | runJob | cancelJob | cancelPromise => cases hp
    | close => cases h
    | call call =>
      obtain ⟨letter, purpose, hc, rfl | rfl⟩ := settlement?_call_cases h
      · exact .inl ⟨call, rfl, hc⟩
      · exact .inl ⟨call, rfl, hc⟩

/-- Whatever a run settles was issued for one of its calls or waited before. -/
theorem origin_of_settlement {client : Client} {actions : List Action} {settlement : Settlement}
    (h : settlement ∈ client.settlements actions) :
    (∃ call, .call call ∈ actions ∧ client.Issues call settlement.ticket) ∨
      ∃ old ∈ client.tickets, old.letter = settlement.ticket.letter ∧
        old.purpose = settlement.ticket.purpose := by
  induction actions generalizing client with
  | nil => cases h
  | cons action rest ih =>
    rcases List.mem_append.1 h with hnow | hlater
    · rcases ticket_of_settlement? (Option.mem_toList.1 hnow) with ⟨call, rfl, hi⟩ | hm
      · exact .inl ⟨call, List.mem_cons_self, hi⟩
      · exact .inr ⟨_, hm, rfl, rfl⟩
    · rcases ih hlater with ⟨call, hm, hi⟩ | ⟨old, hm, hl, hp⟩
      · rw [Issues, compose_act] at hi
        exact .inl ⟨call, List.mem_cons_of_mem _ hm, hi⟩
      · rcases mem_tickets_act hm with ⟨call, rfl, hi⟩ | ⟨older, hm, hl', hp'⟩
        · rw [Issues, hl, hp] at hi
          exact .inl ⟨call, List.mem_cons_self, hi⟩
        · exact .inr ⟨older, hm, hl'.trans hl, hp'.trans hp⟩

/-- Whatever a run settles is delivered under the policy of the client, or abandoned. -/
theorem kind_of_settlement {client : Client} {actions : List Action} {settlement : Settlement}
    (h : settlement ∈ client.settlements actions) :
    (∃ session : Session, session.policy = client.session.policy ∧
      settlement = .delivered session settlement.place settlement.ticket) ∨
      ∃ reason, settlement = .abandoned reason settlement.place settlement.ticket := by
  induction actions generalizing client with
  | nil => cases h
  | cons action rest ih =>
    rcases List.mem_append.1 h with hnow | hlater
    · exact (kind_of_settlement? (Option.mem_toList.1 hnow)).imp_left fun hs => ⟨_, rfl, hs⟩
    · have hkind := ih hlater
      rwa [policy_act] at hkind

theorem posted_of_settlement {client : Client} {actions : List Action} {settlement : Settlement}
    (h : settlement ∈ client.settlements actions) {made : Post} (hm : made ∈ settlement.posts) :
    client.session.policy.post settlement.ticket.letter = .ok made := by
  rcases kind_of_settlement h with ⟨session, hp, hs⟩ | ⟨reason, hs⟩
  · rw [hs] at hm
    rw [← hp]
    exact Session.mem_posts_send hm
  · rw [hs] at hm
    cases hm

/-- Every post of a run of a fresh client is the post of a letter that one of its calls was composed
to. -/
theorem origin_of_post {client : Client} (hfresh : client.tickets = []) {actions : List Action}
    {made : Post} (hm : made ∈ (client.acts actions).1.flatMap (·.posts)) :
    ∃ call letter purpose, .call call ∈ actions ∧
      (client.compose call).answer = .ok (letter, purpose) ∧
      ∃ policy : Policy, policy.post letter = .ok made := by
  rw [posts_acts] at hm
  obtain ⟨settlement, hs, hmade⟩ := List.mem_flatMap.1 hm
  rcases origin_of_settlement hs with ⟨call, hcall, hissues⟩ | ⟨old, hold, -⟩
  · exact ⟨call, _, _, hcall, hissues, _, posted_of_settlement hs hmade⟩
  · rw [hfresh] at hold
    cases hold

end Client
end OneTimeCode
