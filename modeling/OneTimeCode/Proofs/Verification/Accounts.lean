import Mathlib.Data.List.Nodup
import OneTimeCode.Proofs.Verification.Course
import OneTimeCode.Proofs.Verification.Places

/-!
# Accounts of calls

An account says what a call of a run comes to. Every settlement settles the ticket of one call, and
every call is settled at most once. So what a run counts is, up to its order, what its calls count,
each of them by its course.
-/
namespace OneTimeCode

def Purpose.settledCounts (purpose : Purpose) : Option Outcome → List Count
  | some (.response response) => purpose.counts (.ok response)
  | _ => [⟨Handling.transportFailures, purpose.operationTags⟩]

theorem Purpose.counts_eq_settledCounts (purpose : Purpose)
    {answer : Except TransportError Response} {deciding : Option Outcome}
    (h : ∀ response, answer = .ok response ↔ deciding = some (.response response)) :
    purpose.counts answer = purpose.settledCounts deciding := by
  cases answer with
  | error e =>
    rw [counts_error]
    unfold settledCounts
    split
    · next response => exact absurd ((h response).2 rfl) (by simp)
    · rfl
  | ok response => rw [(h response).1 rfl, settledCounts]

def Course.counts (purpose : Purpose) : Course → List Count
  | .settled deciding => purpose.settledCounts deciding
  | .refused | .waiting => []

theorem Settlement.counts_delivered (session : Session) (place : Option Nat) (ticket : Ticket) :
    (delivered session place ticket).counts =
      ticket.purpose.settledCounts (session.deciding? ticket.letter) :=
  ticket.purpose.counts_eq_settledCounts fun response =>
    session.answer_send_eq_ok_iff ticket.letter response

theorem Settlement.counts_abandoned (reason : TransportError) (place : Option Nat)
    (ticket : Ticket) :
    (abandoned reason place ticket).counts = ticket.purpose.settledCounts none :=
  ticket.purpose.counts_eq_settledCounts fun response => by simp [abandoned]

structure Account where
  call : Call
  course : Course
  promise : Option Promise

def Account.counts (account : Account) : List Count := account.course.counts account.call.purpose

namespace Client

/-- The account of an action that is followed by others, if it is a call. -/
def account? (client : Client) (action : Action) (later : List Action) : Option Account :=
  match action with
  | .call call => some ⟨call, client.courseOf call later, client.promiseOf call later⟩
  | .runJob _ | .cancelJob _ | .cancelPromise _ | .close => none

def accounts (client : Client) : List Action → List Account
  | [] => []
  | action :: rest => (client.account? action rest).toList ++ (client.act action).2.accounts rest

/-! ## Jobs that wait -/

/-- What a run counts for the job that waits at a place. -/
def countsAt (client : Client) (actions : List Action) (index : Nat) : List Count :=
  match client.queued? index with
  | some ticket => (client.courseOfJob index ticket.letter actions).counts ticket.purpose
  | none => []

def waitingCounts (client : Client) (actions : List Action) : List Count :=
  (List.range client.tickets.length).flatMap (client.countsAt actions)

theorem courseOfJob_cons_of_not_settles {client : Client} {index : Nat} {action : Action}
    (h : action.settles index = false) (letter : Letter) (rest : List Action) :
    client.courseOfJob index letter (action :: rest) =
      (client.act action).2.courseOfJob index letter rest := by
  cases action with
  | call | close | cancelPromise => rfl
  | runJob i =>
    rw [courseOfJob, if_neg fun hi => by simp [Action.settles, hi] at h]
  | cancelJob i =>
    rw [courseOfJob, if_neg fun hi => by simp [Action.settles, hi] at h]

theorem queued?_act_of_not_settles {client : Client} {index : Nat}
    (hi : index < client.tickets.length) {action : Action} (h : action.settles index = false) :
    (client.act action).2.queued? index =
      (client.queued? index).map (·.withdrawn index [action]) := by
  have ht : client.tickets[index]? = some client.tickets[index] := List.getElem?_eq_getElem hi
  rw [queued?, queued?, ticket_act_of_not_settles ht h, ht]
  simp only [Option.filter_some, Ticket.withdrawn]
  split <;> rfl

theorem countsAt_cons_of_not_settles {client : Client} {index : Nat}
    (hi : index < client.tickets.length) {action : Action} (h : action.settles index = false)
    (rest : List Action) :
    client.countsAt (action :: rest) index = (client.act action).2.countsAt rest index := by
  rw [countsAt, countsAt, queued?_act_of_not_settles hi h]
  cases client.queued? index with
  | none => rfl
  | some ticket =>
    show (client.courseOfJob index ticket.letter (action :: rest)).counts ticket.purpose = _
    rw [courseOfJob_cons_of_not_settles h]
    rfl

/-- The action that settles a place counts what waits there, and leaves nothing to wait. -/
theorem countsAt_cons_of_settles {client : Client} {index : Nat} {action : Action}
    (h : action.settles index = true) (rest : List Action) :
    client.countsAt (action :: rest) index =
        (client.settlement? action).elim [] (·.counts) ∧
      (client.act action).2.countsAt rest index = [] := by
  cases hq : client.queued? index with
  | none =>
    have hs : client.settlement? action = none := by
      rcases Action.settles_iff.1 h with rfl | rfl <;> rw [settlement?, hq] <;> rfl
    obtain ⟨answer, hact⟩ := act_of_queued?_eq_none hq (Action.settles_iff.1 h)
    rw [hact, hs]
    simp [countsAt, hq]
  | some ticket =>
    obtain ⟨settlement, hs, -, hnext, hkind⟩ := settles hq h
    have hdone : (client.act action).2.queued? index = none := by
      rw [queued?, hnext]
      rcases hkind with ⟨-, rfl⟩ | ⟨-, rfl⟩ <;> rfl
    refine ⟨?_, by simp [countsAt, hdone]⟩
    rw [hs]
    simp only [countsAt, hq]
    rcases hkind with ⟨rfl, rfl⟩ | ⟨rfl, rfl⟩
    · rw [courseOfJob, if_pos rfl]
      exact (Settlement.counts_delivered ..).symm
    · rw [courseOfJob, if_pos rfl]
      exact (Settlement.counts_abandoned ..).symm

theorem length_tickets_act {client : Client} {action : Action} {index : Nat}
    (ha : action.place? = some index) :
    (client.act action).2.tickets.length = client.tickets.length := by
  cases ht : client.tickets[index]? with
  | none => rw [act_of_no_ticket ha ht]
  | some ticket => rw [tickets_act_eq_set ha ht, List.length_set]

/-- Where two functions differ at one member only, and the second gives nothing there, all that the
first gives is what it gives there and all that the second gives. -/
theorem flatMap_perm_of_eq_nil {α : Type} {places : List Nat} (hn : places.Nodup) {place : Nat}
    (hp : place ∈ places) {f g : Nat → List α} (hfg : ∀ i ∈ places, i ≠ place → f i = g i)
    (hg : g place = []) : (places.flatMap f).Perm (f place ++ places.flatMap g) := by
  have hsplit : places.Perm (place :: places.erase place) := List.perm_cons_erase hp
  have hrest : (places.erase place).flatMap f = (places.erase place).flatMap g := by
    apply List.flatMap_congr
    intro i hi
    exact hfg i (List.mem_of_mem_erase hi) (hn.mem_erase_iff.1 hi).1
  have hg' : (places.flatMap g).Perm ((places.erase place).flatMap g) := by
    simpa [hg] using hsplit.flatMap_right g
  have hf' : (places.flatMap f).Perm (f place ++ (places.erase place).flatMap g) := by
    simpa [hrest] using hsplit.flatMap_right f
  exact hf'.trans (hg'.symm.append_left (f place))

/-- An action on a place moves what is counted there from what waits to what is settled. -/
theorem waitingCounts_act_of_place {client : Client} {action : Action} {index : Nat}
    (ha : action.place? = some index) (rest : List Action) :
    (client.waitingCounts (action :: rest)).Perm
      ((client.settlement? action).elim [] (·.counts) ++
        (client.act action).2.waitingCounts rest) := by
  have hne (place : Nat) (h : place ≠ index) : action.settles place = false := by
    rw [Bool.eq_false_iff]
    intro hs
    rw [Action.place?_of_settles hs] at ha
    exact h (Option.some.inj ha)
  rw [waitingCounts, waitingCounts, length_tickets_act ha]
  by_cases hs : index < client.tickets.length ∧ action.settles index = true
  · obtain ⟨hnow, hnone⟩ := countsAt_cons_of_settles hs.2 rest
    rw [← hnow]
    apply flatMap_perm_of_eq_nil List.nodup_range (List.mem_range.2 hs.1) _ hnone
    intro place hp he
    exact countsAt_cons_of_not_settles (List.mem_range.1 hp) (hne place he) rest
  · have hkept : (List.range client.tickets.length).flatMap (client.countsAt (action :: rest)) =
        (List.range client.tickets.length).flatMap ((client.act action).2.countsAt rest) := by
      apply List.flatMap_congr
      intro place hp
      apply countsAt_cons_of_not_settles (List.mem_range.1 hp)
      by_cases he : place = index
      · subst he
        simpa [List.mem_range.1 hp] using hs
      · exact hne place he
    have hnone : client.settlement? action = none := by
      rw [Option.eq_none_iff_forall_ne_some]
      intro settlement hsettled
      obtain ⟨ht, -⟩ := queued?_eq_some_iff.1 (settlement?_of_place ha hsettled).2
      refine hs ⟨(List.getElem?_eq_some_iff.1 ht).1, ?_⟩
      cases hf : action.settles index with
      | true => rfl
      | false =>
        rw [Action.eq_cancelPromise ha hf] at hsettled
        cases hsettled
    rw [hkept, hnone]
    exact List.Perm.refl _

/-- An action on no place leaves what waited to be counted as before. -/
theorem waitingCounts_of_no_place {client : Client} {action : Action} (ha : action.place? = none)
    (rest : List Action) : (List.range client.tickets.length).flatMap
      ((client.act action).2.countsAt rest) = client.waitingCounts (action :: rest) := by
  apply List.flatMap_congr
  intro place hp
  have hs : action.settles place = false := by
    cases action with
    | call | close => rfl
    | runJob | cancelJob | cancelPromise => cases ha
  exact (countsAt_cons_of_not_settles (List.mem_range.1 hp) hs rest).symm

/-- A call is counted when it is settled at once, or what it counts waits with its ticket. -/
theorem waitingCounts_act_call (client : Client) (call : Call) (rest : List Action) :
    ((client.settlement? (.call call)).elim [] (·.counts) ++
        (client.act (.call call)).2.waitingCounts rest).Perm
      (client.waitingCounts (.call call :: rest) ++
        (client.courseOf call rest).counts call.purpose) := by
  have hrange := @waitingCounts_of_no_place client (.call call) rfl rest
  have hkept (htickets : (client.act (.call call)).2.tickets = client.tickets) :
      (client.act (.call call)).2.waitingCounts rest =
        client.waitingCounts (.call call :: rest) := by
    rw [waitingCounts, htickets, hrange]
  cases hc : (client.compose call).answer with
  | error e =>
    have hact : (client.act (.call call)).2 = client := congrArg (·.2) (call_of_compose_error hc)
    have hcourse : client.courseOf call rest = .refused :=
      (client.courseOf_eq_refused_iff call rest).2 ⟨e, hc⟩
    have hnone : client.settlement? (.call call) = none := by simp only [settlement?, hc]
    rw [hkept (congrArg tickets hact), hcourse, hnone]
    simp [Course.counts]
  | ok composed =>
    obtain ⟨letter, purpose⟩ := composed
    cases purpose_of_compose_ok hc
    let ticket : Ticket := { letter, purpose := call.purpose }
    have hsettled : client.settlement? (.call call) = client.submission? ticket := by
      simp only [settlement?, hc]
      rfl
    by_cases hm : client.session.executor = .manual
    · have hlength : (client.act (.call call)).2.tickets.length = client.tickets.length + 1 := by
        rw [act_call_of_manual hm hc]
        exact List.length_append
      have hlast : (client.act (.call call)).2.countsAt rest client.tickets.length =
          (client.courseOf call rest).counts call.purpose := by
        simp only [countsAt, queued?_after_call hm hc, courseOf, hc, hm]
      rw [hsettled, submission?_of_manual hm, waitingCounts, hlength, List.range_succ,
        List.flatMap_append, hrange, List.flatMap_singleton, hlast]
      exact List.Perm.refl _
    · have htickets : (client.act (.call call)).2.tickets = client.tickets := by
        have hact : (client.act (.call call)).2 = (client.submit ticket).2 :=
          congrArg (·.2) (call_of_compose_ok hc)
        rw [hact, submit_of_ne_manual hm]
        split <;> rfl
      have hcounts : (client.settlement? (.call call)).elim [] (·.counts) =
          (client.courseOf call rest).counts call.purpose := by
        rw [hsettled, submission?_of_ne_manual hm, courseOf_of_ne_manual hc hm rest]
        split
        · exact Settlement.counts_delivered ..
        · exact Settlement.counts_abandoned ..
      rw [hkept htickets, hcounts]
      exact List.perm_append_comm

/-- All that a run counts is counted for the jobs that waited when it began and for its calls. -/
theorem counts_settlements_perm (client : Client) (actions : List Action) :
    ((client.settlements actions).flatMap (·.counts)).Perm
      (client.waitingCounts actions ++ (client.accounts actions).flatMap (·.counts)) := by
  induction actions generalizing client with
  | nil =>
    have hnone : client.waitingCounts [] = [] := by
      rw [waitingCounts, List.flatMap_eq_nil_iff]
      intro index _
      rw [countsAt]
      split <;> rfl
    rw [hnone]
    exact List.Perm.refl _
  | cons action rest ih =>
    let next := (client.act action).2
    let now := (client.settlement? action).elim [] (·.counts)
    have hstep : (now ++ next.waitingCounts rest).Perm (client.waitingCounts (action :: rest) ++
        (client.account? action rest).elim [] (·.counts)) := by
      cases hp : action.place? with
      | some index =>
        have hnone : client.account? action rest = none := by cases action <;> cases hp <;> rfl
        rw [hnone, Option.elim_none, List.append_nil]
        exact (waitingCounts_act_of_place hp rest).symm
      | none =>
        cases action with
        | runJob | cancelJob | cancelPromise => cases hp
        | call call => exact client.waitingCounts_act_call call rest
        | close =>
          rw [← waitingCounts_of_no_place rfl]
          exact List.Perm.of_eq (List.append_nil _).symm
    rw [settlements, accounts, List.flatMap_append, List.flatMap_append, flatMap_toList,
      flatMap_toList]
    have hlater := (ih next).append_left now
    have hnow := hstep.append_right ((next.accounts rest).flatMap (·.counts))
    rw [List.append_assoc, List.append_assoc] at hnow
    exact hlater.trans hnow

/-- All that a run of a fresh client counts is counted for its calls. -/
theorem counts_settlements_perm_of_fresh {client : Client} (h : client.tickets = [])
    (actions : List Action) : ((client.settlements actions).flatMap (·.counts)).Perm
      ((client.accounts actions).flatMap (·.counts)) := by
  have hperm := client.counts_settlements_perm actions
  rwa [waitingCounts, h, List.length_nil, List.range_zero, List.flatMap_nil,
    List.nil_append] at hperm

end Client
end OneTimeCode
