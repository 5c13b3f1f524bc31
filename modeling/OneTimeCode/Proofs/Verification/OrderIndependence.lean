import OneTimeCode.Proofs.Verification.Course
import OneTimeCode.Proofs.Verification.Origins

/-!
# Jobs in any order

When every job has its own script, the order in which waiting jobs are run does not matter: each is
run as if it were the only one. A job leaves nothing to the others but counts, and a registry holds
the same counters whatever order it is told them in.
-/
namespace OneTimeCode

/-! ## Metrics that work -/

/-- The sink takes every count, and the registry is in order. -/
structure Metrics.IsSound (metrics : Metrics) : Prop where
  sink : metrics.sink = .working
  counters : metrics.counters.IsOrdered

namespace Metrics.IsSound

theorem tally {metrics : Metrics} (h : metrics.IsSound) (counts : List Count) :
    (metrics.tally counts).IsSound := by
  obtain ⟨hsink, hcounters⟩ := tally_of_working h.sink counts
  exact ⟨hsink, hcounters ▸ Counters.isOrdered_addAll h.counters _⟩

theorem act {client : Client} (h : client.metrics.IsSound) (action : Action) :
    (client.act action).2.metrics.IsSound := by
  rw [Client.metrics_act]
  exact h.tally _

theorem acts {client : Client} (h : client.metrics.IsSound) (actions : List Action) :
    (client.acts actions).2.metrics.IsSound := by
  rw [Client.metrics_acts]
  exact h.tally _

end Metrics.IsSound

namespace Client

theorem isSound_of_connect {settings : Settings} {supported : List Text} {session : Session}
    {client : Client} (h : connect settings supported session .working = .ok client) :
    client.metrics.IsSound := by
  rw [(metrics_of_connect h).1]
  exact ⟨rfl, Counters.isOrdered_empty⟩

/-! ## Running one job -/

def meeting (client : Client) (script : Script) : Client :=
  { client with session := { client.session with script } }

/-- Runs the job at a place on its own script. -/
def runAlone (client : Client) (scripts : Nat → Script) (index : Nat) : Trace Answer × Client :=
  (client.meeting (scripts index)).act (.runJob index)

def countsAlone (client : Client) (scripts : Nat → Script) (index : Nat) : List Count :=
  ((client.meeting (scripts index)).settlement? (.runJob index)).elim [] (·.counts)

/-- A job at that place cannot tell the clients apart: on one script they have the same session, and
the same ticket waits there. -/
structure AgreeAt (client other : Client) (index : Nat) : Prop where
  session : ∀ script, (client.meeting script).session = (other.meeting script).session
  ticket : client.tickets[index]? = other.tickets[index]?

theorem settlement?_of_agreeAt {client other : Client} {index : Nat}
    (h : client.AgreeAt other index) (scripts : Nat → Script) :
    (client.meeting (scripts index)).settlement? (.runJob index) =
      (other.meeting (scripts index)).settlement? (.runJob index) := by
  have hq : (client.meeting (scripts index)).queued? index =
      (other.meeting (scripts index)).queued? index := congrArg (Option.filter _) h.ticket
  rw [settlement?, settlement?, hq, h.session]

/-- With working sinks a job is delivered the same way by clients with the same session. -/
theorem deliver_fst_of_working {client other : Client} (hs : client.session = other.session)
    (hw : client.metrics.sink = .working) (ho : other.metrics.sink = .working) (ticket : Ticket) :
    (client.deliver ticket).1 = (other.deliver ticket).1 := by
  have htrace (each : Client) : (each.deliver ticket).1 =
      let settlement := Settlement.delivered each.session none ticket
      ⟨settlement.next, settlement.posts,
        settlement.log ++ (each.metrics.perform settlement.effects).2⟩ := rfl
  simp only [htrace, Metrics.perform_snd_of_working hw, Metrics.perform_snd_of_working ho, hs]

theorem runAlone_of_agreeAt {client other : Client} {index : Nat} (h : client.AgreeAt other index)
    (hw : client.metrics.sink = .working) (ho : other.metrics.sink = .working)
    (scripts : Nat → Script) :
    (client.runAlone scripts index).1 = (other.runAlone scripts index).1 ∧
      (client.runAlone scripts index).2.tickets[index]? =
        (other.runAlone scripts index).2.tickets[index]? := by
  cases ht : other.tickets[index]? with
  | none =>
    have ht' : (client.meeting (scripts index)).tickets[index]? = none := h.ticket.trans ht
    have hnone : (other.meeting (scripts index)).tickets[index]? = none := ht
    simp only [runAlone, act, onTicket, ht', hnone]
    trivial
  | some ticket =>
    have ht' : (client.meeting (scripts index)).tickets[index]? = some ticket := h.ticket.trans ht
    have hsome : (other.meeting (scripts index)).tickets[index]? = some ticket := ht
    by_cases hj : ticket.job = .queued
    · have hdelivered := deliver_fst_of_working (h.session (scripts index)) hw ho ticket
      have htickets (each : Client) (he : each.tickets[index]? = some ticket) :
          (record index (each.deliver ticket)).2.tickets[index]? =
            some (each.deliver ticket).1.answer :=
        List.getElem?_set_self (List.getElem?_eq_some_iff.1 he).1
      rw [runAlone, runAlone, act_runJob_of_queued ht' hj, act_runJob_of_queued hsome hj,
        htickets _ ht', htickets _ hsome, hdelivered]
      exact ⟨by rw [record, record, hdelivered], rfl⟩
    · simp only [runAlone, act, onTicket, ht', hsome, runJob]
      cases hjob : ticket.job with
      | queued => exact absurd hjob hj
      | finished => exact ⟨rfl, ht'.trans hsome.symm⟩
      | cancelled => exact ⟨rfl, ht'.trans hsome.symm⟩

/-- Running one job changes nothing that another job could tell. -/
theorem agreeAt_runAlone (client : Client) (scripts : Nat → Script) {index place : Nat}
    (h : place ≠ index) : (client.runAlone scripts index).2.AgreeAt client place where
  ticket := @getElem?_act_of_ne (client.meeting (scripts index)) (.runJob index) index place rfl h
  session := by
    intro script
    rw [runAlone]
    cases hq : (client.meeting (scripts index)).queued? index with
    | none =>
      obtain ⟨answer, hact⟩ := act_of_queued?_eq_none hq (.inl rfl)
      rw [hact]
      rfl
    | some ticket =>
      obtain ⟨ht, hj⟩ := queued?_eq_some_iff.1 hq
      rw [act_runJob_of_queued ht hj]
      rfl

theorem isSound_runAlone {client : Client} (h : client.metrics.IsSound) (scripts : Nat → Script)
    (index : Nat) : (client.runAlone scripts index).2.metrics.IsSound :=
  @Metrics.IsSound.act (client.meeting (scripts index)) h _

/-- After one job every other job is run as it would have been before. -/
theorem runAlone_after {client : Client} (h : client.metrics.IsSound) (scripts : Nat → Script)
    {index place : Nat} (hne : place ≠ index) :
    let next := (client.runAlone scripts index).2
    (next.runAlone scripts place).1 = (client.runAlone scripts place).1 ∧
      (next.runAlone scripts place).2.tickets[place]? =
        (client.runAlone scripts place).2.tickets[place]? ∧
      next.countsAlone scripts place = client.countsAlone scripts place := by
  intro next
  have hagree : next.AgreeAt client place := client.agreeAt_runAlone scripts hne
  have hsound : next.metrics.IsSound := isSound_runAlone h scripts index
  obtain ⟨htrace, hticket⟩ := runAlone_of_agreeAt hagree hsound.sink h.sink scripts
  exact ⟨htrace, hticket, by rw [countsAlone, countsAlone, settlement?_of_agreeAt hagree]⟩

/-! ## Running several -/

def runAll (client : Client) (scripts : Nat → Script) : List Nat → List (Trace Answer) × Client
  | [] => ([], client)
  | index :: rest =>
    let (trace, next) := client.runAlone scripts index
    let (traces, last) := next.runAll scripts rest
    (trace :: traces, last)

theorem runAll_cons (client : Client) (scripts : Nat → Script) (index : Nat) (rest : List Nat) :
    client.runAll scripts (index :: rest) =
      ((client.runAlone scripts index).1 ::
        ((client.runAlone scripts index).2.runAll scripts rest).1,
        ((client.runAlone scripts index).2.runAll scripts rest).2) := rfl

theorem traces_runAll {client : Client} (h : client.metrics.IsSound) (scripts : Nat → Script)
    {order : List Nat} (hn : order.Nodup) : (client.runAll scripts order).1 =
      order.map fun index => (client.runAlone scripts index).1 := by
  induction order generalizing client with
  | nil => rfl
  | cons index rest ih =>
    obtain ⟨hindex, hrest⟩ := List.nodup_cons.1 hn
    have hlater : rest.map (fun place =>
        ((client.runAlone scripts index).2.runAlone scripts place).1) =
          rest.map fun place => (client.runAlone scripts place).1 := by
      apply List.map_congr_left
      intro place hp
      exact (runAlone_after h scripts (ne_of_mem_of_not_mem hp hindex)).1
    show (client.runAlone scripts index).1 ::
      ((client.runAlone scripts index).2.runAll scripts rest).1 = _
    rw [ih (isSound_runAlone h scripts index) hrest, hlater, List.map_cons]

theorem getElem?_runAll {client : Client} (h : client.metrics.IsSound) (scripts : Nat → Script)
    {order : List Nat} (hn : order.Nodup) (place : Nat) :
    (client.runAll scripts order).2.tickets[place]? =
      if place ∈ order then (client.runAlone scripts place).2.tickets[place]?
      else client.tickets[place]? := by
  induction order generalizing client with
  | nil => rfl
  | cons index rest ih =>
    obtain ⟨hindex, hrest⟩ := List.nodup_cons.1 hn
    rw [runAll_cons, ih (isSound_runAlone h scripts index) hrest]
    by_cases he : place = index
    · subst he
      rw [if_neg hindex, if_pos List.mem_cons_self]
    · obtain ⟨-, hticket, -⟩ := runAlone_after h scripts he
      have hkept := (client.agreeAt_runAlone scripts he).ticket
      rw [hticket, hkept]
      simp only [List.mem_cons, he, false_or]

theorem counters_runAll {client : Client} (h : client.metrics.IsSound) (scripts : Nat → Script)
    {order : List Nat} (hn : order.Nodup) : (client.runAll scripts order).2.metrics.counters =
      client.metrics.counters.addAll
        ((order.flatMap (client.countsAlone scripts)).map fun count => (count.key, 1)) := by
  induction order generalizing client with
  | nil => rfl
  | cons index rest ih =>
    obtain ⟨hindex, hrest⟩ := List.nodup_cons.1 hn
    have hnow : (client.runAlone scripts index).2.metrics =
        client.metrics.tally (client.countsAlone scripts index) :=
      (client.meeting (scripts index)).metrics_act _
    have hlater : rest.flatMap ((client.runAlone scripts index).2.countsAlone scripts) =
        rest.flatMap (client.countsAlone scripts) := by
      apply List.flatMap_congr
      intro place hp
      exact (runAlone_after h scripts (ne_of_mem_of_not_mem hp hindex)).2.2
    rw [runAll_cons, ih (isSound_runAlone h scripts index) hrest, hlater, hnow,
      (Metrics.tally_of_working h.sink _).2, List.flatMap_cons, List.map_append,
      Counters.addAll_append]

theorem compose_runAll (client : Client) (scripts : Nat → Script) (order : List Nat) (call : Call) :
    (client.runAll scripts order).2.compose call = client.compose call := by
  induction order generalizing client with
  | nil => rfl
  | cons index rest ih =>
    rw [runAll_cons, ih]
    exact ((client.meeting (scripts index)).compose_act _ call).trans (by cases call <;> rfl)

/-- However the jobs that wait on a client are ordered, each is run as if it were the only one: it
answers, posts and logs the same, and leaves its ticket the same. In the end the registry holds the
same counters, and the client composes later calls as before. -/
theorem runAll_eq_of_perm {settings : Settings} {supported : List Text} {session : Session}
    {start : Client} (hs : connect settings supported session .working = .ok start)
    (before : List Action) (scripts : Nat → Script) {order other : List Nat}
    (hp : order.Perm other) (hn : order.Nodup) :
    let client := (start.acts before).2
    let first := client.runAll scripts order
    let second := client.runAll scripts other
    first.1 = order.map (fun index => (client.runAlone scripts index).1) ∧
      second.1 = other.map (fun index => (client.runAlone scripts index).1) ∧
      first.2.tickets = second.2.tickets ∧
      (∀ index ∈ order,
        first.2.tickets[index]? = (client.runAlone scripts index).2.tickets[index]?) ∧
      first.2.metrics.counters = second.2.metrics.counters ∧
      ∀ call, first.2.compose call = client.compose call ∧
        second.2.compose call = client.compose call := by
  intro client first second
  have hsound : client.metrics.IsSound := Metrics.IsSound.acts (isSound_of_connect hs) before
  have hn' : other.Nodup := hp.nodup_iff.1 hn
  refine ⟨traces_runAll hsound scripts hn, traces_runAll hsound scripts hn', ?_, ?_, ?_, ?_⟩
  · apply List.ext_getElem?
    intro index
    rw [getElem?_runAll hsound scripts hn, getElem?_runAll hsound scripts hn']
    simp only [hp.mem_iff]
  · intro index hi
    rw [getElem?_runAll hsound scripts hn, if_pos hi]
  · rw [counters_runAll hsound scripts hn, counters_runAll hsound scripts hn']
    exact Counters.addAll_perm hsound.counters ((hp.flatMap_right _).map _)
  · intro call
    exact ⟨client.compose_runAll scripts order call, client.compose_runAll scripts other call⟩

theorem runAll_swapped :
    let start := byHand []
    let client := (start.acts [.call (.sms (.text "+14155551234") .null (.text "123456") []),
      .call (.confirm ⟨.text "VE1", .null, .text "registration"⟩)]).2
    let scripts : Nat → Script
      | 0 => [.response ⟨some 404, [], []⟩]
      | _ => [.fault .readTimeout "slow"]
    let first := client.runAll scripts [0, 1]
    let second := client.runAll scripts [1, 0]
    connect .plain supportedLanguages start.session .working = .ok start ∧
      [0, 1].Perm [1, 0] ∧ first.2.metrics.counters.entries.length = 2 ∧
      first.2.metrics.counters = second.2.metrics.counters := by
  intro start client scripts first second
  have h := runAll_eq_of_perm (connect_byHand [])
    [.call (.sms (.text "+14155551234") .null (.text "123456") []),
      .call (.confirm ⟨.text "VE1", .null, .text "registration"⟩)]
    scripts (List.Perm.swap 1 0 []) (by decide)
  exact ⟨connect_byHand [], List.Perm.swap 1 0 [], by decide +kernel, h.2.2.2.2.1⟩

end Client
end OneTimeCode
