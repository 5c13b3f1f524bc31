import OneTimeCode.Workflow
import OneTimeCode.Proofs.Verification.Settlements

/-!
# Sinks that refuse

What a client does depends on its metrics in nothing but the metrics. A sink that refuses every
count leaves the registry empty; apart from that it shows in the log only, by one error for each
count that was tried, at the place where it was tried.
-/
namespace OneTimeCode

/-- The second log is the first with an error for each of the names, in their order. -/
inductive LogComplains : List Text → List LogEntry → List LogEntry → Prop where
  | nil : LogComplains [] [] []
  | kept (entry : LogEntry) {names : List Text} {log full : List LogEntry} :
    LogComplains names log full → LogComplains names (entry :: log) (entry :: full)
  | added (name : Text) {names : List Text} {log full : List LogEntry} :
    LogComplains names log full →
      LogComplains (name :: names) log (Metrics.countFailed name :: full)

namespace LogComplains

theorem prepend {names : List Text} {log full : List LogEntry} (h : LogComplains names log full)
    (entries : List LogEntry) : LogComplains names (entries ++ log) (entries ++ full) := by
  induction entries with
  | nil => exact h
  | cons entry rest ih => exact ih.kept entry

end LogComplains

namespace Metrics

theorem count_of_broken {metrics : Metrics} (hb : metrics.sink = .broken) (name : Text)
    (tags : List Tag) : metrics.count name tags =
      ({ metrics with tried := metrics.tried ++ [name] }, [countFailed name]) := by
  rw [Metrics.count, if_pos (by rw [hb]; rfl)]

/-- A broken sink counts nothing. -/
theorem tally_of_broken {metrics : Metrics} (hb : metrics.sink = .broken) (counts : List Count) :
    (metrics.tally counts).sink = .broken ∧
      (metrics.tally counts).counters = metrics.counters := by
  induction counts generalizing metrics with
  | nil => exact ⟨hb, rfl⟩
  | cons count rest ih =>
    have hstep := count_of_broken hb count.name count.tags
    show ((metrics.count count.name count.tags).1.tally rest).sink = _ ∧
      ((metrics.count count.name count.tags).1.tally rest).counters = _
    rw [hstep]
    exact ih hb

/-- A broken sink logs an error in the place of every count. -/
theorem complains_of_broken {metrics : Metrics} (hb : metrics.sink = .broken)
    (effects : List Effect) :
    LogComplains ((Effect.counts effects).map (·.name)) (Effect.notes effects)
      (metrics.perform effects).2 := by
  induction effects generalizing metrics with
  | nil => exact .nil
  | cons effect rest ih =>
    cases effect with
    | note entry => exact (ih hb).kept entry
    | count name tags =>
      have hstep := count_of_broken hb name tags
      have hrest := @ih (metrics.count name tags).1 (by rw [hstep]; exact hb)
      show LogComplains (name :: _) _
        ((metrics.count name tags).2 ++ ((metrics.count name tags).1.perform rest).2)
      rw [hstep] at hrest ⊢
      exact hrest.added name

end Metrics

/-- The second trace is the first with an error logged for each of the names. -/
structure Trace.Complains {α : Type} (names : List Text) (first second : Trace α) : Prop where
  answer : second.answer = first.answer
  posts : second.posts = first.posts
  log : LogComplains names first.log second.log

inductive RunComplains {α : Type} : List Text → List (Trace α) → List (Trace α) → Prop where
  | nil : RunComplains [] [] []
  | cons {now later : List Text} {first second : Trace α} {rest others : List (Trace α)} :
    first.Complains now second → RunComplains later rest others →
      RunComplains (now ++ later) (first :: rest) (second :: others)

/-- What is asked of a client: an action, or a request or a report that is checked before. -/
inductive Demand where
  | act (action : Action)
  | request (request : CodeRequest)
  | report (report : ApprovalReport) (defaultContext : Json)

def Demand.action : Demand → Except WorkflowError Action
  | .act action => .ok action
  | .request given => given.call.map .call
  | .report given defaultContext => (given.call defaultContext).map .call

namespace Client

def meet (client : Client) (demand : Demand) : Trace (Except WorkflowError Answer) × Client :=
  match demand.action with
  | .error e => (⟨.error e, [], []⟩, client)
  | .ok action =>
    let (trace, next) := client.act action
    (⟨.ok trace.answer, trace.posts, trace.log⟩, next)

def meets (client : Client) : List Demand → List (Trace (Except WorkflowError Answer)) × Client
  | [] => ([], client)
  | demand :: rest =>
    let (trace, next) := client.meet demand
    let (traces, last) := next.meets rest
    (trace :: traces, last)

def counting (client : Client) (metrics : Metrics) : Client := { client with metrics }

/-- Two outcomes that differ in what is logged and counted at most. -/
structure SameButCounts {α : Type} (first second : Trace α × Client) : Prop where
  answer : first.1.answer = second.1.answer
  after : ∃ metrics, first.2 = second.2.counting metrics

theorem deliver_counting (client : Client) (metrics : Metrics) (ticket : Ticket) :
    SameButCounts ((client.counting metrics).deliver ticket) (client.deliver ticket) :=
  ⟨rfl, _, rfl⟩

theorem abandon_counting (client : Client) (metrics : Metrics) (ticket : Ticket)
    (reason : TransportError) :
    SameButCounts ((client.counting metrics).abandon ticket reason)
      (client.abandon ticket reason) :=
  ⟨rfl, _, rfl⟩

theorem submit_counting (client : Client) (metrics : Metrics) (ticket : Ticket) :
    SameButCounts ((client.counting metrics).submit ticket) (client.submit ticket) := by
  by_cases hm : client.session.executor = .manual
  · rw [submit_of_manual hm, @submit_of_manual (client.counting metrics) hm]
    exact ⟨rfl, metrics, rfl⟩
  · rw [submit_of_ne_manual hm, @submit_of_ne_manual (client.counting metrics) hm]
    by_cases ha : client.session.executor.accepts = true
    · rw [if_pos ha, @if_pos ((client.counting metrics).session.executor.accepts = true) _ ha]
      exact client.deliver_counting metrics ticket
    · rw [if_neg ha, @if_neg ((client.counting metrics).session.executor.accepts = true) _ ha]
      exact client.abandon_counting metrics ticket .shutDown

theorem compose_counting (client : Client) (metrics : Metrics) (call : Call) :
    (client.counting metrics).compose call = client.compose call := by
  cases call <;> rfl

theorem call_counting (client : Client) (metrics : Metrics) (call : Call) :
    SameButCounts ((client.counting metrics).call call) (client.call call) := by
  have hsame := client.compose_counting metrics call
  cases hc : (client.compose call).answer with
  | error e =>
    rw [call_of_compose_error hc, call_of_compose_error (hsame ▸ hc)]
    exact ⟨rfl, metrics, rfl⟩
  | ok composed =>
    obtain ⟨letter, purpose⟩ := composed
    rw [call_of_compose_ok hc, call_of_compose_ok (hsame ▸ hc)]
    obtain ⟨hanswer, hafter⟩ := client.submit_counting metrics { letter, purpose }
    exact ⟨congrArg (fun ticket => Except.ok ticket.promise) hanswer, hafter⟩

theorem record_counting (index : Nat) {first second : Trace Ticket × Client}
    (h : SameButCounts first second) :
    SameButCounts (record index first) (record index second) := by
  obtain ⟨hanswer, metrics, hafter⟩ := h
  obtain ⟨⟨answer, posts, log⟩, after⟩ := first
  cases hanswer
  cases hafter
  exact ⟨rfl, metrics, rfl⟩

theorem onTicket_counting (client : Client) (metrics : Metrics) (index : Nat)
    {act : Client → Nat → Ticket → Trace Answer × Client}
    (h : ∀ ticket, SameButCounts (act (client.counting metrics) index ticket)
      (act client index ticket)) :
    SameButCounts ((client.counting metrics).onTicket index act) (client.onTicket index act) := by
  unfold onTicket
  rw [show (client.counting metrics).tickets = client.tickets from rfl]
  split
  · exact h _
  · exact ⟨rfl, metrics, rfl⟩

/-- With other metrics a client answers the same, and afterwards only its metrics differ. -/
theorem act_counting (client : Client) (metrics : Metrics) (action : Action) :
    SameButCounts ((client.counting metrics).act action) (client.act action) := by
  cases action with
  | close => exact ⟨rfl, metrics, rfl⟩
  | cancelPromise index =>
    exact client.onTicket_counting metrics index fun _ => ⟨rfl, metrics, rfl⟩
  | runJob index =>
    apply client.onTicket_counting metrics index
    intro ticket
    unfold runJob
    split
    · exact record_counting index (client.deliver_counting metrics ticket)
    · exact ⟨rfl, metrics, rfl⟩
  | cancelJob index =>
    apply client.onTicket_counting metrics index
    intro ticket
    unfold cancelJob
    split
    · exact record_counting index (client.abandon_counting metrics ticket .withdrawn)
    · exact ⟨rfl, metrics, rfl⟩
    · exact ⟨rfl, metrics, rfl⟩
  | call call =>
    obtain ⟨hanswer, hafter⟩ := client.call_counting metrics call
    constructor
    · simp only [act, hanswer]
    · exact hafter

theorem settlement?_counting (client : Client) (metrics : Metrics) (action : Action) :
    (client.counting metrics).settlement? action = client.settlement? action := by
  cases action with
  | call call => cases call <;> rfl
  | _ => rfl

theorem composing_counting (client : Client) (metrics : Metrics) (action : Action) :
    (client.counting metrics).composing action = client.composing action := by
  cases action with
  | call call => exact congrArg (·.log) (client.compose_counting metrics call)
  | _ => rfl

def countsOf (client : Client) (action : Action) : List Count :=
  (client.settlement? action).elim [] (·.counts)

/-- A client met something by the first outcome, and by the second with metrics whose sink refused
all the counts. -/
structure CountsLost {α : Type} (client : Client) (lost : Metrics) (counts : List Count)
    (first second : Trace α × Client) : Prop where
  trace : first.1.Complains (counts.map (·.name)) second.1
  metrics : first.2.metrics = client.metrics.tally counts
  after : second.2 = first.2.counting (lost.tally counts)

theorem act_countsLost {client : Client} (hw : client.metrics.sink = .working) {lost : Metrics}
    (hb : lost.sink = .broken) (action : Action) :
    client.CountsLost lost (client.countsOf action) (client.act action)
      ((client.counting lost).act action) := by
  have hkept := client.act_reflects action
  have hlost := (client.counting lost).act_reflects action
  rw [settlement?_counting] at hlost
  obtain ⟨hanswer, metrics, hafter⟩ := client.act_counting lost action
  have heffects := Settlement.counts_effects? (client.settlement? action)
  refine ⟨⟨hanswer, hlost.posts.trans hkept.posts.symm, ?_⟩, client.metrics_act action, ?_⟩
  · rw [hkept.log, hlost.log, composing_counting, Metrics.perform_snd_of_working hw, countsOf,
      ← heffects]
    exact (Metrics.complains_of_broken hb _).prepend _
  · have hmetrics : metrics = lost.tally (client.countsOf action) := by
      rw [countsOf, ← heffects, ← Metrics.perform_fst]
      exact (congrArg (·.metrics) hafter).symm.trans hlost.metrics
    rw [hafter, hmetrics]

theorem meet_countsLost {client : Client} (hw : client.metrics.sink = .working) {lost : Metrics}
    (hb : lost.sink = .broken) (demand : Demand) : ∃ counts,
    client.CountsLost lost counts (client.meet demand) ((client.counting lost).meet demand) := by
  unfold meet
  cases demand.action with
  | error e => exact ⟨[], ⟨rfl, rfl, .nil⟩, rfl, rfl⟩
  | ok action =>
    obtain ⟨⟨hanswer, hposts, hlog⟩, hmetrics, hafter⟩ := act_countsLost hw hb action
    exact ⟨_, ⟨congrArg Except.ok hanswer, hposts, hlog⟩, hmetrics, hafter⟩

/-- Over a run the counts of the single steps add up. -/
theorem meets_countsLost {client : Client} (hw : client.metrics.sink = .working) {lost : Metrics}
    (hb : lost.sink = .broken) (demands : List Demand) : ∃ counts : List Count,
    RunComplains (counts.map (·.name)) (client.meets demands).1
        ((client.counting lost).meets demands).1 ∧
      (client.meets demands).2.metrics = client.metrics.tally counts ∧
      ((client.counting lost).meets demands).2 =
        (client.meets demands).2.counting (lost.tally counts) := by
  induction demands generalizing client lost with
  | nil => exact ⟨[], .nil, rfl, rfl⟩
  | cons demand rest ih =>
    obtain ⟨now, htrace, hmetrics, hafter⟩ := meet_countsLost hw hb demand
    have hwnext : (client.meet demand).2.metrics.sink = .working := by
      rw [hmetrics]
      exact (Metrics.tally_of_working hw now).1
    obtain ⟨later, hrun, hlast, hend⟩ := ih hwnext (Metrics.tally_of_broken hb now).1
    rw [← hafter] at hrun hend
    rw [hmetrics] at hlast
    refine ⟨now ++ later, ?_, ?_, ?_⟩
    · rw [List.map_append]
      exact .cons htrace hrun
    · rw [Metrics.tally_append]
      exact hlast
    · rw [Metrics.tally_append]
      exact hend

end Client

/-- A working sink has one in the registry for every name that was tried. -/
theorem Metrics.count_tally_of_working (counts : List Count) (name : Text) :
    (({ sink := .working } : Metrics).tally counts).counters.count name [] =
      (counts.map (·.name)).count name := by
  have hsame (count : Count) : (decide (count.key.name = name) && count.key.carries []) =
      (count.name == name) := by
    rw [show count.key.carries [] = true from rfl, Bool.and_true, beq_eq_decide]
    rfl
  rw [(tally_of_working rfl counts).2, Counters.count_eq_total, Counters.total_addAll_ones,
    List.count, List.countP_map]
  simp only [hsame]
  exact Int.zero_add _

namespace Client

/-- With a sink that refuses every count a client meets the same demands by the same answers,
refusals and posts, and comes to the same state. It tries the counts that a working sink records,
in their order, keeps none of them, and logs one error more for each, in the place where it was
tried. -/
theorem meets_alike_of_broken (client : Client) (demands : List Demand) :
    let kept := (client.counting { sink := .working }).meets demands
    let lost := (client.counting { sink := .broken }).meets demands
    RunComplains kept.2.metrics.tried kept.1 lost.1 ∧
      lost.2.metrics.tried = kept.2.metrics.tried ∧
      lost.2.metrics.counters = .empty ∧
      (∀ name, kept.2.metrics.counters.count name [] = kept.2.metrics.tried.count name) ∧
      lost.2.counting kept.2.metrics = kept.2 := by
  intro kept lost
  obtain ⟨counts, hrun, hkept, hlost⟩ :=
    @meets_countsLost (client.counting { sink := .working }) rfl { sink := .broken } rfl demands
  have htried : kept.2.metrics.tried = counts.map (·.name) :=
    (congrArg Metrics.tried hkept).trans (Metrics.tried_tally ..)
  have hmetrics : lost.2.metrics = ({ sink := .broken } : Metrics).tally counts :=
    congrArg Client.metrics hlost
  refine ⟨htried ▸ hrun, ?_, ?_, ?_, ?_⟩
  · rw [hmetrics, htried]
    exact Metrics.tried_tally ..
  · rw [hmetrics]
    exact (Metrics.tally_of_broken rfl counts).2
  · intro name
    rw [htried, show kept.2.metrics = _ from hkept]
    exact Metrics.count_tally_of_working counts name
  · rw [show lost.2 = _ from hlost]
    rfl

end Client
end OneTimeCode
