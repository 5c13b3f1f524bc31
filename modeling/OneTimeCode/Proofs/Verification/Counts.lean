import OneTimeCode.Verification.Metrics
import OneTimeCode.Proofs.Counter.Registry
import OneTimeCode.Proofs.Counter.Tags
import OneTimeCode.Proofs.Verification.Verdict

/-!
# What handlings count

Of all effects only counts change the metrics. Handling an answer counts at most once: a failure of
the transport under the operation, a failed request for a code under what the response says about
it, a confirmation under its context and platform and, unless the response approves, under what went
wrong. A response that overflows counts nothing.
-/
namespace OneTimeCode
open Text

structure Count where
  name : Text
  tags : List Tag

def Count.key (count : Count) : CounterKey := .ofTags count.name count.tags

theorem Counters.total_addAll_ones (counters : Counters) (p : CounterKey → Bool)
    (counts : List Count) : (counters.addAll (counts.map fun count => (count.key, 1))).total p =
      counters.total p + counts.countP fun count => p count.key := by
  rw [total_addAll, List.filter_map, List.map_map, List.countP_eq_length_filter]
  simp [Function.comp_def]

namespace Effect

def counted? : Effect → Option Count
  | note _ => none
  | count name tags => some ⟨name, tags⟩

def noted? : Effect → Option LogEntry
  | note entry => some entry
  | count _ _ => none

def counts (effects : List Effect) : List Count := effects.filterMap counted?

def notes (effects : List Effect) : List LogEntry := effects.filterMap noted?

theorem counts_append (first second : List Effect) :
    counts (first ++ second) = counts first ++ counts second := List.filterMap_append

theorem counts_notes (log : List LogEntry) : counts (log.map .note) = [] := by
  rw [counts, List.filterMap_map]
  exact List.filterMap_eq_nil_iff.2 fun _ _ => rfl

end Effect

namespace Sink

/-- The counts that the sink keeps if so many were tried before them. -/
def kept (sink : Sink) (tried : Nat) : List Count → List Count
  | [] => []
  | count :: rest =>
    if sink.refuses tried then sink.kept (tried + 1) rest
    else count :: sink.kept (tried + 1) rest

theorem kept_of_working (tried : Nat) (counts : List Count) :
    working.kept tried counts = counts := by
  induction counts generalizing tried with
  | nil => rfl
  | cons count rest ih => exact congrArg (count :: ·) (ih (tried + 1))

end Sink

namespace Metrics

def tally (metrics : Metrics) (counts : List Count) : Metrics :=
  counts.foldl (fun sofar count => (sofar.count count.name count.tags).1) metrics

theorem tally_append (metrics : Metrics) (first second : List Count) :
    metrics.tally (first ++ second) = (metrics.tally first).tally second := List.foldl_append

theorem tried_tally (metrics : Metrics) (counts : List Count) :
    (metrics.tally counts).tried = metrics.tried ++ counts.map (·.name) := by
  induction counts generalizing metrics with
  | nil => exact (List.append_nil _).symm
  | cons count rest ih =>
    have hnow : (metrics.count count.name count.tags).1.tried = metrics.tried ++ [count.name] := by
      unfold Metrics.count
      split <;> rfl
    show ((metrics.count count.name count.tags).1.tally rest).tried = _
    rw [ih, hnow, List.append_assoc]
    rfl

/-- Only the counts among the effects change the metrics. -/
theorem perform_fst (metrics : Metrics) (effects : List Effect) :
    (metrics.perform effects).1 = metrics.tally (Effect.counts effects) := by
  induction effects generalizing metrics with
  | nil => rfl
  | cons effect rest ih =>
    cases effect with
    | note entry => exact ih metrics
    | count name tags => exact ih (metrics.count name tags).1

theorem count_of_working {metrics : Metrics} (hw : metrics.sink = .working) (name : Text)
    (tags : List Tag) : metrics.count name tags = ({ metrics with
      counters := metrics.counters.add (.ofTags name tags) 1, tried := metrics.tried ++ [name] },
      []) := by
  rw [Metrics.count, if_neg (by rw [hw]; simp [Sink.working])]
  rfl

theorem sink_tally (metrics : Metrics) (counts : List Count) :
    (metrics.tally counts).sink = metrics.sink := by
  induction counts generalizing metrics with
  | nil => rfl
  | cons count rest ih =>
    have hnow : (metrics.count count.name count.tags).1.sink = metrics.sink := by
      unfold Metrics.count
      split <;> rfl
    exact (ih _).trans hnow

theorem counters_tally (metrics : Metrics) (counts : List Count) :
    (metrics.tally counts).counters = metrics.counters.addAll
      ((metrics.sink.kept metrics.tried.length counts).map fun count => (count.key, 1)) := by
  induction counts generalizing metrics with
  | nil => rfl
  | cons count rest ih =>
    show ((metrics.count count.name count.tags).1.tally rest).counters = _
    rw [ih, Sink.kept, Metrics.count]
    cases metrics.sink.refuses metrics.tried.length with
    | false =>
      simp only [Bool.false_eq_true, if_false, List.length_append, List.length_singleton,
        List.map_cons]
      rfl
    | true => simp only [if_true, List.length_append, List.length_singleton]

/-- A working sink adds one to the counter of every count. -/
theorem tally_of_working {metrics : Metrics} (hw : metrics.sink = .working) (counts : List Count) :
    (metrics.tally counts).sink = .working ∧
      (metrics.tally counts).counters =
        metrics.counters.addAll (counts.map fun count => (count.key, 1)) := by
  rw [sink_tally, counters_tally, hw, Sink.kept_of_working]
  exact ⟨rfl, rfl⟩

/-- The later metrics are the earlier ones after these counts and no others: the name of each was
tried, in this order, and the counter of each that was kept is greater by one. -/
structure Records (earlier later : Metrics) (counts : List Count) : Prop where
  sink : later.sink = earlier.sink
  tried : later.tried = earlier.tried ++ counts.map (·.name)
  counters : later.counters = earlier.counters.addAll
    ((earlier.sink.kept earlier.tried.length counts).map fun count => (count.key, 1))
  sums : ∀ p : CounterKey → Bool, later.counters.total p = earlier.counters.total p +
    (earlier.sink.kept earlier.tried.length counts).countP fun count => p count.key
  working : earlier.sink = .working → earlier.sink.kept earlier.tried.length counts = counts

theorem records_tally (metrics : Metrics) (counts : List Count) :
    metrics.Records (metrics.tally counts) counts where
  sink := metrics.sink_tally counts
  tried := metrics.tried_tally counts
  counters := metrics.counters_tally counts
  sums := fun p => by rw [metrics.counters_tally, Counters.total_addAll_ones]
  working := fun hw => by rw [hw, Sink.kept_of_working]

/-- A working sink logs nothing of its own. -/
theorem perform_snd_of_working {metrics : Metrics} (hw : metrics.sink = .working)
    (effects : List Effect) : (metrics.perform effects).2 = Effect.notes effects := by
  induction effects generalizing metrics with
  | nil => rfl
  | cons effect rest ih =>
    cases effect with
    | note entry => exact congrArg (entry :: ·) (ih hw)
    | count name tags =>
      have hstep := count_of_working hw name tags
      show (metrics.count name tags).2 ++ ((metrics.count name tags).1.perform rest).2 = _
      rw [ih (by rw [hstep, hw]), hstep]
      rfl

end Metrics

namespace Response

/-- A failure is counted under this text: the number that a member of the body stands for, or else
the fallback. -/
def Shows (response : Response) (name fallback shown : Text) : Prop :=
  (∃ n, response.HasNumber name n ∧ shown = Integer.text n) ∨
    (¬ ∃ n, response.HasNumber name n) ∧ shown = fallback

theorem shows_iff {response : Response} {name : Text} {found : Option Int}
    (h : ∀ n, found = some n ↔ response.HasNumber name n) {fallback shown : Text} :
    response.Shows name fallback shown ↔ shown = (found.map Integer.text).getD fallback := by
  simp only [Shows, ← h]
  cases found <;> simp

instance (response : Response) (name fallback shown : Text) :
    Decidable (response.Shows name fallback shown) :=
  have h (n : Int) : (Reply.numberMember name response.members.1).toOption.join = some n ↔
      response.HasNumber name n := by
    rw [← numberMember_eq_some_iff]
    cases Reply.numberMember name response.members.1 <;> simp [Except.toOption]
  decidable_of_iff _ (shows_iff h).symm

def failureTags (status code : Text) : List Tag :=
  [("service", "verify"), ("statusCode", status), ("errorCode", code)]

end Response

namespace Purpose
open Handling

def counts (purpose : Purpose) (answer : Except TransportError Response) : List Count :=
  Effect.counts (purpose.handle answer).effects

def operation : Purpose → Text
  | code _ => "send"
  | approval _ _ => "approve"

def operationTags (purpose : Purpose) : List Tag := [("operation", purpose.operation)]

theorem counts_error (purpose : Purpose) (error : TransportError) :
    purpose.counts (.error error) = [⟨transportFailures, purpose.operationTags⟩] := by
  cases purpose <;> rfl

theorem counts_code (destination : Json) (response : Response) :
    (code destination).counts (.ok response) =
      Effect.counts (ofResponse response (sendReply destination)).effects := rfl

theorem counts_approval (agent context : Json) (response : Response) :
    (approval agent context).counts (.ok response) =
      Effect.counts (ofResponse response (confirmReply agent context)).effects := rfl

theorem counts_ofResponse {α : Type} (response : Response) (next : Reply → List Effect × α) :
    Effect.counts (ofResponse response next).effects = match response.reading.reply with
      | .error _ => []
      | .ok reply => Effect.counts (next reply).1 := by
  unfold ofResponse
  cases hr : response.reading.reply with
  | error e =>
    simp only [hr, Effect.counts_append, Effect.counts_notes]
    rfl
  | ok reply => simp only [hr, Effect.counts_append, Effect.counts_notes, List.nil_append]

theorem counts_of_overflows (purpose : Purpose) {response : Response} (h : response.Overflows) :
    purpose.counts (.ok response) = [] := by
  have hr : response.reading.reply = .error .infiniteNumber := by
    rcases Response.reading_reply_of_fails h.fails with ⟨-, hr⟩ | ⟨ho, -⟩
    · exact hr
    · exact absurd h ho
  cases purpose with
  | code destination => rw [counts_code, counts_ofResponse, hr]
  | approval agent context => rw [counts_approval, counts_ofResponse, hr]

theorem counts_code_of_succeeds (destination : Json) {response : Response}
    (h : response.Succeeds) : (code destination).counts (.ok response) = [] := by
  obtain ⟨id, status, hr, -⟩ := Response.reading_reply_of_succeeds h
  rw [counts_code, counts_ofResponse, hr]
  rfl

/-- A request for a code that failed is counted with the status and the code of the body, as far as
the body tells them. -/
theorem counts_code_of_fails (destination : Json) {response : Response} (h : ¬ response.Succeeds)
    (ho : ¬ response.Overflows) : ∃ status code,
      (∀ shown, response.Shows "status" (Integer.text response.http) shown ↔ shown = status) ∧
      (∀ shown, response.Shows "code" "unknown" shown ↔ shown = code) ∧
      (Purpose.code destination).counts (.ok response) =
        [⟨failedRequests, Response.failureTags status code⟩] := by
  obtain ⟨-, status, code, message, hr, hstatus, hcode⟩ :=
    (Response.reading_reply_of_fails h).resolve_left fun hover => ho hover.1
  refine ⟨_, _, fun _ => Response.shows_iff hstatus, fun _ => Response.shows_iff hcode, ?_⟩
  rw [counts_code, counts_ofResponse, hr]
  cases status <;> cases code <;> rfl

theorem counts_approval_of_approves (agent context : Json) {response : Response}
    (h : response.Approves) : (approval agent context).counts (.ok response) =
      [⟨verifications, approvalTags agent context⟩] := by
  obtain ⟨id, status, hr, -, ha⟩ := Response.reading_reply_of_succeeds h.succeeds
  rw [counts_approval, counts_ofResponse, hr, ha.2 h]
  rfl

/-- A confirmation that is not approved is counted with what the response says about it. -/
theorem counts_approval_of_not_approves (agent context : Json) {response : Response}
    (h : ¬ response.Approves) (ho : ¬ response.Overflows) :
    ∃ code status, (approval agent context).counts (.ok response) =
      [⟨verifications, approvalTags agent context ++ refusalTags code status⟩] := by
  rw [counts_approval, counts_ofResponse]
  by_cases hs : response.Succeeds
  · obtain ⟨id, status, hr, -, ha⟩ := Response.reading_reply_of_succeeds hs
    have hn : (Reply.success id status response.http).isApproved = false :=
      decide_eq_false fun he => h (ha.1 he)
    rw [hr]
    refine ⟨unknown, Integer.text response.http, ?_⟩
    simp only [confirmReply, hn]
    rfl
  · obtain ⟨-, status, code, message, hr, -⟩ :=
      (Response.reading_reply_of_fails hs).resolve_left fun hover => ho hover.1
    rw [hr]
    exact ⟨_, _, rfl⟩

theorem length_counts_le_one (purpose : Purpose) (answer : Except TransportError Response) :
    (purpose.counts answer).length ≤ 1 := by
  cases answer with
  | error e => simp [counts_error]
  | ok response =>
    by_cases ho : response.Overflows
    · simp [counts_of_overflows purpose ho]
    · cases purpose with
      | code destination =>
        by_cases hs : response.Succeeds
        · simp [counts_code_of_succeeds destination hs]
        · obtain ⟨status, code, -, -, hc⟩ := counts_code_of_fails destination hs ho
          simp [hc]
      | approval agent context =>
        by_cases ha : response.Approves
        · simp [counts_approval_of_approves agent context ha]
        · obtain ⟨code, status, hc⟩ := counts_approval_of_not_approves agent context ha ho
          simp [hc]

end Purpose
end OneTimeCode
