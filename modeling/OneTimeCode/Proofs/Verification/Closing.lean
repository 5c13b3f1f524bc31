import OneTimeCode.Proofs.Verification.Origins
import OneTimeCode.Proofs.Verification.Refusals

/-!
# Closing a client

A close stops the pool of a session, and nothing starts it again: from then on no job is taken on,
so every call that is not refused fails at once and counts as a failure of the transport. An
executor that the session was given is left alone, and then a close changes nothing but how often
the connection below was closed.
-/
namespace OneTimeCode
open Text

def Action.isClose : Action → Bool
  | .close => true
  | .call _ | .runJob _ | .cancelJob _ | .cancelPromise _ => false

theorem Action.isClose_iff {action : Action} : action.isClose = true ↔ action = .close := by
  cases action <;> simp [isClose]

def Answer.isClosed : Answer → Bool
  | .closed _ => true
  | .refused _ | .taken _ | .ticket .. | .noTicket => false

def Executor.isPool : Executor → Bool
  | .pool _ => true
  | .immediate | .refusing | .manual => false

namespace Client

/-! ## What becomes of the session -/

theorem session_act {client : Client} {action : Action} (h : action.isClose = false) :
    ∃ script, (client.act action).2.session = { client.session with script := script } := by
  have hn : action ≠ .close := fun he => Bool.eq_false_iff.1 h (Action.isClose_iff.2 he)
  obtain ⟨script, metrics, tickets, hs⟩ := client.continues_act hn
  exact ⟨script, by rw [hs]⟩

theorem closings_acts (client : Client) (actions : List Action) :
    (client.acts actions).2.session.closings =
      if client.session.closable then client.session.closings + actions.countP Action.isClose
      else client.session.closings := by
  induction actions generalizing client with
  | nil => simp [acts]
  | cons action rest ih =>
    rw [acts_cons, ih, List.countP_cons]
    cases hc : action.isClose with
    | false =>
      obtain ⟨script, hs⟩ := session_act hc
      rw [hs]
      rfl
    | true =>
      cases Action.isClose_iff.1 hc
      simp only [act, close, Session.close]
      split
      · show client.session.closings + 1 + _ = client.session.closings + (_ + 1)
        omega
      · rfl

/-! ## A pool of the session's own -/

/-- The session has a pool of its own, and so no ticket waits. -/
structure IsPooled (client : Client) (running : Bool) : Prop where
  executor : client.session.executor = .pool running
  tickets : client.tickets = []

theorem IsPooled.act {client : Client} {running : Bool} (h : client.IsPooled running)
    (action : Action) : (client.act action).2.IsPooled (running && !action.isClose) := by
  obtain ⟨he, ht⟩ := h
  constructor
  · cases hc : action.isClose with
    | false =>
      obtain ⟨script, hs⟩ := session_act hc
      rw [hs, Bool.not_false, Bool.and_true]
      exact he
    | true =>
      cases Action.isClose_iff.1 hc
      simp [Client.act, close, Session.close, he]
  · have hnone (index : Nat) (ha : action.place? = some index) :
        (client.act action).2.tickets = [] := by
      rw [act_of_no_ticket ha (by rw [ht]; rfl), ht]
    cases action with
    | close => exact ht
    | runJob index => exact hnone index rfl
    | cancelJob index => exact hnone index rfl
    | cancelPromise index => exact hnone index rfl
    | call call =>
      show (client.call call).2.tickets = []
      cases hc : (client.compose call).answer with
      | error e => rw [call_of_compose_error hc, ht]
      | ok composed =>
        rw [call_of_compose_ok hc, submit_of_ne_manual (by simp [he])]
        split <;> exact ht

theorem IsPooled.acts {client : Client} {running : Bool} (h : client.IsPooled running)
    (actions : List Action) :
    (client.acts actions).2.IsPooled (running && !actions.any Action.isClose) := by
  induction actions generalizing client running with
  | nil =>
    rw [List.any_nil, Bool.not_false, Bool.and_true]
    exact h
  | cons action rest ih =>
    rw [acts_cons, List.any_cons, Bool.not_or, ← Bool.and_assoc]
    exact ih (h.act action)

/-- In the state a call comes to nothing: it is refused for what the client refuses it for, and
otherwise fails at once, which counts as one failure of the transport. Nothing else happens. -/
structure TurnsAway (client state : Client) (call : Call) : Prop where
  refused : ∀ error, (client.call call).1.answer = .error error →
    (state.call call).1.answer = .error error ∧ (state.call call).2 = state
  failed : ∀ promise, (client.call call).1.answer = .ok promise →
    (state.call call).1.answer = .ok (.fulfilled call.purpose.failed) ∧
      state.metrics.Records (state.call call).2.metrics
        [⟨Handling.transportFailures, call.purpose.operationTags⟩] ∧
      (state.call call).2 = { state with metrics := (state.call call).2.metrics }

theorem IsPooled.call_of_compose_ok {state : Client} (h : state.IsPooled false) {call : Call}
    {letter : Letter} {purpose : Purpose}
    (hc : (state.compose call).answer = .ok (letter, purpose)) :
    (state.call call).1.answer = .ok (.fulfilled purpose.failed) ∧
      (state.call call).1.posts = [] ∧
      state.metrics.Records (state.call call).2.metrics
        [⟨Handling.transportFailures, purpose.operationTags⟩] ∧
      (state.call call).2 = { state with metrics := (state.call call).2.metrics } := by
  have hsubmit :
      state.submit { letter, purpose } = state.abandon { letter, purpose } .shutDown := by
    rw [submit_of_ne_manual (by rw [h.executor]; decide),
      if_neg (by rw [h.executor]; decide)]
  rw [Client.call_of_compose_ok hc, hsubmit]
  refine ⟨congrArg Except.ok (state.promise_abandon rfl .shutDown), rfl, ?_, rfl⟩
  rw [state.abandon_snd none, Metrics.perform_fst, Settlement.counts_effects]
  show state.metrics.Records (state.metrics.tally (purpose.counts (.error .shutDown))) _
  rw [purpose.counts_error]
  exact state.metrics.records_tally _

theorem IsPooled.posts_act {state : Client} (h : state.IsPooled false) (action : Action) :
    (state.act action).1.posts = [] := by
  have hqueued (index : Nat) : state.queued? index = none := by
    rw [queued?, h.tickets]
    rfl
  cases action with
  | close => rfl
  | cancelPromise index => exact (state.act_reflects (.cancelPromise index)).posts
  | runJob index =>
    rw [(state.act_reflects (.runJob index)).posts, settlement?, hqueued]
    rfl
  | cancelJob index =>
    rw [(state.act_reflects (.cancelJob index)).posts, settlement?, hqueued]
    rfl
  | call call =>
    show (state.call call).1.posts = []
    cases hc : (state.compose call).answer with
    | error e => rw [Client.call_of_compose_error hc]
    | ok composed => exact (h.call_of_compose_ok hc).2.1

/-- A client whose pool is stopped turns every call away. -/
theorem IsPooled.turnsAway {client state : Client} (h : state.IsPooled false) {call : Call}
    (hsame : state.compose call = client.compose call) : client.TurnsAway state call := by
  constructor
  · intro error hr
    have hcall : (state.call call).1.answer = .error error := by
      rw [answer_call_eq_error_iff, hsame, ← answer_call_eq_error_iff, hr]
    exact ⟨hcall, (call_of_refused hcall).2⟩
  · intro promise hp
    cases hc : (state.compose call).answer with
    | error e =>
      rw [hsame] at hc
      rw [answer_call_eq_error_iff.2 hc] at hp
      cases hp
    | ok composed =>
      obtain ⟨letter, purpose⟩ := composed
      cases purpose_of_compose_ok hc
      obtain ⟨ha, -, hfailed⟩ := h.call_of_compose_ok hc
      exact ⟨ha, hfailed⟩

/-! ## An executor from elsewhere -/

/-- The client whose connection was closed so often. -/
def closedTimes (client : Client) (closings : Nat) : Client :=
  { client with session := { client.session with closings := closings } }

theorem submit_closedTimes (client : Client) (n : Nat) (ticket : Ticket) :
    (client.closedTimes n).submit ticket =
      ((client.submit ticket).1, (client.submit ticket).2.closedTimes n) := by
  by_cases hm : client.session.executor = .manual
  · rw [submit_of_manual hm, @submit_of_manual (client.closedTimes n) hm]
    rfl
  · rw [submit_of_ne_manual hm, @submit_of_ne_manual (client.closedTimes n) hm,
      show (client.closedTimes n).session.executor = client.session.executor from rfl]
    split <;> rfl

theorem call_closedTimes (client : Client) (n : Nat) (call : Call) :
    (client.closedTimes n).call call =
      ((client.call call).1, (client.call call).2.closedTimes n) := by
  have hsame : (client.closedTimes n).compose call = client.compose call := by cases call <;> rfl
  cases hc : (client.compose call).answer with
  | error e =>
    rw [call_of_compose_error hc, call_of_compose_error (hsame ▸ hc), hsame]
  | ok composed =>
    obtain ⟨letter, purpose⟩ := composed
    rw [Client.call_of_compose_ok hc, Client.call_of_compose_ok (hsame ▸ hc), hsame,
      submit_closedTimes]

theorem onTicket_closedTimes (client : Client) (n index : Nat)
    {act : Client → Nat → Ticket → Trace Answer × Client}
    (h : ∀ ticket, act (client.closedTimes n) index ticket =
      ((act client index ticket).1, (act client index ticket).2.closedTimes n)) :
    (client.closedTimes n).onTicket index act =
      ((client.onTicket index act).1, (client.onTicket index act).2.closedTimes n) := by
  unfold onTicket
  rw [show (client.closedTimes n).tickets = client.tickets from rfl]
  split
  · exact h _
  · rfl

/-- Earlier closes are seen by later ones only. -/
theorem act_closedTimes (client : Client) (n : Nat) {action : Action}
    (h : action.isClose = false) : (client.closedTimes n).act action =
      ((client.act action).1, (client.act action).2.closedTimes n) := by
  cases action with
  | close => cases h
  | call call => simp only [Client.act, call_closedTimes]
  | cancelPromise index => exact client.onTicket_closedTimes n index fun _ => rfl
  | runJob index =>
    apply client.onTicket_closedTimes n index
    intro ticket
    unfold runJob
    split <;> rfl
  | cancelJob index =>
    apply client.onTicket_closedTimes n index
    intro ticket
    unfold cancelJob
    split <;> rfl

theorem isClosed_act (client : Client) (action : Action) :
    (client.act action).1.answer.isClosed = action.isClose := by
  have hticket (index : Nat) (f : Client → Nat → Ticket → Trace Answer × Client)
      (hf : ∀ ticket, (f client index ticket).1.answer.isClosed = false) :
      (client.onTicket index f).1.answer.isClosed = false := by
    unfold onTicket
    split
    · exact hf _
    · rfl
  cases action with
  | close => rfl
  | call call =>
    simp only [Client.act]
    cases (client.call call).1.answer <;> rfl
  | cancelPromise index => exact hticket index _ fun _ => rfl
  | runJob index =>
    apply hticket index
    intro ticket
    unfold runJob
    split <;> rfl
  | cancelJob index =>
    apply hticket index
    intro ticket
    unfold cancelJob
    split <;> rfl

theorem close_of_not_isPool {client : Client} (h : client.session.executor.isPool = false) :
    client.close = client.closedTimes client.close.session.closings := by
  obtain ⟨settings, authorization, supported, ⟨policy, executor, script, closable, closings⟩,
    metrics, tickets⟩ := client
  cases executor with
  | pool running => cases h
  | immediate | refusing | manual => rfl

/-- A run with an executor from elsewhere is the same run without its closes, up to how often the
connection was closed. -/
theorem acts_without_close {client : Client} (h : client.session.executor.isPool = false) (n : Nat)
    (actions : List Action) :
    (client.closedTimes n).acts (actions.filter (!·.isClose)) =
      ((client.acts actions).1.filter (!·.answer.isClosed),
        (client.acts actions).2.closedTimes n) := by
  induction actions generalizing client with
  | nil => rfl
  | cons action rest ih =>
    have hcons (client : Client) (actions : List Action) : client.acts (action :: actions) =
        ((client.act action).1 :: ((client.act action).2.acts actions).1,
          ((client.act action).2.acts actions).2) := rfl
    have hclosed := client.isClosed_act action
    cases hc : action.isClose with
    | true =>
      cases Action.isClose_iff.1 hc
      have hsame : client.close.closedTimes n = client.closedTimes n := by
        rw [close_of_not_isPool h]
        rfl
      have hnext := @ih client.close (by rw [close_of_not_isPool h]; exact h)
      rw [hsame] at hnext
      rw [List.filter_cons_of_neg (by simp [hc]), hcons,
        List.filter_cons_of_neg (by simp [hclosed, hc]), hnext]
      rfl
    | false =>
      obtain ⟨script, hs⟩ := session_act hc
      have hnext := @ih (client.act action).2 (by rw [hs]; exact h)
      rw [List.filter_cons_of_pos (by simp [hc]), hcons, hcons, act_closedTimes client n hc, hnext,
        List.filter_cons_of_pos (by simp [hclosed, hc])]

/-- Over a run the connection of a new client is closed once for each close. With a pool of its own
the client posts nothing after the first close and turns every call away. With an executor from
elsewhere the closes might as well be left out. In every state a call made of texts is refused for
an unknown channel, for a blank identifier or for one that cannot be encoded, and for nothing
else. -/
theorem close_is_final {settings : Settings} {supported : List Text} {session : Session}
    {sink : Sink} {client : Client} (h : connect settings supported session sink = .ok client)
    (actions : List Action) :
    let state := (client.acts actions).2
    (state.session.closings =
      if session.closable then session.closings + actions.countP Action.isClose
      else session.closings) ∧
    (session.executor.isPool = true → .close ∈ actions →
      (∀ action, (state.act action).1.posts = []) ∧ ∀ call, client.TurnsAway state call) ∧
    (session.executor.isPool = false → client.acts (actions.filter (!·.isClose)) =
      ((client.acts actions).1.filter (!·.answer.isClosed), state.closedTimes session.closings)) ∧
    (∀ channel destination code clientType ranges error,
      (state.call (.send (.ofTexts channel destination code clientType ranges))).1.answer =
          .error error ↔
        ¬ Channel.IsKnown channel ∧ error = .unsupportedChannel (.text channel)) ∧
    (∀ id agent context error,
      (state.call (.confirm (.ofTexts id agent context))).1.answer = .error error ↔
        trim id = [] ∧ error = .noVerificationId ∨
          ∃ fault, Percent.encode (trim id) = .error fault ∧ error = .unencodable fault) := by
  intro state
  obtain ⟨authorization, -, hclient⟩ := eq_of_connect h
  have ht : client.tickets = [] := by rw [hclient]
  obtain rfl : client.session = session := by rw [hclient]
  refine ⟨client.closings_acts actions, fun hp hclose => ?_,
    fun hp => acts_without_close hp client.session.closings actions,
    fun _ _ _ _ _ _ => refuses_send_iff, fun _ _ _ _ => refuses_confirm_iff⟩
  obtain ⟨running, he⟩ : ∃ running, client.session.executor = .pool running := by
    cases he : client.session.executor with
    | pool running => exact ⟨running, rfl⟩
    | immediate | refusing | manual =>
      rw [he] at hp
      cases hp
  have hstopped : state.IsPooled false := by
    have hstate := IsPooled.acts ⟨he, ht⟩ actions
    rwa [List.any_eq_true.2 ⟨.close, hclose, rfl⟩, Bool.not_true, Bool.and_false] at hstate
  exact ⟨hstopped.posts_act, fun call => hstopped.turnsAway (client.compose_acts actions call)⟩

theorem close_is_final_twice :
    let client := pooled [.response ⟨some 201, [], []⟩]
    let call : Call := .send (.ofTexts "sms" "+14155551234" "123456" none [])
    let state := (client.acts [.close, .call call, .close]).2
    connect .plain supportedLanguages client.session .working = .ok client ∧
      state.session.closings = 2 ∧ (state.act (.call call)).1.posts = [] ∧
      client.TurnsAway state call := by
  intro client call state
  have hfinal := close_is_final (connect_pooled [.response ⟨some 201, [], []⟩])
    [.close, .call call, .close]
  obtain ⟨hposts, hcalls⟩ := hfinal.2.1 rfl (by simp)
  exact ⟨connect_pooled _, hfinal.1, hposts (.call call), hcalls call⟩

/-- A stopped client still refuses an identifier that is half of a character, which is not blank. -/
theorem half_identifier_refused_when_closed :
    let state := ((pooled []).acts [.close]).2
    trim [.half 0] ≠ [] ∧ ∃ fault,
      (state.call (.confirm (.ofTexts [.half 0] none "registration"))).1.answer =
        .error (.unencodable fault) := by
  intro state
  refine ⟨by decide, ?_⟩
  obtain ⟨fault, hf⟩ := @Percent.encode_of_not_isEncodable (trim [.half 0]) (by decide)
  exact ⟨fault, refuses_confirm_iff.2 (.inr ⟨fault, hf, rfl⟩)⟩

end Client
end OneTimeCode
