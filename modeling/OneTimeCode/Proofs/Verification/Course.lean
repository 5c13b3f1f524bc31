import OneTimeCode.Language.Supported
import OneTimeCode.Proofs.Results
import OneTimeCode.Proofs.Verification.Tickets

/-!
# The course of a call

What a call comes to when further actions follow it: how far its job has come, and what its promise
is. The two are computed apart, the one from the session at the moment that settles the job, the
other from the tickets at the end, and agree in every run: the promise stays open while the job
waits, and afterwards it has the result that the deciding outcome means for the call, unless the
caller cancelled it.
-/
namespace OneTimeCode

/-- How far a call has come: the client refused it, its job waits, or its job is settled. Then an
outcome decided, unless there was none: the job was cancelled or not taken on, its letter could not
be encoded, or the connection failed in every attempt. -/
inductive Course where
  | refused
  | waiting
  | settled (deciding : Option Outcome)
deriving DecidableEq

def Call.purpose : Call → Purpose
  | .send call => .code call.destination
  | .confirm call => .approval call.agent call.context

/-- The promise of a call that nobody cancelled. -/
def Course.promise (purpose : Purpose) : Course → Option Promise
  | .refused => none
  | .waiting => some .pending
  | .settled deciding => some (purpose.resolution deciding)

theorem Course.promise_ne_cancelled (course : Course) (purpose : Purpose) :
    course.promise purpose ≠ some .cancelled := by
  cases course <;> simp [promise, Purpose.resolution_ne_cancelled]

namespace Client

/-- How far the job at a place comes: the first action that runs or cancels it settles it. -/
def courseOfJob (client : Client) (index : Nat) (letter : Letter) : List Action → Course
  | [] => .waiting
  | .runJob i :: rest =>
    if i = index then .settled (client.session.deciding? letter)
    else (client.act (.runJob i)).2.courseOfJob index letter rest
  | .cancelJob i :: rest =>
    if i = index then .settled none
    else (client.act (.cancelJob i)).2.courseOfJob index letter rest
  | action :: rest => (client.act action).2.courseOfJob index letter rest

/-- How far a call comes if the actions follow it. -/
def courseOf (client : Client) (call : Call) (later : List Action) : Course :=
  match (client.compose call).answer, client.session.executor with
  | .error _, _ => .refused
  | .ok (letter, _), .manual =>
    (client.act (.call call)).2.courseOfJob client.tickets.length letter later
  | .ok (letter, _), executor =>
    .settled (if executor.accepts then client.session.deciding? letter else none)

/-- The promise of a call after the actions that follow it; none if the call was refused. -/
def promiseOf (client : Client) (call : Call) (later : List Action) : Option Promise :=
  match (client.call call).1.answer, client.session.executor with
  | .error _, _ => none
  | .ok _, .manual =>
    let last := ((client.act (.call call)).2.acts later).2
    last.tickets[client.tickets.length]?.map (·.promise)
  | .ok promise, _ => some promise

/-- A pending promise of a queued job follows the course of the job, unless it is cancelled. -/
theorem promise_acts_of_queued {client : Client} {index : Nat} {ticket : Ticket}
    (ht : client.tickets[index]? = some ticket) (hj : ticket.job = .queued)
    (hp : ticket.promise = .pending) (later : List Action) :
    (client.acts later).2.tickets[index]?.map (·.promise) =
        (client.courseOfJob index ticket.letter later).promise ticket.purpose ∨
      (client.acts later).2.tickets[index]?.map (·.promise) = some .cancelled ∧
        .cancelPromise index ∈ later := by
  induction later generalizing client with
  | nil =>
    left
    show client.tickets[index]?.map _ = _
    rw [ht, Option.map_some, hp]
    rfl
  | cons action rest ih =>
    have hlt := (List.getElem?_eq_some_iff.1 ht).1
    -- once an action has settled the promise, no later one touches it
    have hclosed (next : Ticket) (hn : next.promise ≠ .pending)
        (hnext : (client.act action).2.tickets = client.tickets.set index next) :
        (client.acts (action :: rest)).2.tickets[index]?.map (·.promise) = some next.promise := by
      rw [acts_cons]
      apply promise_acts_of_ne_pending _ hn
      rw [hnext, List.getElem?_set_self hlt]
    have hsettled (deciding : Option Outcome) (next : Ticket)
        (hn : next.promise = ticket.purpose.resolution deciding)
        (hnext : (client.act action).2.tickets = client.tickets.set index next) :
        (client.acts (action :: rest)).2.tickets[index]?.map (·.promise) =
          (Course.settled deciding).promise ticket.purpose := by
      rw [hclosed next (hn ▸ ticket.purpose.resolution_ne_pending deciding) hnext, hn]
      rfl
    have hother (ha : action.place? ≠ some index) :
        (client.acts (action :: rest)).2.tickets[index]?.map (·.promise) =
            ((client.act action).2.courseOfJob index ticket.letter rest).promise ticket.purpose ∨
          (client.acts (action :: rest)).2.tickets[index]?.map (·.promise) = some .cancelled ∧
            .cancelPromise index ∈ action :: rest :=
      (ih (ticket_act_of_ne ha ht)).imp_right fun h => ⟨h.1, List.mem_cons_of_mem action h.2⟩
    cases action with
    | call c => exact hother (by simp [Action.place?])
    | close => exact hother (by simp [Action.place?])
    | runJob i =>
      rw [courseOfJob]
      split
      · next hi =>
        subst hi
        left
        apply hsettled _ _ (promise_deliver client hp)
        rw [act_runJob_of_queued ht hj]
        rfl
      · next hi => exact hother fun h => hi (Option.some.inj h)
    | cancelJob i =>
      rw [courseOfJob]
      split
      · next hi =>
        subst hi
        left
        apply hsettled _ _ (promise_abandon client hp .withdrawn)
        rw [act_cancelJob_of_queued ht hj]
        rfl
      · next hi => exact hother fun h => hi (Option.some.inj h)
    | cancelPromise i =>
      by_cases hi : i = index
      · subst hi
        right
        refine ⟨?_, List.mem_cons_self⟩
        apply hclosed { ticket with promise := .cancelled } (by simp)
        simp only [act, onTicket, ht, cancelPromise, hp, Promise.cancel]
      · exact hother fun h => hi (Option.some.inj h)

/-- A request for a code that is taken on has the letter of an order by the call's channel, in the
language that suits best. -/
theorem compose_send_eq_ok {client : Client} {call : SendCall} {letter : Letter} {purpose : Purpose}
    (h : (client.compose (.send call)).answer = .ok (letter, purpose)) :
    purpose = .code call.destination ∧ ∃ (order : CodeOrder) (fields : Named Json),
      letter = .authorized client.authorization client.settings.verificationsUrl fields ∧
      order.fields client.settings = .ok fields ∧
      Channel.ofJson? call.channel = some order.channel ∧ order.clientType = call.clientType ∧
      order.locale = ((client.bestLocale call.ranges).answer.map Json.text).getD .null := by
  unfold compose at h
  cases hc : Channel.ofJson? call.channel with
  | none => simp [hc] at h
  | some channel =>
    simp only [hc] at h
    obtain ⟨found, hfound, he⟩ := map_eq_ok_iff.1 h
    obtain ⟨fields, hf, rfl⟩ := map_eq_ok_iff.1 (mapError_eq_ok_iff.1 hfound)
    cases he
    exact ⟨rfl, _, fields, rfl, hf, rfl, rfl, rfl⟩

/-- A confirmation that is taken on has the letter of an approval at the address of its
identifier. -/
theorem compose_confirm_eq_ok {client : Client} {call : ConfirmCall} {letter : Letter}
    {purpose : Purpose} (h : (client.compose (.confirm call)).answer = .ok (letter, purpose)) :
    purpose = .approval call.agent call.context ∧ ∃ id url, call.verificationId = .ok id ∧
      client.settings.approvalUrl id = .ok url ∧
      letter = .authorized client.authorization url [("Status", .text Reply.approved)] := by
  obtain ⟨found, hfound, he⟩ := map_eq_ok_iff.1 h
  obtain ⟨id, hid, hletter⟩ := bind_eq_ok_iff.1 hfound
  obtain ⟨url, hurl, rfl⟩ := map_eq_ok_iff.1 (mapError_eq_ok_iff.1 hletter)
  cases he
  exact ⟨rfl, id, url, hid, hurl, rfl⟩

/-- A call that is taken on waits for what belongs to it. -/
theorem purpose_of_compose_ok {client : Client} {call : Call} {letter : Letter}
    {purpose : Purpose} (h : (client.compose call).answer = .ok (letter, purpose)) :
    purpose = call.purpose := by
  cases call with
  | send call => exact (compose_send_eq_ok h).1
  | confirm call => exact (compose_confirm_eq_ok h).1

/-- The promise of a call follows its course, unless the caller cancels it. -/
theorem promiseOf_eq (client : Client) (call : Call) (later : List Action) :
    client.promiseOf call later = (client.courseOf call later).promise call.purpose ∨
      client.promiseOf call later = some .cancelled ∧
        .cancelPromise client.tickets.length ∈ later := by
  unfold promiseOf courseOf
  cases hc : (client.compose call).answer with
  | error e =>
    left
    rw [call_of_compose_error hc]
    rfl
  | ok composed =>
    obtain ⟨letter, purpose⟩ := composed
    cases purpose_of_compose_ok hc
    let ticket : Ticket := { letter, purpose := call.purpose }
    have hact : (client.act (.call call)).2 = (client.submit ticket).2 := by
      show (client.call call).2 = _
      rw [call_of_compose_ok hc]
    have hnow (hm : client.session.executor ≠ .manual) :
        (client.submit ticket).1.answer.promise =
          call.purpose.resolution (if client.session.executor.accepts then
            client.session.deciding? letter else none) := promise_submit hm rfl
    rw [call_of_compose_ok hc]
    cases he : client.session.executor with
    | manual =>
      have ht : (client.act (.call call)).2.tickets[client.tickets.length]? =
          some ticket := by
        rw [hact, submit, he]
        exact List.getElem?_concat_length
      exact promise_acts_of_queued ht rfl rfl later
    | immediate => exact .inl (congrArg some (he ▸ hnow (by simp [he])))
    | pool running => exact .inl (congrArg some (he ▸ hnow (by simp [he])))
    | refusing => exact .inl (congrArg some (he ▸ hnow (by simp [he])))

theorem promiseOf_eq_fulfilled_iff {client : Client} {call : Call} {later : List Action}
    {value : CallResult} (hv : value ≠ call.purpose.failed) :
    client.promiseOf call later = some (.fulfilled value) ↔
      client.promiseOf call later ≠ some .cancelled ∧ ∃ response,
        client.courseOf call later = .settled (some (.response response)) ∧
          (call.purpose.handle (.ok response)).result = .ok value := by
  rcases client.promiseOf_eq call later with h | ⟨h, -⟩
  · rw [h]
    cases hc : client.courseOf call later with
    | refused => simp [Course.promise]
    | waiting => simp [Course.promise]
    | settled deciding =>
      simp [Course.promise, Purpose.resolution_eq_fulfilled_iff hv,
        Purpose.resolution_ne_cancelled]
  · simp [h]

theorem courseOfJob_ne_refused (client : Client) (index : Nat) (letter : Letter)
    (later : List Action) : client.courseOfJob index letter later ≠ .refused := by
  induction later generalizing client with
  | nil => simp [courseOfJob]
  | cons action rest ih =>
    cases action with
    | runJob i =>
      rw [courseOfJob]
      split
      · simp
      · exact ih _
    | cancelJob i =>
      rw [courseOfJob]
      split
      · simp
      · exact ih _
    | call c => exact ih _
    | close => exact ih _
    | cancelPromise i => exact ih _

theorem courseOf_eq_refused_iff (client : Client) (call : Call) (later : List Action) :
    client.courseOf call later = .refused ↔
      ∃ error, (client.compose call).answer = .error error := by
  unfold courseOf
  cases hc : (client.compose call).answer with
  | error e => simp
  | ok composed =>
    obtain ⟨letter, purpose⟩ := composed
    cases client.session.executor <;> simp [courseOfJob_ne_refused]

/-- Without a manual session a call is settled at once. -/
theorem courseOf_of_ne_manual {client : Client} {call : Call} {letter : Letter}
    {purpose : Purpose} (hc : (client.compose call).answer = .ok (letter, purpose))
    (hm : client.session.executor ≠ .manual) (later : List Action) :
    client.courseOf call later = .settled
      (if client.session.executor.accepts then client.session.deciding? letter else none) := by
  unfold courseOf
  rw [hc]
  cases he : client.session.executor with
  | manual => exact absurd he hm
  | _ => rfl

end Client

/-! ## A plain client -/

def Settings.plain : Settings where
  account := "AC1"
  token := "secret"
  service := "VA1"
  appHash := .text "hash"
  friendlyName := .text "Example Messenger"
  origin := defaultOrigin
  timeout := .int (Limit.default .timeout)
  retries := .int (Limit.default .retries)
  workers := .int (Limit.default .workers)

/-- A client that does every job at once and meets the outcomes of a script. -/
def Client.scripted (script : Script) : Client where
  settings := .plain
  authorization := "Basic QUMxOnNlY3JldA=="
  supported := supportedLanguages
  session := ⟨Settings.plain.policy, .immediate, script, true, 0⟩
  metrics := { sink := .working }

theorem Settings.authorization_plain :
    Settings.plain.authorization = .ok "Basic QUMxOnNlY3JldA==" := by
  have h : Settings.plain.authorization.toOption = some ("Basic QUMxOnNlY3JldA==" : Text) := by
    decide +kernel
  cases ha : Settings.plain.authorization with
  | error fault =>
    rw [ha] at h
    cases h
  | ok authorization =>
    rw [ha] at h
    cases h
    rfl

theorem Client.connect_plain (script : Script) :
    connect .plain supportedLanguages (scripted script).session .working =
      .ok (scripted script) := by
  rw [connect, Settings.authorization_plain]
  rfl

/-- The plain client with a session whose jobs wait until somebody runs or cancels them. -/
def Client.byHand (script : Script) : Client :=
  { scripted script with session := { (scripted script).session with executor := .manual } }

theorem Client.connect_byHand (script : Script) :
    connect .plain supportedLanguages (byHand script).session .working = .ok (byHand script) := by
  rw [connect, Settings.authorization_plain]
  rfl

def Client.pooled (script : Script) : Client :=
  { scripted script with session := { (scripted script).session with executor := .pool true } }

theorem Client.connect_pooled (script : Script) :
    connect .plain supportedLanguages (pooled script).session .working = .ok (pooled script) := by
  rw [connect, Settings.authorization_plain]
  rfl

end OneTimeCode
