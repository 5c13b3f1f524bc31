import OneTimeCode.Proofs.Transport.Alike
import OneTimeCode.Proofs.Verification.Course
import OneTimeCode.Proofs.Verification.Settlements

/-!
# Secrets

Two clients that differ in the account and its token, asked for the same by calls that differ in the
codes and in the hidden part of the destinations, log and count the same. A text that holds half of
a character is no secret: the entry about it shows the half and where it stands.
-/
namespace OneTimeCode
open Text

/-- A mask tells no difference between two such destinations: trimmed they are equally long, and
alike in the part that is shown if there is more than that. -/
structure Redaction.Alike (first second : Text) : Prop where
  length : (trim first).length = (trim second).length
  shown : 4 < (trim first).length → (trim first).take 4 = (trim second).take 4

instance (first second : Text) : Decidable (Redaction.Alike first second) :=
  decidable_of_iff ((trim first).length = (trim second).length ∧
    (4 < (trim first).length → (trim first).take 4 = (trim second).take 4))
    ⟨fun h => ⟨h.1, h.2⟩, fun h => ⟨h.length, h.shown⟩⟩

theorem Redaction.mask_of_alike {first second : Text} (h : Alike first second) :
    mask first defaultVisible = mask second defaultVisible := by
  have hempty : (trim first).isEmpty = (trim second).isEmpty := by
    rw [Bool.eq_iff_iff, List.isEmpty_iff_length_eq_zero, List.isEmpty_iff_length_eq_zero, h.length]
  unfold mask
  simp only [hempty, h.length]
  split
  · rfl
  · split
    · rfl
    · next hlong =>
      have hmore : 4 < (trim first).length := by
        rw [defaultVisible] at hlong
        rw [h.length]
        omega
      show (trim first).take 4 ++ _ = (trim second).take 4 ++ _
      rw [h.shown hmore]

/-! ## Clients -/

def Settings.Alike (first second : Settings) : Prop :=
  ∃ account token, second = { first with account, token }

/-- Two requests for a code that differ in the code and in the hidden part of the destination at
most. -/
structure SendCall.Alike (first second : SendCall) : Prop where
  channel : first.channel = second.channel
  destination : Redaction.Alike first.destination.textOrEmpty second.destination.textOrEmpty
  clientType : first.clientType = second.clientType
  ranges : first.ranges = second.ranges

structure SendCall.IsEncodable (call : SendCall) : Prop where
  destination : Utf8.IsEncodable call.destination.display
  code : Utf8.IsEncodable call.code.display

/-- Two actions that differ in secrets at most, none of which holds a half. -/
inductive Action.Alike : Action → Action → Prop where
  | same (action : Action) : Alike action action
  | send {first second : SendCall} : first.Alike second → first.IsEncodable →
    second.IsEncodable → Alike (.call (.send first)) (.call (.send second))

/-- Two requests for a code that are masked alike, and whose fields encoding meets alike. -/
structure SendCall.MeetsAlike (first second : SendCall) : Prop where
  channel : first.channel = second.channel
  masked : Redaction.mask first.destination.textOrEmpty Redaction.defaultVisible =
    Redaction.mask second.destination.textOrEmpty Redaction.defaultVisible
  destination :
    Form.FieldsAlike ("To", first.destination.display) ("To", second.destination.display)
  code : Form.FieldsAlike ("CustomCode", first.code.display) ("CustomCode", second.code.display)
  clientType : first.clientType = second.clientType
  ranges : first.ranges = second.ranges

theorem SendCall.meetsAlike {first second : SendCall} (h : first.Alike second)
    (hf : first.IsEncodable) (hs : second.IsEncodable) : first.MeetsAlike second where
  channel := h.channel
  masked := Redaction.mask_of_alike h.destination
  destination := Form.fieldsAlike_of_isEncodable (by decide) hf.destination hs.destination
  code := Form.fieldsAlike_of_isEncodable (by decide) hf.code hs.code
  clientType := h.clientType
  ranges := h.ranges

inductive Call.MeetsAlike : Call → Call → Prop where
  | same (call : Call) : MeetsAlike call call
  | send {first second : SendCall} : first.MeetsAlike second →
    MeetsAlike (.send first) (.send second)

/-- Two tickets on which every answer has the same effects. -/
structure Ticket.Alike (first second : Ticket) : Prop where
  letter : first.letter.Alike second.letter
  handle : first.purpose.handle = second.purpose.handle
  job : first.job = second.job
  promise : first.promise = second.promise

structure Client.Alike (first second : Client) : Prop where
  settings : first.settings.Alike second.settings
  supported : first.supported = second.supported
  session : first.session = second.session
  metrics : first.metrics = second.metrics
  tickets : List.Forall₂ Ticket.Alike first.tickets second.tickets

/-- The answers are related, the logs the same, and the clients alike afterwards. -/
structure Client.ShowsAlike {α : Type} (related : α → α → Prop) (first second : Trace α × Client) :
    Prop where
  answer : related first.1.answer second.1.answer
  log : first.1.log = second.1.log
  after : first.2.Alike second.2

theorem Purpose.handle_code_eq {first second : Json}
    (h : Redaction.mask first.textOrEmpty Redaction.defaultVisible =
      Redaction.mask second.textOrEmpty Redaction.defaultVisible) :
    (code first).handle = (code second).handle := by
  have hreply : Handling.sendReply first = Handling.sendReply second := by
    funext reply
    cases reply with
    | success => rfl
    | failure => rw [Handling.sendReply, Handling.sendReply, h]
  funext answer
  cases answer with
  | error e => rfl
  | ok response => simp only [handle, Handling.ofSend, hreply]

theorem SendCall.MeetsAlike.refl (call : SendCall) : call.MeetsAlike call :=
  ⟨rfl, rfl, Form.fieldsAlike_refl _, Form.fieldsAlike_refl _, rfl, rfl⟩

/-- The letters of two requests that are met alike are both refused, or alike. -/
theorem Settings.codeLetter_alike {settings others : Settings} (hs : settings.Alike others)
    {first second : SendCall} (h : first.MeetsAlike second) (authorization credentials : Text)
    (channel : Channel) (locale : Json) :
    SameFailure Letter.Alike
      (settings.codeLetter authorization
        ⟨channel, first.destination, first.code, locale, first.clientType⟩)
      (others.codeLetter credentials
        ⟨channel, second.destination, second.code, locale, second.clientType⟩) := by
  obtain ⟨account, token, rfl⟩ := hs
  simp only [codeLetter, CodeOrder.fields, CodeOrder.hashField, ← h.clientType]
  cases readsMessages first.clientType with
  | error reason => exact .error reason
  | ok reads =>
    refine .ok ⟨rfl, Form.sameFault_encode ?_⟩
    exact .cons h.destination
      (.cons h.code (List.forall₂_same.2 fun field _ => Form.fieldsAlike_refl field))

theorem forall₂_set {α : Type} {r : α → α → Prop} {first second : List α}
    (h : List.Forall₂ r first second) {value other : α} (hv : r value other) (index : Nat) :
    List.Forall₂ r (first.set index value) (second.set index other) := by
  induction h generalizing index with
  | nil => exact .nil
  | cons hnow hrest ih =>
    cases index with
    | zero => exact .cons hv hrest
    | succ index => exact .cons hnow (ih index)

theorem forall₂_getElem? {α : Type} {r : α → α → Prop} {first second : List α}
    (h : List.Forall₂ r first second) (index : Nat) :
    (first[index]? = none ∧ second[index]? = none) ∨
      ∃ value other, first[index]? = some value ∧ second[index]? = some other ∧ r value other := by
  induction h generalizing index with
  | nil => exact .inl ⟨rfl, rfl⟩
  | cons hnow hrest ih =>
    cases index with
    | zero => exact .inr ⟨_, _, rfl, rfl, hnow⟩
    | succ index => exact ih index

namespace Client

variable {client other : Client}

theorem bestLocale_alike (h : client.Alike other) (ranges : List RangeItem) :
    client.bestLocale ranges = other.bestLocale ranges := by
  rw [bestLocale, bestLocale, h.supported]

/-- What is composed for two calls: the same refusal, or two tickets that are alike. -/
structure ComposesAlike (first second : Trace (Except RequestError (Letter × Purpose))) : Prop where
  log : first.log = second.log
  answer : SameFailure (fun composed twin : Letter × Purpose => composed.1.Alike twin.1 ∧
    composed.2.handle = twin.2.handle) first.answer second.answer

theorem compose_send_alike (h : client.Alike other) {first second : SendCall}
    (hm : first.MeetsAlike second) :
    ComposesAlike (client.compose (.send first)) (other.compose (.send second)) := by
  simp only [compose, ← hm.channel, ← hm.ranges, ← bestLocale_alike h]
  cases Channel.ofJson? first.channel with
  | none => exact ⟨rfl, .error _⟩
  | some channel =>
    have hletters := (Settings.codeLetter_alike h.settings hm client.authorization
      other.authorization channel
      (((client.bestLocale first.ranges).answer.map Json.text).getD .null)).mapError
      RequestError.mismatch
    exact ⟨rfl, hletters.map fun _ _ hl => ⟨hl, Purpose.handle_code_eq hm.masked⟩⟩

theorem compose_confirm_alike (h : client.Alike other) (call : ConfirmCall) :
    ComposesAlike (client.compose (.confirm call)) (other.compose (.confirm call)) := by
  obtain ⟨account, token, hsettings⟩ := h.settings
  have hurl (id : Text) : other.settings.approvalUrl id = client.settings.approvalUrl id := by
    rw [hsettings]
    rfl
  have hletter (id : Text) : SameFailure Letter.Alike
      (client.settings.approvalLetter client.authorization id)
      (other.settings.approvalLetter other.authorization id) := by
    rw [Settings.approvalLetter, Settings.approvalLetter, hurl]
    cases client.settings.approvalUrl id with
    | error fault => exact .error fault
    | ok url => exact .ok ⟨rfl, .refl (fun _ => trivial) _⟩
  refine ⟨rfl, ?_⟩
  simp only [compose]
  cases call.verificationId with
  | error e => exact .error e
  | ok id =>
    exact ((hletter id).mapError RequestError.unencodable).map fun _ _ hl => ⟨hl, rfl⟩

theorem compose_alike (h : client.Alike other) {call twin : Call} (hc : call.MeetsAlike twin) :
    ComposesAlike (client.compose call) (other.compose twin) := by
  cases hc with
  | send hm => exact compose_send_alike h hm
  | same =>
    cases call with
    | send call => exact compose_send_alike h (.refl call)
    | confirm call => exact compose_confirm_alike h call

theorem conclude_alike (h : client.Alike other) {ticket twin : Ticket} (ht : ticket.Alike twin)
    (job : Job) (answer : Except TransportError Response) :
    (client.conclude ticket job answer).1.Alike (other.conclude twin job answer).1 ∧
      (client.conclude ticket job answer).2.1.Alike (other.conclude twin job answer).2.1 ∧
      (client.conclude ticket job answer).2.2 = (other.conclude twin job answer).2.2 := by
  have heffects : (ticket.answer job answer).2 = (twin.answer job answer).2 := by
    simp only [Ticket.answer, ht.handle, ht.promise]
  have hpromise : (ticket.answer job answer).1.promise = (twin.answer job answer).1.promise := by
    simp only [Ticket.answer, ht.handle, ht.promise]
  simp only [conclude, heffects, h.metrics]
  refine ⟨⟨ht.letter, ht.handle, rfl, hpromise⟩, ⟨h.settings, h.supported, h.session, rfl, ?_⟩,
    trivial⟩
  exact h.tickets

theorem deliver_alike (h : client.Alike other) {ticket twin : Ticket} (ht : ticket.Alike twin) :
    ShowsAlike Ticket.Alike (client.deliver ticket) (other.deliver twin) := by
  obtain ⟨hanswer, hlog, hscript⟩ :=
    client.session.policy.deliver_alike ht.letter client.session.script
  have hsession : (client.session.send ticket.letter).2 = (other.session.send twin.letter).2 := by
    simp only [Session.send, ← h.session, hscript]
  have hsent : Client.Alike { client with session := (client.session.send ticket.letter).2 }
      { other with session := (other.session.send twin.letter).2 } :=
    ⟨h.settings, h.supported, hsession, h.metrics, h.tickets⟩
  have hconcluded := conclude_alike hsent ht .finished (client.session.send ticket.letter).1.answer
  simp only [deliver, Session.send, ← h.session, ← hanswer] at hconcluded ⊢
  obtain ⟨hticket, hclient, hnotes⟩ := hconcluded
  exact ⟨hticket, congrArg₂ (· ++ ·) hlog hnotes, hclient⟩

theorem abandon_alike (h : client.Alike other) {ticket twin : Ticket} (ht : ticket.Alike twin)
    (reason : TransportError) :
    ShowsAlike Ticket.Alike (client.abandon ticket reason) (other.abandon twin reason) := by
  obtain ⟨hticket, hclient, hnotes⟩ := conclude_alike h ht .cancelled (.error reason)
  exact ⟨hticket, hnotes, hclient⟩

theorem submit_alike (h : client.Alike other) {ticket twin : Ticket} (ht : ticket.Alike twin) :
    ShowsAlike Ticket.Alike (client.submit ticket) (other.submit twin) := by
  have hsession := h.session
  by_cases hm : client.session.executor = .manual
  · rw [submit_of_manual hm, submit_of_manual (hsession ▸ hm)]
    refine ⟨ht, rfl, h.settings, h.supported, hsession, h.metrics, ?_⟩
    exact List.rel_append h.tickets (.cons ht .nil)
  · rw [submit_of_ne_manual hm, submit_of_ne_manual (hsession ▸ hm), ← hsession]
    split
    · exact deliver_alike h ht
    · exact abandon_alike h ht .shutDown

theorem call_alike (h : client.Alike other) {call twin : Call} (hc : call.MeetsAlike twin) :
    ShowsAlike Eq (client.call call) (other.call twin) := by
  obtain ⟨hlog, hanswer⟩ := compose_alike h hc
  generalize hf : (client.compose call).answer = first at hanswer
  generalize hs : (other.compose twin).answer = second at hanswer
  cases hanswer with
  | error error =>
    rw [call_of_compose_error hf, call_of_compose_error hs]
    exact ⟨rfl, hlog, h⟩
  | @ok composed counterpart halike =>
    have ht : Ticket.Alike { letter := composed.1, purpose := composed.2 }
        { letter := counterpart.1, purpose := counterpart.2 } := ⟨halike.1, halike.2, rfl, rfl⟩
    obtain ⟨hanswer, hnotes, hafter⟩ := submit_alike h ht
    rw [call_of_compose_ok hf, call_of_compose_ok hs]
    exact ⟨congrArg Except.ok hanswer.promise, congrArg₂ (· ++ ·) hlog hnotes, hafter⟩

theorem record_alike (index : Nat) {first second : Trace Ticket × Client}
    (h : ShowsAlike Ticket.Alike first second) :
    ShowsAlike Eq (record index first) (record index second) := by
  obtain ⟨hanswer, hlog, hafter⟩ := h
  refine ⟨?_, hlog, hafter.settings, hafter.supported, hafter.session, hafter.metrics, ?_⟩
  · exact congrArg (Answer.ticket true) hanswer.promise
  · exact forall₂_set hafter.tickets hanswer index

/-- Whatever is done alike with tickets that are alike shows alike, and so if there is none. -/
theorem onTicket_alike (h : client.Alike other) (index : Nat)
    {act : Client → Nat → Ticket → Trace Answer × Client}
    (ha : ∀ ticket twin, ticket.Alike twin →
      ShowsAlike Eq (act client index ticket) (act other index twin)) :
    ShowsAlike Eq (client.onTicket index act) (other.onTicket index act) := by
  unfold onTicket
  rcases forall₂_getElem? h.tickets index with ⟨hf, hs⟩ | ⟨ticket, twin, hf, hs, ht⟩
  · rw [hf, hs]
    exact ⟨rfl, rfl, h⟩
  · rw [hf, hs]
    exact ha ticket twin ht

/-- Clients that are alike show the same of actions that are alike, and are alike afterwards. -/
theorem act_alike (h : client.Alike other) {action twin : Action} (ha : action.Alike twin) :
    ShowsAlike Eq (client.act action) (other.act twin) := by
  have hcall {call counterpart : Call} (hc : call.MeetsAlike counterpart) :
      ShowsAlike Eq (client.act (.call call)) (other.act (.call counterpart)) := by
    obtain ⟨hanswer, hlog, hafter⟩ := call_alike h hc
    refine ⟨?_, hlog, hafter⟩
    simp only [act, hanswer]
  cases ha with
  | send hsend hf hs => exact hcall (.send (SendCall.meetsAlike hsend hf hs))
  | same =>
    cases action with
    | call call => exact hcall (.same call)
    | close =>
      have hclosed : client.session.close = other.session.close := by rw [h.session]
      exact ⟨congrArg (fun session : Session => Answer.closed session.closings) hclosed, rfl,
        h.settings, h.supported, hclosed, h.metrics, h.tickets⟩
    | cancelPromise index =>
      refine onTicket_alike h index fun ticket twin ht => ?_
      have hcancelled : ticket.promise.cancel = twin.promise.cancel := by rw [ht.promise]
      refine ⟨?_, rfl, h.settings, h.supported, h.session, h.metrics, ?_⟩
      · simp only [cancelPromise, hcancelled]
      · simp only [cancelPromise, hcancelled]
        apply forall₂_set h.tickets
        exact ⟨ht.letter, ht.handle, ht.job, rfl⟩
    | runJob index =>
      refine onTicket_alike h index fun ticket twin ht => ?_
      simp only [runJob, ← ht.job, unchanged, ← ht.promise]
      split
      · exact record_alike index (deliver_alike h ht)
      · exact ⟨rfl, rfl, h⟩
    | cancelJob index =>
      refine onTicket_alike h index fun ticket twin ht => ?_
      simp only [cancelJob, ← ht.job, unchanged, ← ht.promise]
      split
      · exact record_alike index (abandon_alike h ht .withdrawn)
      · exact ⟨rfl, rfl, h⟩
      · exact ⟨rfl, rfl, h⟩

theorem acts_alike (h : client.Alike other) {actions twins : List Action}
    (ha : List.Forall₂ Action.Alike actions twins) :
    (client.acts actions).1.map (·.log) = (other.acts twins).1.map (·.log) ∧
      (client.acts actions).2.Alike (other.acts twins).2 := by
  induction ha generalizing client other with
  | nil => exact ⟨rfl, h⟩
  | @cons action twin rest others hnow _ ih =>
    obtain ⟨-, hlog, hafter⟩ := act_alike h hnow
    obtain ⟨hlogs, hlast⟩ := ih hafter
    exact ⟨congrArg₂ List.cons hlog hlogs, hlast⟩

theorem alike_of_connect {settings others : Settings} (hs : settings.Alike others)
    {supported : List Text} {session : Session} {sink : Sink}
    (hc : connect settings supported session sink = .ok client)
    (ho : connect others supported session sink = .ok other) : client.Alike other := by
  unfold connect at hc ho
  cases hf : settings.authorization with
  | error fault =>
    rw [hf] at hc
    cases hc
  | ok authorization =>
    cases hg : others.authorization with
    | error fault =>
      rw [hg] at ho
      cases ho
    | ok credentials =>
      rw [hf] at hc
      rw [hg] at ho
      cases hc
      cases ho
      exact ⟨hs, rfl, rfl, rfl, .nil⟩

/-- Two new clients that differ in the account and its token, asked one by one for the same, or for
codes that can be encoded and differ in the code and the hidden part of the destination, log the
same at every step and have counted the same at the end. -/
theorem logs_alike_of_secrets {settings others : Settings} (hs : settings.Alike others)
    {supported : List Text} {session : Session} {sink : Sink}
    (hc : connect settings supported session sink = .ok client)
    (ho : connect others supported session sink = .ok other) {actions twins : List Action}
    (ha : List.Forall₂ Action.Alike actions twins) :
    (client.acts actions).1.map (·.log) = (other.acts twins).1.map (·.log) ∧
      (client.acts actions).2.metrics = (other.acts twins).2.metrics := by
  obtain ⟨hlogs, hlast⟩ := acts_alike (alike_of_connect hs hc ho) ha
  exact ⟨hlogs, hlast.metrics⟩

/-- Two numbers with one beginning, and other secrets throughout. -/
theorem logs_alike_of_other_secrets :
    let script : Script := [.response ⟨some 429, [], []⟩]
    let asking (destination code : Text) : List Action :=
      [.call (.sms (.text destination) .null (.text code) [])]
    ∃ other, connect { Settings.plain with account := "AC2", token := "public" }
        supportedLanguages (scripted script).session .working = .ok other ∧
      ((scripted script).acts (asking "+14155551234" "123456")).1.map (·.log) =
        (other.acts (asking "+14159876543" "654321")).1.map (·.log) ∧
      ((scripted script).acts (asking "+14155551234" "123456")).2.metrics =
        (other.acts (asking "+14159876543" "654321")).2.metrics := by
  intro script asking
  obtain ⟨other, ho⟩ : ∃ other, connect { Settings.plain with account := "AC2", token := "public" }
      supportedLanguages (scripted script).session .working = .ok other := by
    unfold connect Settings.authorization
    rw [Utf8.encode_of_isEncodable (by decide)]
    exact ⟨_, rfl⟩
  have hactions : List.Forall₂ Action.Alike (asking "+14155551234" "123456")
      (asking "+14159876543" "654321") :=
    .cons (.send ⟨rfl, by decide, rfl, rfl⟩ ⟨by decide, by decide⟩ ⟨by decide, by decide⟩) .nil
  exact ⟨other, ho, logs_alike_of_secrets ⟨_, _, rfl⟩ (connect_plain script) ho hactions⟩

/-- The half of a character in the hidden part of a destination is logged and counted, and the entry
tells it from another half. -/
theorem half_of_destination_is_logged :
    let client := scripted [.response ⟨some 201, "\x7b\"sid\":\"VE1\"\x7d",
      [("Content-Type", "application/json")]⟩]
    let asking (destination : Text) : SendCall :=
      ⟨.text "sms", .text destination, .text "123456", .null, []⟩
    let after (destination : Text) := client.acts [.call (.send (asking destination))]
    let logs (destination : Text) := (after destination).1.map (·.log)
    let first := ("+1415" : Text) ++ [.half 0]
    let second := ("+1415" : Text) ++ [.half 1]
    let third : Text := "+14155"
    (asking first).Alike (asking second) ∧ logs first ≠ logs second ∧
      (asking first).Alike (asking third) ∧ logs first ≠ logs third ∧
      (after first).2.metrics ≠ (after third).2.metrics := by
  intro client asking after logs first second third
  have htried : (after first).2.metrics.tried ≠ (after third).2.metrics.tried := by decide +kernel
  exact ⟨⟨rfl, by decide, rfl, rfl⟩, by decide +kernel, ⟨rfl, by decide, rfl, rfl⟩,
    by decide +kernel, fun h => htried (congrArg Metrics.tried h)⟩

end Client
end OneTimeCode
