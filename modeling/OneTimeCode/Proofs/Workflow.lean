import OneTimeCode.Workflow
import OneTimeCode.Proofs.Verification.Course

/-!
# What requests for a code post

A request made of texts is either refused, and then nothing has happened, or it hands one letter to
the session. The body of that letter reads back as a fixed list of fields in a fixed order, whatever
the texts contain; a text with a half of a character keeps the letter from being posted at all.
-/
namespace OneTimeCode
open Text

def CodeRequest.ofTexts (destination code channel : Text) (clientType : Option Text)
    (ranges : List RangeItem) : CodeRequest :=
  ⟨.text destination, .text code, .text channel, (clientType.map Json.text).getD .null, ranges⟩

structure CodeRequest.IsAcceptable (destination code channel : Text) (ranges : List RangeItem) :
    Prop where
  destination : trim destination ≠ []
  code : trim code ≠ []
  channel : ∃ known : Channel, channel = known.name
  ranges : ∀ item ∈ ranges, item.isRange = true

namespace Channel

/-- The type of the client that a letter knows of; a voice call mentions none. -/
def mentioned (channel : Channel) (clientType : Option Text) : Option Text :=
  match channel with
  | sms => clientType
  | voice => none

theorem ofJson?_text (t : Text) : ofJson? (.text t) = ofName? t := rfl

theorem ofName?_eq_some_iff {t : Text} {channel : Channel} :
    ofName? t = some channel ↔ t = channel.name := by
  constructor
  · intro h
    have hp := List.find?_some h
    exact (of_decide_eq_true hp).symm
  · intro h
    rw [h, ofName?_name]

end Channel

namespace CodeRequest

theorem checkedRanges_eq (request : CodeRequest) :
    (∀ item ∈ request.ranges, item.isRange = true) ∧ request.checkedRanges = .ok request.ranges ∨
      (¬ ∀ item ∈ request.ranges, item.isRange = true) ∧
        ∃ item, request.checkedRanges = .error (.invalidRange item) := by
  unfold checkedRanges
  cases hf : request.ranges.find? (!·.isRange) with
  | none =>
    left
    exact ⟨by simpa using hf, rfl⟩
  | some item =>
    right
    refine ⟨fun h => ?_, item, rfl⟩
    have hb := List.find?_some hf
    rw [h item (List.mem_of_find?_eq_some hf)] at hb
    cases hb

theorem throw_eq_error {α : Type} (e : WorkflowError) :
    (throw e : Except WorkflowError α) = .error e := rfl

/-- A request of texts is refused by an error for users, or leads to one call to send a code. -/
theorem call_ofTexts (destination code channel : Text) (clientType : Option Text)
    (ranges : List RangeItem) :
    (¬ IsAcceptable destination code channel ranges ∧ ∃ error message,
      (ofTexts destination code channel clientType ranges).call = .error error ∧
        error.userError = .ok (.of "INVALID_REQUEST" message)) ∨
    (IsAcceptable destination code channel ranges ∧ ∃ known : Channel, channel = known.name ∧
      (ofTexts destination code channel clientType ranges).call =
        .ok (.send ⟨.text known.name, .text (trim destination), .text (trim code),
          ((known.mentioned clientType).map Json.text).getD .null, ranges⟩)) := by
  by_cases hd : trim destination = []
  · left
    refine ⟨fun h => h.destination hd, .noDestination, _, ?_, rfl⟩
    simp [call, ofTexts, hd, bind, Except.bind, throw_eq_error]
  · by_cases hc : trim code = []
    · left
      refine ⟨fun h => h.code hc, .noCode, _, ?_, rfl⟩
      simp [call, ofTexts, hd, hc, bind, Except.bind, throw_eq_error]
    · cases hn : Channel.ofName? channel with
      | none =>
        left
        refine ⟨fun h => ?_, .unsupportedChannel (.text channel), _, ?_, rfl⟩
        · obtain ⟨known, hk⟩ := h.channel
          rw [Channel.ofName?_eq_some_iff.2 hk] at hn
          cases hn
        · simp [call, ofTexts, hd, hc, hn, bind, Except.bind, throw_eq_error,
            Channel.ofJson?_text]
      | some known =>
        have hk := Channel.ofName?_eq_some_iff.1 hn
        rcases checkedRanges_eq (ofTexts destination code channel clientType ranges) with
          ⟨hr, he⟩ | ⟨hr, item, he⟩
        · right
          refine ⟨⟨hd, hc, ⟨known, hk⟩, hr⟩, known, hk, ?_⟩
          unfold ofTexts at he
          cases known <;>
            simp [call, ofTexts, hd, hc, hn, he, bind, Except.bind, Channel.ofJson?_text, pure,
              Except.pure, Channel.mentioned, Call.sms, Call.voice]
        · left
          refine ⟨fun h => hr h.ranges, .invalidRange item, _, ?_, rfl⟩
          unfold ofTexts at he
          simp [call, ofTexts, hd, hc, hn, he, bind, Except.bind, Channel.ofJson?_text]

end CodeRequest

namespace Client

/-- Carries out a request: what the workflow lets through becomes a call. -/
def serve (client : Client) (request : CodeRequest) :
    Except WorkflowError (Trace (Except RequestError Promise)) × Client :=
  match request.call with
  | .error e => (.error e, client)
  | .ok call =>
    let (trace, next) := client.call call
    (.ok trace, next)

/-- The language that suits best, if the ranges are well formed and one suits. -/
def localeFields (client : Client) (ranges : List RangeItem) : Form.Fields :=
  match Lookup.best ranges client.supported with
  | .ok (some (c :: tag)) => [("Locale", c :: tag)]
  | _ => []

def hashFields (client : Client) (channel : Channel) (clientType : Option Text) : Form.Fields :=
  if channel = .sms ∧ androidMark.isPrefixOf (clientType.getD []) then
    [("AppHash", client.settings.appHash.display)]
  else []

def plainFields (client : Client) (channel : Channel) (destination code : Text) : Form.Fields :=
  [("To", destination), ("CustomCode", code), ("Channel", channel.wireName),
    ("CustomFriendlyName", client.settings.friendlyName.display)]

def fieldsFor (client : Client) (channel : Channel) (destination code : Text)
    (clientType : Option Text) (ranges : List RangeItem) : Form.Fields :=
  client.plainFields channel destination code ++ client.localeFields ranges ++
    client.hashFields channel clientType

theorem readsMessages_getD (clientType : Option Text) :
    readsMessages ((clientType.map Json.text).getD .null) =
      .ok (androidMark.isPrefixOf (clientType.getD [])) := by
  cases clientType with
  | none => rfl
  | some t => cases t <;> rfl

theorem localeFields_eq (client : Client) (ranges : List RangeItem) (order : CodeOrder)
    (h : order.locale = ((client.bestLocale ranges).answer.map Json.text).getD .null) :
    order.localeField.map (fun field => (field.1, field.2.display)) =
      client.localeFields ranges := by
  rw [CodeOrder.localeField, h, localeFields, bestLocale]
  cases Lookup.best ranges client.supported with
  | error e => rfl
  | ok locale =>
    cases locale with
    | none => rfl
    | some tag => cases tag <;> rfl

theorem hashFields_eq (client : Client) (channel : Channel) (clientType : Option Text)
    (order : CodeOrder)
    (h : order.clientType = ((channel.mentioned clientType).map Json.text).getD .null) :
    ∃ hash, order.hashField client.settings = .ok hash ∧
      hash.map (fun field => (field.1, field.2.display)) =
        client.hashFields channel clientType := by
  refine ⟨_, by rw [CodeOrder.hashField, h, readsMessages_getD]; rfl, ?_⟩
  cases channel with
  | voice => rfl
  | sms =>
    simp only [hashFields, Channel.mentioned, true_and]
    by_cases hp : androidMark.isPrefixOf (clientType.getD []) = true <;> simp [hp]

/-- The letter of a request for a code has these fields and goes to the verifications. -/
theorem compose_send (client : Client) (channel : Channel) (destination code : Text)
    (clientType : Option Text) (ranges : List RangeItem) :
    ∃ letter, (client.compose (.send ⟨.text channel.name, .text destination, .text code,
        ((channel.mentioned clientType).map Json.text).getD .null, ranges⟩)).answer =
          .ok (letter, .code (.text destination)) ∧
      letter.url = .text client.settings.verificationsUrl ∧
      letter.form = client.fieldsFor channel destination code clientType ranges := by
  let order : CodeOrder := ⟨channel, .text destination, .text code,
    ((client.bestLocale ranges).answer.map Json.text).getD .null,
    ((channel.mentioned clientType).map Json.text).getD .null⟩
  obtain ⟨hash, hh, hshown⟩ := client.hashFields_eq channel clientType order rfl
  have hf : order.fields client.settings =
      .ok (order.plainFields client.settings ++ order.localeField ++ hash) := by
    rw [CodeOrder.fields, hh]
    rfl
  refine ⟨.authorized client.authorization client.settings.verificationsUrl
    (order.plainFields client.settings ++ order.localeField ++ hash), ?_, rfl, ?_⟩
  · simp only [compose, Channel.ofJson?_name]
    show Except.map _ (Except.mapError _ (Settings.codeLetter _ _ order)) = _
    rw [Settings.codeLetter, hf]
    rfl
  · simp only [Letter.form, Letter.authorized, List.map_append, hshown,
      client.localeFields_eq ranges order rfl, fieldsFor]
    rfl

/-- Serving the request submits this fresh ticket and does nothing else; whatever is posted at once
is the post of its letter. -/
structure Serves (client : Client) (request : CodeRequest) (ticket : Ticket) : Prop where
  queued : ticket.job = .queued
  pending : ticket.promise = .pending
  submitted : ∃ log, client.serve request =
    (.ok ⟨.ok (client.submit ticket).1.answer.promise, (client.submit ticket).1.posts, log⟩,
      (client.submit ticket).2)
  posted : ∀ made ∈ (client.submit ticket).1.posts,
    client.session.policy.post ticket.letter = .ok made

theorem serves_of_call {client : Client} {request : CodeRequest} {call : Call} {letter : Letter}
    {purpose : Purpose} (hr : request.call = .ok call)
    (hc : (client.compose call).answer = .ok (letter, purpose)) :
    client.Serves request { letter, purpose } where
  queued := rfl
  pending := rfl
  submitted := ⟨_, by simp only [serve, hr, call_of_compose_ok hc]; rfl⟩
  posted := by
    intro made hm
    apply mem_posts_call hc
    rw [call_of_compose_ok hc]
    exact hm

end Client

/-- Under every policy the letter is posted to the address, with a body that reads back as the
fields. -/
def Letter.Carries (letter : Letter) (url : Text) (fields : Form.Fields) : Prop :=
  ∀ policy : Policy, ∃ made, policy.post letter = .ok made ∧ made.url = .text url ∧
    Form.decode? made.body = some fields

theorem Letter.carries_form {letter : Letter} {url : Text} (hu : letter.url = .text url)
    (h : Form.AreEncodable letter.form) : letter.Carries url letter.form := by
  intro policy
  obtain ⟨body, hb, hp⟩ := Session.post_of_areEncodable policy h
  exact ⟨_, hp, hu, Form.decode?_encode hb⟩

namespace Client

theorem posts_submit_ne_nil {client : Client} {ticket : Ticket}
    (hm : client.session.executor ≠ .manual) (ha : client.session.executor.accepts = true)
    (hp : 0 < client.session.policy.attemptCount) (h : Form.AreEncodable ticket.letter.form) :
    (client.submit ticket).1.posts ≠ [] := by
  unfold submit
  split
  · next he => exact absurd he hm
  · rw [if_pos ha]
    exact Session.posts_send_ne_nil h hp

theorem Serves.posts_eq_nil {client : Client} {request : CodeRequest} {ticket : Ticket}
    (hs : client.Serves request ticket) (h : ¬ Form.AreEncodable ticket.letter.form) :
    (client.submit ticket).1.posts = [] := by
  rw [List.eq_nil_iff_forall_not_mem]
  intro made hm
  obtain ⟨fault, hp⟩ := Session.post_of_not_areEncodable client.session.policy h
  have hposted := hs.posted made hm
  rw [hp] at hposted
  cases hposted

/-- A letter that cannot be encoded counts as a failure of the transport. -/
theorem promise_submit_of_not_areEncodable {client : Client} {ticket : Ticket}
    (hm : client.session.executor ≠ .manual) (hp : ticket.promise = .pending)
    (h : ¬ Form.AreEncodable ticket.letter.form) :
    (client.submit ticket).1.answer.promise = .fulfilled ticket.purpose.failed := by
  have hd : client.session.deciding? ticket.letter = none := by rw [Session.deciding?, if_neg h]
  rw [promise_submit hm hp, hd, ite_self]
  rfl

/-- A request of texts is refused exactly if a part is missing or malformed, and then the client is
as it was. Otherwise one letter is submitted. It carries its fields unchanged to the verifications
and is posted at least once where jobs are done at once and attempts are allowed. Only a letter with
a half of a character is never posted, and its promise holds no identifier. -/
theorem serve_submits_fields (client : Client) (destination code channel : Text)
    (clientType : Option Text) (ranges : List RangeItem) :
    let request := CodeRequest.ofTexts destination code channel clientType ranges
    (¬ CodeRequest.IsAcceptable destination code channel ranges ∧ ∃ error message,
      client.serve request = (.error error, client) ∧
        error.userError = .ok (.of "INVALID_REQUEST" message)) ∨
    (CodeRequest.IsAcceptable destination code channel ranges ∧
      ∃ known : Channel, channel = known.name ∧ ∃ ticket, client.Serves request ticket ∧
        let fields := client.fieldsFor known (trim destination) (trim code) clientType ranges
        (Form.AreEncodable fields →
          ticket.letter.Carries client.settings.verificationsUrl fields ∧
          (client.session.executor ≠ .manual → client.session.executor.accepts = true →
            0 < client.session.policy.attemptCount → (client.submit ticket).1.posts ≠ [])) ∧
        (¬ Form.AreEncodable fields →
          (∀ policy : Policy, ∃ fault, policy.post ticket.letter = .error fault) ∧
          (client.submit ticket).1.posts = [] ∧
          (client.session.executor ≠ .manual →
            (client.submit ticket).1.answer.promise = .fulfilled (.sent none)))) := by
  intro request
  rcases CodeRequest.call_ofTexts destination code channel clientType ranges with
    ⟨hn, error, message, hr, hshown⟩ | ⟨ha, known, hk, hr⟩
  · left
    exact ⟨hn, error, message, by simp only [serve, request, hr], hshown⟩
  · right
    obtain ⟨letter, hc, hu, hf⟩ :=
      client.compose_send known (trim destination) (trim code) clientType ranges
    have hs := serves_of_call hr hc
    refine ⟨ha, known, hk, _, hs, ?_, ?_⟩
    · intro he
      rw [← hf] at he ⊢
      exact ⟨Letter.carries_form hu he, fun hm hacc hp => posts_submit_ne_nil hm hacc hp he⟩
    · intro he
      rw [← hf] at he
      exact ⟨fun policy => Session.post_of_not_areEncodable policy he, hs.posts_eq_nil he,
        fun hm => promise_submit_of_not_areEncodable hm rfl he⟩

example : (((Client.scripted []).serve
    (.ofTexts " 1&To=2" "a b" "sms" (some "android") [])).1.toOption.map
      fun trace => trace.posts.map (·.body)) =
    some [(("To=1%26To%3D2&CustomCode=a+b&Channel=sms" ++
      "&CustomFriendlyName=Example+Messenger&AppHash=hash" : String) : Text)] := by
  decide +kernel

/-- A destination that is half of a character is accepted, and yet nothing is posted. -/
theorem half_destination_is_not_posted :
    let client := Client.scripted [.response ⟨some 201, "\x7b\"sid\":\"VE1\"\x7d",
      [("Content-Type", "application/json")]⟩]
    CodeRequest.IsAcceptable [.half 0] "1" "sms" [] ∧ ∃ trace,
      (client.serve (.ofTexts [.half 0] "1" "sms" none [])).1 = .ok trace ∧ trace.posts = [] ∧
        trace.answer = .ok (.fulfilled (.sent none)) := by
  intro client
  obtain ⟨letter, hc, -, hf⟩ := client.compose_send .sms [.half 0] "1" none []
  have hr : (CodeRequest.ofTexts [.half 0] "1" "sms" none []).call =
      .ok (.send ⟨.text "sms", .text [.half 0], .text "1", .null, []⟩) := rfl
  have hs := serves_of_call hr hc
  obtain ⟨log, hlog⟩ := hs.submitted
  have he : ¬ Form.AreEncodable letter.form := by
    rw [hf]
    intro h
    exact absurd (h ("To", [.half 0]) (by simp [fieldsFor, plainFields])).2 (by decide)
  refine ⟨⟨by decide, by decide, ⟨.sms, rfl⟩, by simp⟩, _, congrArg Prod.fst hlog,
    hs.posts_eq_nil he, ?_⟩
  rw [promise_submit_of_not_areEncodable (by decide) rfl he]
  rfl

end Client
end OneTimeCode
