import OneTimeCode.Proofs.Verification.Approval
import OneTimeCode.Proofs.Workflow

/-!
# Which calls are refused

A call is refused while its letter is composed, and then nothing has happened. Of the calls made of
texts these are the ones for an unknown channel, and the confirmations whose identifier is blank or
holds a half of a character.
-/
namespace OneTimeCode
open Text

/-- A request for a code by a channel that the caller names, made of texts; the type of the client
may be left out. -/
def SendCall.ofTexts (channel destination code : Text) (clientType : Option Text)
    (ranges : List RangeItem) : SendCall :=
  ⟨.text channel, .text destination, .text code, (clientType.map Json.text).getD .null, ranges⟩

def ConfirmCall.ofTexts (id : Text) (agent : Option Text) (context : Text) : ConfirmCall :=
  ⟨.text id, (agent.map Json.text).getD .null, .text context⟩

def Channel.IsKnown (name : Text) : Prop := ∃ known : Channel, name = known.name

theorem Channel.isKnown_iff {name : Text} : IsKnown name ↔ ofName? name ≠ none := by
  rw [Option.ne_none_iff_exists']
  simp only [ofName?_eq_some_iff]
  rfl

namespace Client

theorem answer_call_eq_error_iff {client : Client} {call : Call} {error : RequestError} :
    (client.call call).1.answer = .error error ↔ (client.compose call).answer = .error error := by
  cases hc : (client.compose call).answer with
  | error e =>
    rw [call_of_compose_error hc, Except.error.injEq, Except.error.injEq]
  | ok composed =>
    obtain ⟨letter, purpose⟩ := composed
    rw [call_of_compose_ok hc]
    exact iff_of_false (fun h => nomatch h) fun h => nomatch h

theorem call_of_refused {client : Client} {call : Call} {error : RequestError}
    (h : (client.call call).1.answer = .error error) :
    (client.call call).1.posts = [] ∧ (client.call call).2 = client := by
  rw [call_of_compose_error (answer_call_eq_error_iff.1 h)]
  exact ⟨rfl, rfl⟩

theorem compose_send_of_known (client : Client) (known : Channel) (destination code : Json)
    {clientType : Json} {reads : Bool} (h : readsMessages clientType = .ok reads)
    (ranges : List RangeItem) :
    ∃ letter, (client.compose
      (.send ⟨.text known.name, destination, code, clientType, ranges⟩)).answer =
        .ok (letter, .code destination) := by
  let order : CodeOrder := ⟨known, destination, code,
    ((client.bestLocale ranges).answer.map Json.text).getD .null, clientType⟩
  have hf : ∃ fields, order.fields client.settings = .ok fields := by
    rw [CodeOrder.fields, CodeOrder.hashField, h]
    exact ⟨_, rfl⟩
  obtain ⟨fields, hf⟩ := hf
  refine ⟨.authorized client.authorization client.settings.verificationsUrl fields, ?_⟩
  simp only [compose, Channel.ofJson?_name]
  show Except.map _ (Except.mapError _ (Settings.codeLetter _ _ order)) = _
  rw [Settings.codeLetter, hf]
  rfl

/-- A request of texts is refused for its channel only. -/
theorem refuses_send_iff {client : Client} {channel destination code : Text}
    {clientType : Option Text} {ranges : List RangeItem} {error : RequestError} :
    (client.call (.send (.ofTexts channel destination code clientType ranges))).1.answer =
        .error error ↔
      ¬ Channel.IsKnown channel ∧ error = .unsupportedChannel (.text channel) := by
  rw [answer_call_eq_error_iff]
  by_cases hk : Channel.IsKnown channel
  · obtain ⟨known, rfl⟩ := hk
    obtain ⟨letter, hc⟩ := client.compose_send_of_known known (.text destination) (.text code)
      (readsMessages_getD clientType) ranges
    rw [SendCall.ofTexts, hc]
    exact iff_of_false (fun h => nomatch h) fun h => h.1 ⟨known, rfl⟩
  · have hn : Channel.ofJson? (.text channel) = none := by
      rw [Channel.ofJson?_text]
      exact Decidable.not_not.1 fun h => hk (Channel.isKnown_iff.2 h)
    have hc : (client.compose
        (.send (.ofTexts channel destination code clientType ranges))).answer =
          .error (.unsupportedChannel (.text channel)) := by
      simp only [compose, SendCall.ofTexts, hn]
    rw [hc, Except.error.injEq, eq_comm]
    exact (and_iff_right hk).symm

/-- A confirmation is refused for its identifier only. -/
theorem answer_confirm_eq_error_iff {client : Client} {call : ConfirmCall} {error : RequestError} :
    (client.call (.confirm call)).1.answer = .error error ↔
      trim call.id.textOrEmpty = [] ∧ error = .noVerificationId ∨
        ∃ fault, Percent.encode (trim call.id.textOrEmpty) = .error fault ∧
          error = .unencodable fault := by
  rw [answer_call_eq_error_iff]
  by_cases h : trim call.id.textOrEmpty = []
  · have hempty : Percent.encode [] = .ok [] := rfl
    rw [compose_confirm_of_blank client h, h, hempty]
    simp [eq_comm]
  · by_cases he : Utf8.IsEncodable (trim call.id.textOrEmpty)
    · obtain ⟨segment, hs, hc⟩ := client.compose_confirm_of_isEncodable h he
      simp [hc, h, hs]
    · obtain ⟨fault, hf⟩ := Percent.encode_of_not_isEncodable he
      rw [client.compose_confirm_of_encode_error h hf, hf]
      simp [h, eq_comm]

theorem refuses_confirm_iff {client : Client} {id context : Text} {agent : Option Text}
    {error : RequestError} :
    (client.call (.confirm (.ofTexts id agent context))).1.answer = .error error ↔
      trim id = [] ∧ error = .noVerificationId ∨
        ∃ fault, Percent.encode (trim id) = .error fault ∧ error = .unencodable fault := by
  have hid : (ConfirmCall.ofTexts id agent context).id.textOrEmpty = id := Json.textOrEmpty_text id
  rw [answer_confirm_eq_error_iff, hid]

end Client
end OneTimeCode
