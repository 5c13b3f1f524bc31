import OneTimeCode.Proofs.Verification.Course

/-!
# Approvals

A confirmation is refused if its identifier is blank or cannot be encoded. Otherwise its letter can
always be sent, and the promise says that the verification is approved exactly if the response that
decides approves it.
-/
namespace OneTimeCode
open Text

namespace Settings

theorem approvalUrl_of_isEncodable (s : Settings) {id : Text} (h : Utf8.IsEncodable id) :
    ∃ segment, Percent.encode id = .ok segment ∧
      s.approvalUrl id = .ok (s.verificationsUrl ++ "/" ++ segment) := by
  obtain ⟨segment, hs⟩ := Percent.encode_of_isEncodable h
  refine ⟨segment, hs, ?_⟩
  rw [approvalUrl, hs]
  rfl

end Settings

namespace Client

def approvalLetter (client : Client) (segment : Text) : Letter :=
  .authorized client.authorization (client.settings.verificationsUrl ++ "/" ++ segment)
    [("Status", .text Reply.approved)]

/-- The one field of an approval can be encoded. -/
theorem areEncodable_approvalLetter (client : Client) (segment : Text) :
    Form.AreEncodable (client.approvalLetter segment).form := by
  show Form.AreEncodable [("Status", Reply.approved)]
  decide

theorem compose_confirm_of_blank (client : Client) {call : ConfirmCall}
    (h : trim call.id.textOrEmpty = []) :
    (client.compose (.confirm call)).answer = .error .noVerificationId := by
  have hid : call.verificationId = .error .noVerificationId := by
    rw [ConfirmCall.verificationId, h]
    rfl
  simp only [compose, hid]
  rfl

theorem verificationId_of_ne_nil {call : ConfirmCall} (h : trim call.id.textOrEmpty ≠ []) :
    call.verificationId = .ok (trim call.id.textOrEmpty) := by
  simp [ConfirmCall.verificationId, h]

theorem compose_confirm_of_isEncodable (client : Client) {call : ConfirmCall}
    (h : trim call.id.textOrEmpty ≠ []) (he : Utf8.IsEncodable (trim call.id.textOrEmpty)) :
    ∃ segment, Percent.encode (trim call.id.textOrEmpty) = .ok segment ∧
      (client.compose (.confirm call)).answer =
        .ok (client.approvalLetter segment, .approval call.agent call.context) := by
  obtain ⟨segment, hs, hu⟩ := client.settings.approvalUrl_of_isEncodable he
  refine ⟨segment, hs, ?_⟩
  simp only [compose, verificationId_of_ne_nil h, bind, Except.bind, Settings.approvalLetter, hu]
  rfl

theorem compose_confirm_of_encode_error (client : Client) {call : ConfirmCall}
    (h : trim call.id.textOrEmpty ≠ []) {fault : Unencodable}
    (hf : Percent.encode (trim call.id.textOrEmpty) = .error fault) :
    (client.compose (.confirm call)).answer = .error (.unencodable fault) := by
  simp only [compose, verificationId_of_ne_nil h, bind, Except.bind, Settings.approvalLetter,
    Settings.approvalUrl, hf]
  rfl

theorem compose_confirm_of_not_isEncodable (client : Client) {call : ConfirmCall}
    (h : trim call.id.textOrEmpty ≠ []) (he : ¬ Utf8.IsEncodable (trim call.id.textOrEmpty)) :
    ∃ fault, (client.compose (.confirm call)).answer = .error (.unencodable fault) := by
  obtain ⟨fault, hf⟩ := Percent.encode_of_not_isEncodable he
  exact ⟨fault, client.compose_confirm_of_encode_error h hf⟩

theorem compose_confirm_eq_error_iff (client : Client) (call : ConfirmCall) :
    (∃ error, (client.compose (.confirm call)).answer = .error error) ↔
      trim call.id.textOrEmpty = [] ∨ ¬ Utf8.IsEncodable (trim call.id.textOrEmpty) := by
  by_cases h : trim call.id.textOrEmpty = []
  · exact ⟨fun _ => .inl h, fun _ => ⟨_, compose_confirm_of_blank client h⟩⟩
  · by_cases he : Utf8.IsEncodable (trim call.id.textOrEmpty)
    · obtain ⟨segment, -, hc⟩ := compose_confirm_of_isEncodable client h he
      simp [hc, h, he]
    · obtain ⟨fault, hc⟩ := compose_confirm_of_not_isEncodable client h he
      exact ⟨fun _ => .inr he, fun _ => ⟨_, hc⟩⟩

/-- A session decides the letter of an approval by its script alone. -/
theorem deciding?_approvalLetter (client : Client) (session : Session) (segment : Text) :
    session.deciding? (client.approvalLetter segment) =
      session.script.deciding? session.policy.attemptCount := by
  rw [Session.deciding?, if_pos (areEncodable_approvalLetter client segment)]

/-- A confirmation is fulfilled by `true` exactly if the deciding response approves. It has no
promise exactly if its identifier is blank or contains a half of a character; without a manual
session the outcome that decides is the first one within the attempts that is no failure of the
connection, if the job is taken on. -/
theorem confirmed_iff_approves (client : Client) (call : ConfirmCall) (later : List Action) :
    (client.promiseOf (.confirm call) later = some (.fulfilled (.confirmed true)) ↔
      client.promiseOf (.confirm call) later ≠ some .cancelled ∧ ∃ response,
        client.courseOf (.confirm call) later = .settled (some (.response response)) ∧
          response.Approves) ∧
    (client.courseOf (.confirm call) later = .refused ↔
      trim call.id.textOrEmpty = [] ∨ ¬ Utf8.IsEncodable (trim call.id.textOrEmpty)) ∧
    (client.session.executor ≠ .manual →
      client.courseOf (.confirm call) later ≠ .refused →
      client.courseOf (.confirm call) later =
        .settled (if client.session.executor.accepts then
          client.session.script.deciding? client.session.policy.attemptCount else none)) := by
  refine ⟨?_, ?_, ?_⟩
  · rw [promiseOf_eq_fulfilled_iff (by simp [Call.purpose, Purpose.failed])]
    simp only [Call.purpose, Purpose.handle_approval_eq_true_iff]
  · rw [courseOf_eq_refused_iff, compose_confirm_eq_error_iff]
  · intro hm hr
    rw [ne_eq, courseOf_eq_refused_iff, compose_confirm_eq_error_iff, not_or,
      Decidable.not_not] at hr
    obtain ⟨segment, -, hc⟩ := compose_confirm_of_isEncodable client hr.1 hr.2
    rw [courseOf_of_ne_manual hc hm, deciding?_approvalLetter]

example : (Client.scripted [.fault .readTimeout "slow",
    .response ⟨some 201, "\x7b\"status\": \"approved \"\x7d",
      [("content-type", "Application/JSON; charset=utf-8")]⟩]).promiseOf
        (.confirm ⟨.text "VE1", .null, .text "login"⟩) [] = some (.fulfilled (.confirmed true)) := by
  decide +kernel

/-- An identifier that is half of a character is not blank, and yet its confirmation has no promise,
whatever the provider has to say. -/
theorem confirmation_of_half_is_refused :
    let response : Response := ⟨some 200, "\x7b\"status\":\"approved\"\x7d",
      [("Content-Type", "application/json")]⟩
    let client := Client.scripted [.response response]
    trim [.half 0] ≠ [] ∧ response.Approves ∧
      client.session.script.deciding? client.session.policy.attemptCount =
        some (.response response) ∧
      client.promiseOf (.confirm ⟨.text [.half 0], .null, .text "registration"⟩) [] = none := by
  intro response client
  have hr : (Purpose.approval .null .null).resolution (some (.response response)) =
      .fulfilled (.confirmed true) := by decide +kernel
  obtain ⟨other, ho, hh⟩ := (Purpose.resolution_eq_fulfilled_iff (by simp [Purpose.failed])).1 hr
  cases ho
  refine ⟨by decide, (Purpose.handle_approval_eq_true_iff .null .null response).1 hh, rfl, ?_⟩
  decide +kernel

end Client
end OneTimeCode
