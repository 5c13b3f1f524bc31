import OneTimeCode.Workflow
import OneTimeCode.Proofs.Text.Trimming
import OneTimeCode.Proofs.Verification.Approval

/-!
# Identifiers of verifications

A request for a code is fulfilled by the identifier that the deciding response names. Such an
identifier is trimmed and not empty, so a report about it is never refused as blank, and the
confirmation addresses the resource whose last segment stands for it. It is not always taken on: a
response can name an identifier with a half of a character, and that has no segment.
-/
namespace OneTimeCode
open Text

theorem Response.Names.trim_eq {response : Response} {id : Text} (h : response.Names id) :
    trim id = id := by
  obtain ⟨given, -, -, rfl⟩ := h.member
  exact trim_trim _

/-- A report about a trimmed identifier fails at most for its context. -/
theorem ApprovalReport.call_of_trimmed {id : Text} (ht : trim id = id) (hn : id ≠ [])
    (agent context defaultContext : Json) :
    ApprovalReport.call ⟨.text id, agent, context⟩ defaultContext =
      (trimmedText context).map fun t =>
        .confirm ⟨.text id, agent, if t.isEmpty then defaultContext else .text t⟩ := by
  have he : id.isEmpty = false := by simp [hn]
  simp only [call, trimmedText_text, ht, he, bind, Except.bind]
  cases trimmedText context <;> rfl

namespace Client

/-- The client takes the confirmation on, and whatever it posts goes to the resource below the
verifications whose one segment stands for the identifier. -/
structure Addresses (client : Client) (call : ConfirmCall) (id segment : Text) : Prop where
  decoded : Percent.decode? segment = some id
  single : (CodePoint.char '/') ∉ segment
  composed : (client.compose (.confirm call)).answer =
    .ok (client.approvalLetter segment, .approval call.agent call.context)
  taken : ∃ promise, (client.call (.confirm call)).1.answer = .ok promise
  posted : ∀ made ∈ (client.call (.confirm call)).1.posts,
    made.url = .text (client.settings.verificationsUrl ++ "/" ++ segment)

theorem addresses_of_isEncodable (client : Client) {id : Text} (ht : trim id = id) (hn : id ≠ [])
    (he : Utf8.IsEncodable id) (agent context : Json) :
    ∃ segment, client.Addresses ⟨.text id, agent, context⟩ id segment := by
  let call : ConfirmCall := ⟨.text id, agent, context⟩
  have hid : trim call.id.textOrEmpty = id := by rw [Json.textOrEmpty_text, ht]
  obtain ⟨segment, hs, hc⟩ := client.compose_confirm_of_isEncodable (hid ▸ hn) (hid ▸ he)
  rw [hid] at hs
  refine ⟨segment, Percent.decode?_encode hs, Percent.not_mem_encode hs Percent.not_isSafe_slash,
    hc, ⟨_, by rw [call_of_compose_ok hc]⟩, ?_⟩
  intro made hm
  rw [(Session.post_eq_ok (mem_posts_call hc hm)).1]
  rfl

theorem call_confirm_of_not_isEncodable (client : Client) {id : Text} (ht : trim id = id)
    (hn : id ≠ []) (he : ¬ Utf8.IsEncodable id) (agent context : Json) :
    ∃ fault, (client.call (.confirm ⟨.text id, agent, context⟩)).1.answer =
      .error (.unencodable fault) := by
  let call : ConfirmCall := ⟨.text id, agent, context⟩
  have hid : trim call.id.textOrEmpty = id := by rw [Json.textOrEmpty_text, ht]
  obtain ⟨fault, hc⟩ := client.compose_confirm_of_not_isEncodable (hid ▸ hn) (hid ▸ he)
  exact ⟨fault, by rw [call_of_compose_error hc]⟩

/-- A request for a code is fulfilled by an identifier exactly if the deciding response names it.
Then it is trimmed and not empty, no report refuses it, and every client that is to confirm it
addresses its resource, unless it contains a half of a character: then every client refuses it. -/
theorem sent_iff_names (client : Client) (call : SendCall) (later : List Action) (id : Text) :
    (client.promiseOf (.send call) later = some (.fulfilled (.sent (some id))) ↔
      client.promiseOf (.send call) later ≠ some .cancelled ∧ ∃ response,
        client.courseOf (.send call) later = .settled (some (.response response)) ∧
          response.Names id) ∧
    (client.promiseOf (.send call) later = some (.fulfilled (.sent (some id))) →
      trim id = id ∧ id ≠ [] ∧
      (∀ agent context defaultContext,
        ApprovalReport.call ⟨.text id, agent, context⟩ defaultContext =
          (trimmedText context).map fun t =>
            .confirm ⟨.text id, agent, if t.isEmpty then defaultContext else .text t⟩) ∧
      ∀ (confirming : Client) (agent context : Json),
        (Utf8.IsEncodable id →
          ∃ segment, confirming.Addresses ⟨.text id, agent, context⟩ id segment) ∧
        (¬ Utf8.IsEncodable id →
          ∃ fault, (confirming.call (.confirm ⟨.text id, agent, context⟩)).1.answer =
            .error (.unencodable fault))) := by
  have hiff : client.promiseOf (.send call) later = some (.fulfilled (.sent (some id))) ↔
      client.promiseOf (.send call) later ≠ some .cancelled ∧ ∃ response,
        client.courseOf (.send call) later = .settled (some (.response response)) ∧
          response.Names id := by
    rw [promiseOf_eq_fulfilled_iff (by simp [Call.purpose, Purpose.failed])]
    simp only [Call.purpose, Purpose.handle_code_eq_some_iff]
  refine ⟨hiff, fun h => ?_⟩
  obtain ⟨-, response, -, hnames⟩ := hiff.1 h
  have ht := hnames.trim_eq
  have hn := hnames.notBlank
  refine ⟨ht, hn, ApprovalReport.call_of_trimmed ht hn, fun confirming agent context => ⟨?_, ?_⟩⟩
  · intro he
    exact confirming.addresses_of_isEncodable ht hn he agent context
  · intro he
    exact confirming.call_confirm_of_not_isEncodable ht hn he agent context

example : (Client.scripted [.response ⟨some 200, "\x7b\"sid\": [1.50, null]\x7d",
    [("Content-Type", "application/json")]⟩]).promiseOf
      (.voice (.text "+1") (.text "1") []) [] = some (.fulfilled (.sent (some "[1.5, None]"))) := by
  decide +kernel

/-- A response names a lone half, and the confirmation of what it names is refused. -/
theorem confirmation_refused_after_sent :
    let client := Client.scripted [.response ⟨some 201, "\x7b\"sid\":\"\\ud800\"\x7d",
      [("Content-Type", "application/json")]⟩]
    let send : Call := .sms (.text "+14155551234") .null (.text "123456") []
    client.promiseOf send [] = some (.fulfilled (.sent (some [.half 0]))) ∧
      ∃ fault, ((client.act (.call send)).2.call
        (.confirm ⟨.text [.half 0], .null, .text registration⟩)).1.answer =
          .error (.unencodable fault) := by
  refine ⟨by decide +kernel, ?_⟩
  exact call_confirm_of_not_isEncodable _ (by decide) (by simp) (by decide) _ _

end Client
end OneTimeCode
