import OneTimeCode.CommandLine.Run
import OneTimeCode.Proofs.CommandLine.Arguments
import OneTimeCode.Proofs.Offline
import OneTimeCode.Proofs.Verification.Refusals

/-!
# Calls of commands

A command that was read from words either is declined with an error for users, or makes a call whose
parts are texts wherever they have to be. So no provider meets a value there that it cannot use: an
offline provider answers the call, and a client that refuses it has an error for users as well.
-/
namespace OneTimeCode.CommandLine
open Text

/-- A call by a known channel whose parts are texts as far as they have to be, or a confirmation of
a text. -/
inductive IsCommanded : Call → Prop
  | send (known : Channel) (destination code : Text) {clientType : Json}
    (type_ok : clientType.IsOption) (ranges : List RangeItem) :
    IsCommanded (.send ⟨.text known.name, .text destination, .text code, clientType, ranges⟩)
  | confirm (id : Text) (agent context : Json) : IsCommanded (.confirm ⟨.text id, agent, context⟩)

theorem trimmedText_of_isOption {value : Json} (h : value.IsOption) :
    ∃ t, trimmedText value = .ok t := by
  obtain ⟨t, ht⟩ := h.requireText
  exact ⟨trim t, by rw [trimmedText, ht]; rfl⟩

/-- A code is a text: an option that is none makes room for a random one. -/
theorem codeOrRandom_of_isOption {code : Json} (h : code.IsOption) (random : Int) :
    ∃ t, codeOrRandom random code = .text t := by
  cases h with
  | absent => exact ⟨_, rfl⟩
  | divider => exact ⟨_, rfl⟩
  | given t =>
    unfold codeOrRandom
    split
    · exact ⟨_, rfl⟩
    · exact ⟨t, rfl⟩

/-- A request with such parts leads to a call, or is refused by an error for users. -/
theorem codeRequest_call_cases (destination code : Text) {channel clientType : Json}
    (ht : clientType.IsOption) (ranges : List RangeItem) :
    let request : CodeRequest := ⟨.text destination, .text code, channel, clientType, ranges⟩
    (∃ error shown, request.call = .error error ∧ error.userError = .ok shown) ∨
      ∃ call, request.call = .ok call ∧ IsCommanded call := by
  intro request
  by_cases hd : trim destination = []
  · have hcall : request.call = .error .noDestination := by
      simp [request, CodeRequest.call, hd, bind, Except.bind, CodeRequest.throw_eq_error]
    exact .inl ⟨_, _, hcall, rfl⟩
  · by_cases hc : trim code = []
    · have hcall : request.call = .error .noCode := by
        simp [request, CodeRequest.call, hd, hc, bind, Except.bind, CodeRequest.throw_eq_error]
      exact .inl ⟨_, _, hcall, rfl⟩
    · cases hn : Channel.ofJson? channel with
      | none =>
        have hcall : request.call = .error (.unsupportedChannel channel) := by
          simp [request, CodeRequest.call, hd, hc, hn, bind, Except.bind,
            CodeRequest.throw_eq_error]
        exact .inl ⟨_, _, hcall, rfl⟩
      | some known =>
        rcases CodeRequest.checkedRanges_eq request with ⟨-, he⟩ | ⟨-, item, he⟩
        · right
          cases known with
          | sms =>
            have hcall : request.call =
                .ok (.sms (.text (trim destination)) clientType (.text (trim code)) ranges) := by
              simp [request, CodeRequest.call, hd, hc, hn, he, bind, Except.bind, pure,
                Except.pure]
            exact ⟨_, hcall, .send .sms _ _ ht ranges⟩
          | voice =>
            have hcall : request.call =
                .ok (.voice (.text (trim destination)) (.text (trim code)) ranges) := by
              simp [request, CodeRequest.call, hd, hc, hn, he, bind, Except.bind, pure,
                Except.pure]
            exact ⟨_, hcall, .send .voice _ _ .absent ranges⟩
        · have hcall : request.call = .error (.invalidRange item) := by
            simp [request, CodeRequest.call, hd, hc, hn, he, bind, Except.bind]
          exact .inl ⟨_, _, hcall, rfl⟩

theorem approvalReport_call_cases (id : Text) (agent : Json) {context : Json}
    (hc : context.IsOption) :
    let report : ApprovalReport := ⟨.text id, agent, context⟩
    (∃ error shown, report.call (.text registration) = .error error ∧
        error.userError = .ok shown) ∨
      ∃ call, report.call (.text registration) = .ok call ∧ IsCommanded call := by
  intro report
  obtain ⟨t, ht⟩ := trimmedText_of_isOption hc
  by_cases hi : trim id = []
  · have hcall : report.call (.text registration) = .error .noVerificationId := by
      simp [report, ApprovalReport.call, hi, bind, Except.bind, CodeRequest.throw_eq_error]
    exact .inl ⟨_, _, hcall, rfl⟩
  · have hcall : report.call (.text registration) = .ok (.confirm ⟨.text (trim id), agent,
        if t.isEmpty then .text registration else .text t⟩) := by
      simp [report, ApprovalReport.call, hi, ht, bind, Except.bind, pure, Except.pure]
    exact .inr ⟨_, hcall, .confirm _ _ _⟩

/-- What a command is turned down for before it reaches a provider: languages that cannot be read,
or a request or a report that the workflow refuses. -/
inductive Command.IsDeclined (random : Int) : Command → Prop
  | languages {destination : Text} {code channel clientType languages : Json} {error : RangeError}
    (h : Header.read languages.textOrEmpty = .error error) :
    IsDeclined random (.send destination code channel clientType languages)
  | request {destination : Text} {code channel clientType languages : Json}
    {ranges : List LanguageRange} {error : WorkflowError}
    (hr : Header.read languages.textOrEmpty = .ok ranges)
    (h : CodeRequest.call ⟨.text destination, codeOrRandom random code, channel, clientType,
      ranges.map .built⟩ = .error error) :
    IsDeclined random (.send destination code channel clientType languages)
  | report {id : Text} {agent context : Json} {error : WorkflowError}
    (h : ApprovalReport.call ⟨.text id, agent, context⟩ (.text registration) = .error error) :
    IsDeclined random (.approve id agent context)

theorem ofWorkflow_of_userError {error : WorkflowError} {shown : UserError}
    (h : error.userError = .ok shown) : Obstacle.ofWorkflow error = .trouble (.user shown) := by
  rw [Obstacle.ofWorkflow, h]

/-- A command is declined with an error for users, or makes a call. -/
theorem Command.call_cases {command : Command} (h : command.HasOptions) (random : Int) :
    (command.IsDeclined random ∧ ∃ trouble, command.call random = .error (.trouble trouble)) ∨
      (¬ command.IsDeclined random ∧
        ∃ call, command.call random = .ok call ∧ IsCommanded call) := by
  cases h with
  | @send destination code channel clientType languages hcode hchannel htype hlanguages =>
    cases hr : Header.read languages.textOrEmpty with
    | error error =>
      have hcall : (Command.send destination code channel clientType languages).call random =
          .error (.trouble (.invalidValue error.message)) := by
        rw [Command.call, hr]
        rfl
      exact .inl ⟨.languages hr, _, hcall⟩
    | ok ranges =>
      obtain ⟨t, ht⟩ := codeOrRandom_of_isOption hcode random
      have hsame : (Command.send destination code channel clientType languages).call random =
          (CodeRequest.call ⟨.text destination, codeOrRandom random code, channel, clientType,
            ranges.map .built⟩).mapError .ofWorkflow := by
        rw [Command.call, hr]
        rfl
      rcases codeRequest_call_cases destination t htype (ranges.map .built) with
        ⟨error, shown, he, hshown⟩ | ⟨call, hc, hcommanded⟩
      · rw [← ht] at he
        refine .inl ⟨.request hr he, .user shown, ?_⟩
        rw [hsame, he, Except.mapError, ofWorkflow_of_userError hshown]
      · rw [← ht] at hc
        refine .inr ⟨fun hdeclined => ?_, call, by rw [hsame, hc]; rfl, hcommanded⟩
        cases hdeclined with
        | languages h =>
          rw [hr] at h
          cases h
        | request hr' h =>
          rw [hr] at hr'
          cases hr'
          rw [hc] at h
          cases h
  | @approve id agent context hagent hcontext =>
    have hsame : (Command.approve id agent context).call random =
        (ApprovalReport.call ⟨.text id, agent, context⟩ (.text registration)).mapError
          .ofWorkflow := rfl
    rcases approvalReport_call_cases id agent hcontext with
      ⟨error, shown, he, hshown⟩ | ⟨call, hc, hcommanded⟩
    · refine .inl ⟨.report he, .user shown, ?_⟩
      rw [hsame, he, Except.mapError, ofWorkflow_of_userError hshown]
    · refine .inr ⟨fun hdeclined => ?_, call, by rw [hsame, hc]; rfl, hcommanded⟩
      cases hdeclined with
      | report h =>
        rw [hc] at h
        cases h

/-! ## Answers -/

theorem offline_answer {call : Call} (h : IsCommanded call) (provider : Offline) :
    ∃ result, (provider.call call).1 = .ok result := by
  cases h with
  | @send known destination code clientType htype ranges =>
    let call : SendCall := ⟨.text known.name, .text destination, .text code, clientType, ranges⟩
    have hd : call.destination = .text destination := rfl
    obtain ⟨id, ha⟩ := provider.answer_send_text hd
    exact ⟨_, ha⟩
  | confirm id agent context =>
    rw [Offline.call_confirm, Offline.confirm_text]
    exact ⟨_, rfl⟩

theorem trouble_of_refused {client : Client} {call : Call} (h : IsCommanded call)
    {error : RequestError} (hr : (client.call call).1.answer = .error error) :
    ∃ trouble, Obstacle.ofRequest error = .trouble trouble := by
  cases h with
  | @send known destination code clientType htype ranges =>
    obtain ⟨t, ht⟩ := htype.requireText
    have hreads : readsMessages clientType = .ok (androidMark.isPrefixOf t) := by
      rw [readsMessages, ht]
      rfl
    obtain ⟨letter, hc⟩ := client.compose_send_of_known known (.text destination) (.text code)
      hreads ranges
    rw [Client.answer_call_eq_error_iff, hc] at hr
    cases hr
  | confirm id agent context =>
    rcases Client.answer_confirm_eq_error_iff.1 hr with ⟨-, rfl⟩ | ⟨fault, -, rfl⟩ <;>
      exact ⟨_, rfl⟩

end OneTimeCode.CommandLine
