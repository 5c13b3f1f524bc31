import OneTimeCode.Proofs.Verification.Course

/-!
# What promises hold

A promise that nobody cancelled is fulfilled as soon as the job behind it is settled, whatever the
transport, the session and the sink of counts do, with one exception: a failure whose status or code
is infinite breaks it.
-/
namespace OneTimeCode

/-- The response that decides the call overflows. -/
def Course.Overflows (course : Course) : Prop :=
  ∃ response, course = .settled (some (.response response)) ∧ response.Overflows

/-- A settled job breaks the promise if its response overflows, and fulfils it otherwise. -/
theorem Course.promise_settled (purpose : Purpose) (deciding : Option Outcome) :
    (settled deciding).Overflows ∧
        (settled deciding).promise purpose = some (.broken .infiniteNumber) ∨
      ¬ (settled deciding).Overflows ∧ ∃ value, purpose.Accepts value ∧
        (settled deciding).promise purpose = some (.fulfilled value) := by
  have hfailed (hne : ∀ response, deciding ≠ some (.response response)) :
      ¬ (settled deciding).Overflows := by
    rintro ⟨response, hd, -⟩
    exact hne response (settled.inj hd)
  cases deciding with
  | none => exact .inr ⟨hfailed (by simp), _, purpose.accepts_failed, rfl⟩
  | some outcome =>
    cases outcome with
    | fault kind reason => exact .inr ⟨hfailed (by simp), _, purpose.accepts_failed, rfl⟩
    | response response =>
      rcases purpose.handle_response response with ⟨ho, hr⟩ | ⟨ho, value, ha, hr⟩
      · refine .inl ⟨⟨response, rfl, ho⟩, ?_⟩
        rw [promise, Purpose.resolution, hr]
      · refine .inr ⟨?_, value, ha, ?_⟩
        · rintro ⟨other, hd, hover⟩
          cases hd
          exact ho hover
        · rw [promise, Purpose.resolution, hr]

namespace Course

theorem not_overflows_refused : ¬ Course.refused.Overflows := by
  rintro ⟨response, h, -⟩
  cases h

theorem not_overflows_waiting : ¬ Course.waiting.Overflows := by
  rintro ⟨response, h, -⟩
  cases h

theorem promise_eq_none_iff (course : Course) (purpose : Purpose) :
    course.promise purpose = none ↔ course = .refused := by
  cases course <;> simp [promise]

theorem promise_eq_pending_iff (course : Course) (purpose : Purpose) :
    course.promise purpose = some .pending ↔ course = .waiting := by
  cases course <;> simp [promise, Purpose.resolution_ne_pending]

theorem promise_eq_broken_iff (course : Course) (purpose : Purpose) :
    (∃ error, course.promise purpose = some (.broken error)) ↔ course.Overflows := by
  cases course with
  | refused => simp [promise, not_overflows_refused]
  | waiting => simp [promise, not_overflows_waiting]
  | settled deciding =>
    rcases promise_settled purpose deciding with ⟨ho, h⟩ | ⟨ho, value, -, h⟩
    · exact ⟨fun _ => ho, fun _ => ⟨.infiniteNumber, h⟩⟩
    · simp [h, ho]

theorem promise_eq_fulfilled {course : Course} {deciding : Option Outcome} (purpose : Purpose)
    (hc : course = .settled deciding) (ho : ¬ course.Overflows) :
    ∃ value, purpose.Accepts value ∧ course.promise purpose = some (.fulfilled value) := by
  subst hc
  rcases promise_settled purpose deciding with ⟨h, -⟩ | ⟨-, h⟩
  · exact absurd h ho
  · exact h

end Course

namespace Client

/-- The promise of a call in every run: only the caller cancels it, it is open exactly while its job
waits, it is broken exactly if the deciding response overflows, and in all other cases it is
fulfilled by a value of the call's kind once its job is settled. -/
theorem promise_broken_iff_overflows (client : Client) (call : Call) (later : List Action) :
    (client.promiseOf call later = some .cancelled →
      .cancelPromise client.tickets.length ∈ later) ∧
    (client.promiseOf call later ≠ some .cancelled →
      (client.promiseOf call later = none ↔ client.courseOf call later = .refused) ∧
      (client.promiseOf call later = some .pending ↔ client.courseOf call later = .waiting) ∧
      ((∃ error, client.promiseOf call later = some (.broken error)) ↔
        (client.courseOf call later).Overflows) ∧
      ∀ deciding, client.courseOf call later = .settled deciding →
        ¬ (client.courseOf call later).Overflows → ∃ value, call.purpose.Accepts value ∧
          client.promiseOf call later = some (.fulfilled value)) := by
  rcases client.promiseOf_eq call later with h | ⟨h, hmem⟩
  · rw [h]
    refine ⟨fun hc => absurd hc (Course.promise_ne_cancelled _ _), fun _ => ⟨?_, ?_, ?_, ?_⟩⟩
    · exact Course.promise_eq_none_iff ..
    · exact Course.promise_eq_pending_iff ..
    · exact Course.promise_eq_broken_iff ..
    · intro deciding hd ho
      exact Course.promise_eq_fulfilled call.purpose hd ho
  · exact ⟨fun _ => hmem, fun hn => absurd h hn⟩

theorem promise_broken_by_infinite_code :
    (Client.scripted [.response ⟨some 404, "\x7b\"code\":1e999\x7d",
        [("Content-Type", "application/json")]⟩]).promiseOf
      (.sms (.text "+14155551234") .null (.text "123456") []) [] =
        some (.broken .infiniteNumber) := by
  decide +kernel

end Client
end OneTimeCode
