import OneTimeCode.Proofs.Verification.Origins
import OneTimeCode.Proofs.Verification.Places

/-!
# Handing a letter over

A call that is not refused comes down to one job for one letter. A manual session lets the job wait,
and the first action that runs it makes its posts; any other session makes them during the call, or
never if it takes no jobs. All of them are posts of that letter.
-/
namespace OneTimeCode
namespace Client

/-- What the job of a call posts: during the call or, if the job has to wait, when it is run after
the actions. -/
def jobPosts (client : Client) (call : Call) (before : List Action) : List Post :=
  match client.session.executor with
  | .manual => (((client.act (.call call)).2.acts before).2.act
      (.runJob client.tickets.length)).1.posts
  | _ => (client.call call).1.posts

/-- The call comes down to one job for the letter, which is handed to the session. Nothing else is
posted, logged or changed. -/
structure HandsOver (client : Client) (call : Call) (letter : Letter) (purpose : Purpose) :
    Prop where
  composed : (client.compose call).answer = .ok (letter, purpose)
  taken : client.call call =
    (⟨.ok (client.submit { letter, purpose }).1.answer.promise,
      (client.submit { letter, purpose }).1.posts, (client.submit { letter, purpose }).1.log⟩,
      (client.submit { letter, purpose }).2)
  -- a manual session
  waits : client.session.executor = .manual → client.call call =
    (⟨.ok .pending, [], []⟩, { client with tickets := client.tickets ++ [{ letter, purpose }] })
  -- any other session
  answered : client.session.executor ≠ .manual → (client.call call).1.answer =
    .ok (purpose.resolution (if client.session.executor.accepts then
      client.session.deciding? letter else none))
  ignored : client.session.executor.accepts = false → (client.call call).1.posts = []
  -- the posts of the job, whenever it is done
  posted : ∀ before, ∀ made ∈ client.jobPosts call before,
    client.session.policy.post letter = .ok made
  within : ∀ before, (client.jobPosts call before).length ≤ client.session.policy.attemptCount
  attempted : ∀ before, (∀ action ∈ before, action.settles client.tickets.length = false) →
    client.session.executor.accepts = true → Form.AreEncodable letter.form →
      0 < client.session.policy.attemptCount → client.jobPosts call before ≠ []

variable {client : Client} {call : Call} {letter : Letter} {purpose : Purpose}

/-- The posts of a job are what some session with the policy of the client posts for the letter.
There are none only if the session takes no jobs or the job was settled before. -/
theorem jobPosts_cases (hc : (client.compose call).answer = .ok (letter, purpose))
    (before : List Action) :
    (∃ session : Session, session.policy = client.session.policy ∧
      client.jobPosts call before = (session.send letter).1.posts) ∨
    client.jobPosts call before = [] ∧ (client.session.executor.accepts = false ∨
      ∃ action ∈ before, action.settles client.tickets.length = true) := by
  by_cases hm : client.session.executor = .manual
  · have hposts : client.jobPosts call before = (((client.act (.call call)).2.acts before).2.act
        (.runJob client.tickets.length)).1.posts := by simp only [jobPosts, hm]
    rw [hposts]
    rcases ticket_acts_of_queued (queued?_after_call hm hc) before with
      ⟨-, ht, -⟩ | ⟨first, action, rest, settlement, hbefore, -, ht, -, -, hkind⟩
    · left
      refine ⟨((client.act (.call call)).2.acts before).2.session, ?_, ?_⟩
      · rw [policy_acts, policy_act]
      · rw [act_runJob_of_queued ht rfl]
        rfl
    · right
      have hjob : settlement.next.job ≠ .queued := by
        rw [settlement.next_job]
        rcases hkind with ⟨-, hj⟩ | ⟨-, hs⟩
        · simp [hj]
        · simp [hs, Settlement.abandoned]
      obtain ⟨answer, hact⟩ := act_of_queued?_eq_none (queued?_of_done ht hjob) (.inl rfl)
      refine ⟨by rw [hact], .inr ⟨action, ?_, ?_⟩⟩
      · rw [hbefore]
        exact List.mem_append_right _ List.mem_cons_self
      · rcases hkind with ⟨ha, -⟩ | ⟨ha, -⟩
        · exact Action.settles_iff.2 (.inl ha)
        · exact Action.settles_iff.2 (.inr ha)
  · have hposts : client.jobPosts call before = (client.call call).1.posts := by
      unfold jobPosts
      split
      · next he => exact absurd he hm
      · rfl
    rw [hposts, call_of_compose_ok hc, submit_of_ne_manual hm]
    cases ha : client.session.executor.accepts with
    | true => exact .inl ⟨client.session, rfl, rfl⟩
    | false => exact .inr ⟨rfl, .inl rfl⟩

theorem handsOver_of_compose (hc : (client.compose call).answer = .ok (letter, purpose))
    (hl : (client.compose call).log = []) : client.HandsOver call letter purpose := by
  have htaken := call_of_compose_ok hc
  rw [hl, List.nil_append] at htaken
  refine ⟨hc, htaken, fun hm => ?_, fun hm => ?_, fun ha => ?_, fun before made hmade => ?_,
    fun before => ?_, fun before hno ha he hp hnil => ?_⟩
  · rw [htaken, submit_of_manual hm]
  · rw [htaken]
    exact congrArg Except.ok (promise_submit hm rfl)
  · have hm : client.session.executor ≠ .manual := fun hm => by simp [hm, Executor.accepts] at ha
    rw [htaken, submit_of_ne_manual hm, ha]
    rfl
  · rcases jobPosts_cases hc before with ⟨session, hpolicy, hposts⟩ | ⟨hposts, -⟩
    · rw [← hpolicy]
      exact Session.mem_posts_send (hposts ▸ hmade)
    · rw [hposts] at hmade
      cases hmade
  · rcases jobPosts_cases hc before with ⟨session, hpolicy, hposts⟩ | ⟨hposts, -⟩
    · rw [hposts, ← hpolicy]
      exact session.length_posts_send_le letter
    · rw [hposts]
      exact Nat.zero_le _
  · rcases jobPosts_cases hc before with ⟨session, hpolicy, hposts⟩ | ⟨-, hrefused | hsettled⟩
    · exact Session.posts_send_ne_nil he (hpolicy ▸ hp) (hposts ▸ hnil)
    · rw [ha] at hrefused
      cases hrefused
    · obtain ⟨action, hmem, hsettles⟩ := hsettled
      rw [hno action hmem] at hsettles
      cases hsettles

end Client
end OneTimeCode
