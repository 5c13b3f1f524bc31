import OneTimeCode.Proofs.Settings
import OneTimeCode.Proofs.Transport.Retrying
import OneTimeCode.Proofs.Verification.Course
import OneTimeCode.Proofs.Verification.Origins
import OneTimeCode.Proofs.Verification.Places

/-!
# Attempts of a job

A session posts a letter until an outcome decides or its attempts are used up. The settings of a
client leave at least one attempt, so every job that its session does posts, and once more than
there are retries at most. No job is done twice.
-/
namespace OneTimeCode

/-- What a session whose policy allows `r` retries does with a letter. If its fields can be encoded,
there is one post to try, and else none. A session that takes the job on does the same. -/
structure Session.Retries (session : Session) (letter : Letter) (r : Int) : Prop where
  encodable : Form.AreEncodable letter.form →
    ∃ post : Post, post.Carries session.policy letter ∧ session.Tries letter post r
  unencodable : ¬ Form.AreEncodable letter.form →
    ∃ fault, (session.send letter).1 = .failed (.unencodable fault) session.script
  accepted : session.executor.accepts = true → session.submit letter = session.send letter

theorem Session.retries (session : Session) (letter : Letter) {r : Int}
    (hr : session.policy.retries.whole? = some r) : session.Retries letter r := by
  refine ⟨fun h => ?_, fun h => ?_, fun h => ?_⟩
  · obtain ⟨body, -, hp⟩ := post_of_areEncodable session.policy h
    exact ⟨_, Policy.carries_of_post hp, tries_of_post hr hp⟩
  · obtain ⟨fault, hp⟩ := post_of_not_areEncodable session.policy h
    exact ⟨fault, by simp only [send, Policy.deliver, hp]⟩
  · rw [submit, if_pos h]

/-! ## The retries of settings -/

theorem Settings.retries_nonneg {draft : Draft} {settings : Settings}
    (h : ofDraft draft = .ok settings) {r : Int} (hr : settings.retries.whole? = some r) :
    0 ≤ r := by
  have hlimit := (ofDraft_eq_ok_iff.1 h).retries
  simp only [checkLimit, Limit.refuses?] at hlimit
  split at hlimit
  · next hsign =>
    rw [← Except.ok.inj hlimit] at hr
    cases hgiven : draft.retries with
    | int n =>
      rw [hgiven] at hr hsign
      cases hr
      simpa [Json.isNegative?] using hsign
    | bool value =>
      rw [hgiven] at hr
      cases hr
      cases value <;> decide
    | null | float | text | list | object =>
      rw [hgiven] at hr
      cases hr
  · cases hlimit
  · cases hlimit

namespace Client

/-! ## What a run posts -/

/-- What a run posts if the settings allow `r` retries. A job that the session did for a letter that
can be encoded made a post, and at most `r + 1`. No other job made any, and none was done twice. -/
structure KeepsAttempts (client : Client) (r : Int) (actions : List Action) : Prop where
  posts : (client.acts actions).1.flatMap (·.posts) =
    (client.settlements actions).flatMap (·.posts)
  once : ∀ index, (client.settledAt index actions).length ≤ 1
  within : ∀ settlement ∈ client.settlements actions, settlement.job = .finished →
    Form.AreEncodable settlement.ticket.letter.form →
      1 ≤ settlement.posts.length ∧ (settlement.posts.length : Int) ≤ r + 1
  otherwise : ∀ settlement ∈ client.settlements actions,
    settlement.job ≠ .finished ∨ ¬ Form.AreEncodable settlement.ticket.letter.form →
      settlement.posts = []

theorem keepsAttempts {client : Client} {r : Int}
    (hr : client.session.policy.retries.whole? = some r) (hn : 0 ≤ r) (actions : List Action) :
    client.KeepsAttempts r actions := by
  refine ⟨client.posts_acts actions, fun index => client.length_settledAt_le_one index actions,
    fun settlement hs hj he => ?_, fun settlement hs hnot => ?_⟩
  · rcases kind_of_settlement hs with ⟨session, hp, hd⟩ | ⟨reason, hd⟩
    · obtain ⟨post, -, htries⟩ := (session.retries settlement.ticket.letter (hp ▸ hr)).encodable he
      have hlength := htries.length_posts hn
      rw [hd]
      exact hlength
    · rw [hd] at hj
      cases hj
  · rcases kind_of_settlement hs with ⟨session, hp, hd⟩ | ⟨reason, hd⟩
    · have hjob : settlement.job = .finished := by
        rw [hd]
        rfl
      have hposts : settlement.posts = (session.send settlement.ticket.letter).1.posts := by
        rw [hd]
        rfl
      obtain ⟨fault, hf⟩ := (session.retries settlement.ticket.letter (hp ▸ hr)).unencodable
        (hnot.resolve_left (absurd hjob))
      rw [hposts, hf]
      rfl
    · rw [hd]
      rfl

end Client

/-! ## Every session and every client -/

def Draft.plain : Draft where
  account := .text "AC1"
  token := .text "secret"
  service := .text "VA1"
  appHash := .text "hash"
  friendlyName := .text "Example Messenger"

theorem Settings.ofDraft_plain : ofDraft .plain = .ok .plain := rfl

def Letter.plain (destination : Text) : Letter where
  url := .text "https://verify.example"
  fields := [("To", .text destination)]
  headers := [("Accept", .text "text/plain")]
  timeout := .int 3

namespace Session

/-- Under a policy of `r` retries a session tries every letter that can be encoded until an outcome
decides. Settings allow no fewer than zero retries, so every job that the session does for a client
of such settings makes a post, and at most `r + 1`. -/
theorem tries_until_decided {session : Session} {r : Int}
    (hr : session.policy.retries.whole? = some r) :
    (∀ letter, session.Retries letter r) ∧
    ∀ (draft : Draft) (settings : Settings) (supported : List Text) (sink : Sink) (client : Client),
      Settings.ofDraft draft = .ok settings → session.policy = settings.policy →
      Client.connect settings supported session sink = .ok client →
      0 ≤ r ∧ ∀ actions, client.KeepsAttempts r actions := by
  refine ⟨fun letter => session.retries letter hr, ?_⟩
  intro draft settings supported sink client hd hp hc
  obtain ⟨authorization, -, rfl⟩ := Client.eq_of_connect hc
  have hsettings : settings.retries.whole? = some r := by
    rw [hp] at hr
    exact hr
  have hnonneg := Settings.retries_nonneg hd hsettings
  exact ⟨hnonneg, Client.keepsAttempts hr hnonneg⟩

theorem tries_until_second_answer :
    let script : Script := [.fault .timeout "slow", .response ⟨some 200, "ok", []⟩]
    let client := Client.scripted script
    let letter := Letter.plain "+14155551234"
    (∃ post : Post, post.timeout = .int 3 ∧
      Named.get? ("Accept" : Text) post.headers = some (Json.text "text/plain") ∧
      (client.session.send letter).1 = ⟨.ok ⟨some 200, "ok", []⟩, [post, post],
        [Delivery.attemptFailed post 1 3 "slow"], [.response ⟨some 200, "ok", []⟩]⟩) ∧
      client.session.submit letter = client.session.send letter ∧
      ∀ actions, client.KeepsAttempts 2 actions := by
  intro script client letter
  obtain ⟨hletters, hclients⟩ := @tries_until_decided client.session 2 rfl
  have hretries := hletters letter
  have hclient := hclients .plain .plain supportedLanguages .working client
    Settings.ofDraft_plain rfl (Client.connect_plain script)
  obtain ⟨post, hcarries, htries⟩ := hretries.encodable (by decide)
  have hdecides : script.Decides 1 := ⟨by decide, by decide⟩
  refine ⟨⟨post, hcarries.timeout, ?_, htries.decided 1 (by decide) hdecides⟩,
    hretries.accepted rfl, hclient.2⟩
  rw [hcarries.headers]
  rfl

/-- The first outcome would decide, but half of a character cannot be posted. -/
theorem half_field_not_posted :
    let session := (Client.scripted [.response ⟨some 200, "ok", []⟩]).session
    let letter := Letter.plain [.half 0]
    session.script.Decides 0 ∧ session.policy.retries.whole? = some 2 ∧
      (session.send letter).1.posts = [] ∧
      ∃ fault, (session.send letter).1.answer = .error (.unencodable fault) := by
  intro session letter
  obtain ⟨fault, hf⟩ := (@Session.retries session letter 2 rfl).unencodable (by decide)
  refine ⟨⟨by decide, by decide⟩, rfl, ?_, fault, ?_⟩
  · rw [hf]
    rfl
  · rw [hf]
    rfl

end Session
end OneTimeCode
