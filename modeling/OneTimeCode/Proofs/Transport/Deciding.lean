import OneTimeCode.Transport.Session
import OneTimeCode.Proofs.Encoding.Form

/-!
# Deciding outcomes

The posts of a job meet the outcomes of the script one after the other. The first outcome that is no
failure of the connection decides, if it comes within the attempts: the job is answered by a response
exactly if that response decides. All posts of a job are the same.
-/
namespace OneTimeCode

namespace Outcome

def isConnectivity : Outcome → Bool
  | .response _ => false
  | .fault kind _ => kind.family = .connectivity

def reason : Outcome → Text
  | .response _ => []
  | .fault _ cause => cause

/-- What the last outcome of a job is to the caller who asked for that address. -/
def answer (url : Text) : Outcome → Except TransportError Response
  | .response found => .ok found
  | .fault kind cause =>
    match kind.family with
    | .connectivity => .error (.unreachable url)
    | .rejection => .error (.rejected url cause)
    | .defect defect => .error (.defect defect cause)

theorem answer_eq_ok_iff {outcome : Outcome} {url : Text} {found : Response} :
    outcome.answer url = .ok found ↔ outcome = .response found := by
  cases outcome with
  | response other => simp [answer]
  | fault kind cause =>
    simp only [answer]
    split <;> simp

end Outcome

namespace Script

/-- The outcome of the post with that number, counted from zero; the last outcome repeats. -/
def outcome (script : Script) (n : Nat) : Outcome :=
  script[n]?.getD (script.getLast?.getD unforeseen)

def deciding? (script : Script) (attempts : Nat) : Option Outcome :=
  ((List.range attempts).map script.outcome).find? (!·.isConnectivity)

theorem play_fst (script : Script) : script.play.1 = script.outcome 0 := by
  cases script with
  | nil => rfl
  | cons outcome rest => cases rest <;> rfl

theorem outcome_play_snd (script : Script) (n : Nat) :
    script.play.2.outcome n = script.outcome (n + 1) := by
  cases script with
  | nil => simp [play, outcome]
  | cons first rest =>
    cases rest with
    | nil => cases n <;> simp [play, outcome]
    | cons second rest => simp [play, outcome, List.getLast?_cons_cons]

theorem deciding?_zero (script : Script) : script.deciding? 0 = none := rfl

theorem deciding?_succ (script : Script) (attempts : Nat) :
    script.deciding? (attempts + 1) =
      if script.play.1.isConnectivity then script.play.2.deciding? attempts
      else some script.play.1 := by
  have hrest : (List.map (script.outcome ∘ Nat.succ) (List.range attempts)) =
      (List.range attempts).map script.play.2.outcome := by
    apply List.map_congr_left
    intro n _
    exact (outcome_play_snd script n).symm
  rw [deciding?, List.range_succ_eq_map, List.map_cons, List.map_map, hrest, ← play_fst]
  cases hc : script.play.1.isConnectivity with
  | true => rw [List.find?_cons_of_neg (by simp [hc]), if_pos rfl, deciding?]
  | false => rw [List.find?_cons_of_pos (by simp [hc]), if_neg (by simp)]

end Script

namespace Delivery

def preceded (later : Delivery) (posts : List Post) (log : List LogEntry) : Delivery :=
  { later with posts := posts ++ later.posts, log := log ++ later.log }

/-- A failure of the connection is noted, and the other attempts follow. -/
theorem attempts_of_isConnectivity {script : Script}
    (h : script.play.1.isConnectivity = true) (post : Post) (total left : Nat) :
    attempts post total (left + 1) script = (attempts post total left script.play.2).preceded
      [post] [attemptFailed post (total - left) total script.play.1.reason] := by
  rw [attempts]
  cases hp : script.play with
  | mk outcome rest =>
    rw [hp] at h
    cases outcome with
    | response response => cases h
    | fault fault reason =>
      have hf : fault.family = .connectivity := of_decide_eq_true h
      simp only [hf]
      rfl

theorem attempts_of_decided {script : Script} (h : script.play.1.isConnectivity = false)
    (post : Post) (total left : Nat) : attempts post total (left + 1) script =
      ⟨script.play.1.answer post.url.display, [post], [], script.play.2⟩ := by
  rw [attempts]
  cases hp : script.play with
  | mk outcome rest =>
    rw [hp] at h
    cases outcome with
    | response response => rfl
    | fault fault reason =>
      simp only [Outcome.answer]
      cases hf : fault.family with
      | connectivity => simp [Outcome.isConnectivity, hf] at h
      | rejection => rfl
      | defect kind => rfl

/-- An attempt decides, or the connection fails and the other attempts follow. -/
theorem attempts_succ_cases (post : Post) (total left : Nat) (script : Script) :
    (∃ answer, attempts post total (left + 1) script = ⟨answer, [post], [], script.play.2⟩) ∨
      ∃ reason, attempts post total (left + 1) script =
        { attempts post total left script.play.2 with
          posts := post :: (attempts post total left script.play.2).posts
          log := attemptFailed post (total - left) total reason ::
            (attempts post total left script.play.2).log } := by
  cases h : script.play.1.isConnectivity with
  | false => exact .inl ⟨_, attempts_of_decided h post total left⟩
  | true => exact .inr ⟨_, attempts_of_isConnectivity h post total left⟩

/-- A job that makes posts is answered by the deciding response, if a response decides. -/
theorem answer_attempts_eq_ok_iff (post : Post) (total left : Nat) (script : Script)
    (response : Response) : (attempts post total left script).answer = .ok response ↔
      script.deciding? left = some (.response response) := by
  induction left generalizing script with
  | zero => simp [attempts, failed, Script.deciding?_zero]
  | succ left ih =>
    rw [Script.deciding?_succ]
    cases h : script.play.1.isConnectivity with
    | false =>
      rw [attempts_of_decided h, if_neg Bool.false_ne_true, Option.some.injEq]
      exact Outcome.answer_eq_ok_iff
    | true =>
      rw [attempts_of_isConnectivity h, if_pos rfl]
      exact ih script.play.2

theorem posts_attempts_ne_nil (post : Post) (total left : Nat) (script : Script) :
    (attempts post total (left + 1) script).posts ≠ [] := by
  rcases attempts_succ_cases post total left script with ⟨answer, he⟩ | ⟨reason, he⟩
  · rw [he]
    exact List.cons_ne_nil _ _
  · rw [he]
    exact List.cons_ne_nil _ _

theorem mem_posts_attempts {post : Post} {total left : Nat} {script : Script} {made : Post}
    (h : made ∈ (attempts post total left script).posts) : made = post := by
  induction left generalizing script with
  | zero => exact absurd h (by simp [attempts, failed])
  | succ left ih =>
    rcases attempts_succ_cases post total left script with ⟨answer, he⟩ | ⟨reason, he⟩
    · rw [he] at h
      exact List.mem_singleton.1 h
    · rw [he] at h
      rcases List.mem_cons.1 h with h | h
      · exact h
      · exact ih h

theorem length_posts_attempts_le (post : Post) (total left : Nat) (script : Script) :
    (attempts post total left script).posts.length ≤ left := by
  induction left generalizing script with
  | zero => exact Nat.le_refl 0
  | succ left ih =>
    rcases attempts_succ_cases post total left script with ⟨answer, he⟩ | ⟨reason, he⟩
    · rw [he]
      exact Nat.succ_le_succ (Nat.zero_le left)
    · rw [he]
      exact Nat.succ_le_succ (ih _)

end Delivery

theorem Policy.deliver_cases (policy : Policy) (letter : Letter) (script : Script) :
    (∃ error, policy.deliver letter script = .failed error script) ∨
      ∃ post attempts, policy.post letter = .ok post ∧
        policy.deliver letter script = Delivery.attempts post attempts attempts script := by
  unfold deliver
  cases policy.post letter with
  | error fault => exact .inl ⟨_, rfl⟩
  | ok post =>
    simp only [attempt]
    split
    · exact .inl ⟨_, rfl⟩
    · exact .inl ⟨_, rfl⟩
    · exact .inr ⟨post, _, rfl, rfl⟩

/-- How many attempts a policy allows; retries that cannot be counted allow none. -/
def Policy.attemptCount (policy : Policy) : Nat := policy.attempts?.getD 0

namespace Session

/-- The outcome that decides a job for the letter; none if the letter cannot be encoded, so that
nothing is posted. -/
def deciding? (session : Session) (letter : Letter) : Option Outcome :=
  if Form.AreEncodable letter.form then
    session.script.deciding? session.policy.attemptCount
  else none

theorem post_of_areEncodable (policy : Policy) {letter : Letter}
    (h : Form.AreEncodable letter.form) : ∃ body, Form.encode letter.form = .ok body ∧
      policy.post letter =
        .ok ⟨letter.url, body, letter.allHeaders, policy.timeoutFor letter.timeout⟩ := by
  obtain ⟨body, hb⟩ := Form.encode_of_areEncodable h
  exact ⟨body, hb, by rw [Policy.post, hb]; rfl⟩

theorem post_of_not_areEncodable (policy : Policy) {letter : Letter}
    (h : ¬ Form.AreEncodable letter.form) : ∃ fault, policy.post letter = .error fault := by
  obtain ⟨fault, hf⟩ := Form.encode_of_not_areEncodable h
  exact ⟨fault, by rw [Policy.post, hf]; rfl⟩

/-- A post goes where its letter says, with the letter's form as its body. -/
theorem post_eq_ok {policy : Policy} {letter : Letter} {made : Post}
    (h : policy.post letter = .ok made) :
    made.url = letter.url ∧ Form.encode letter.form = .ok made.body := by
  obtain ⟨body, hb, rfl⟩ := map_eq_ok_iff.1 h
  exact ⟨rfl, hb⟩

/-- A session answers a letter by a response exactly if that response decides. -/
theorem answer_send_eq_ok_iff (session : Session) (letter : Letter) (response : Response) :
    (session.send letter).1.answer = .ok response ↔
      session.deciding? letter = some (.response response) := by
  simp only [send, deciding?, Policy.deliver]
  by_cases h : Form.AreEncodable letter.form
  · obtain ⟨body, -, hp⟩ := post_of_areEncodable session.policy h
    rw [hp, if_pos h, Policy.attemptCount]
    simp only [Policy.attempt]
    cases ha : session.policy.attempts? with
    | none => simp [Delivery.failed, Script.deciding?_zero]
    | some attempts =>
      cases attempts with
      | zero => simp [Delivery.failed, Script.deciding?_zero]
      | succ attempts => exact Delivery.answer_attempts_eq_ok_iff ..
  · obtain ⟨fault, hp⟩ := post_of_not_areEncodable session.policy h
    simp [hp, h, Delivery.failed]

/-- An encodable letter is posted if the policy allows any attempt. -/
theorem posts_send_ne_nil {session : Session} {letter : Letter}
    (h : Form.AreEncodable letter.form) (ha : 0 < session.policy.attemptCount) :
    (session.send letter).1.posts ≠ [] := by
  obtain ⟨body, -, hp⟩ := post_of_areEncodable session.policy h
  unfold Policy.attemptCount at ha
  simp only [send, Policy.deliver, hp, Policy.attempt]
  cases hc : session.policy.attempts? with
  | none => simp [hc] at ha
  | some attempts =>
    cases attempts with
    | zero => simp [hc] at ha
    | succ attempts => exact Delivery.posts_attempts_ne_nil _ _ attempts _

/-- Whatever a session posts for a letter is the post of that letter. -/
theorem mem_posts_send {session : Session} {letter : Letter} {made : Post}
    (h : made ∈ (session.send letter).1.posts) : session.policy.post letter = .ok made := by
  rcases session.policy.deliver_cases letter session.script with ⟨error, he⟩ | ⟨post, n, hp, he⟩
  · rw [send, he] at h
    cases h
  · rw [send, he] at h
    rw [Delivery.mem_posts_attempts h, hp]

theorem length_posts_send_le (session : Session) (letter : Letter) :
    (session.send letter).1.posts.length ≤ session.policy.attemptCount := by
  simp only [send, Policy.deliver, Policy.attempt, Policy.attemptCount]
  split
  · exact Nat.zero_le _
  · split
    · exact Nat.zero_le _
    · exact Nat.zero_le _
    · next attempts _ ha =>
      rw [ha]
      exact Delivery.length_posts_attempts_le ..

end Session
end OneTimeCode
