import OneTimeCode.Proofs.Named
import OneTimeCode.Proofs.Transport.Deciding

/-!
# Retrying

A job posts its letter until an outcome decides, and then no more; failures of the connection are
noted with their numbers. If the connection fails in all attempts, the address is unreachable.
-/
namespace OneTimeCode

namespace Outcome

/-- Apart from a failure of the connection, a failure is reported by its own reason. -/
theorem message_of_answer {outcome : Outcome} (h : outcome.isConnectivity = false) {url : Text}
    {error : TransportError} (he : outcome.answer url = .error error) :
    error.message = outcome.reason := by
  cases outcome with
  | response found => cases he
  | fault kind cause =>
    simp only [answer] at he
    split at he
    · next hf => simp [isConnectivity, hf] at h
    · cases he
      rfl
    · cases he
      rfl

theorem context_of_answer {outcome : Outcome} {url : Text} {error : TransportError}
    (he : outcome.answer url = .error error) :
    error.context = some ("POST " ++ url) ∨ ∃ kind reason, error = .defect kind reason := by
  cases outcome with
  | response found => cases he
  | fault kind cause =>
    simp only [answer] at he
    split at he
    · cases he
      exact .inl rfl
    · cases he
      exact .inl rfl
    · cases he
      exact .inr ⟨_, _, rfl⟩

end Outcome

namespace Script

/-- The post with that number, counted from zero, is the first that does not meet a failure of the
connection. -/
structure Decides (script : Script) (n : Nat) : Prop where
  earlier : ∀ i < n, (script.outcome i).isConnectivity = true
  decided : (script.outcome n).isConnectivity = false

/-- What is left of a script after so many posts. -/
def rest (script : Script) : Nat → Script
  | 0 => script
  | n + 1 => script.play.2.rest n

theorem outcome_rest (script : Script) (n i : Nat) :
    (script.rest n).outcome i = script.outcome (n + i) := by
  induction n generalizing script with
  | zero => rw [rest, Nat.zero_add]
  | succ n ih => rw [rest, ih, outcome_play_snd, Nat.add_right_comm]

theorem rest_succ (script : Script) (n : Nat) : script.rest (n + 1) = (script.rest n).play.2 := by
  induction n generalizing script with
  | zero => rfl
  | succ n ih => exact ih script.play.2

theorem decides_or (script : Script) (n : Nat) :
    (∃ k < n, script.Decides k) ∨ ∀ i < n, (script.outcome i).isConnectivity = true := by
  induction n with
  | zero => exact .inr fun i hi => absurd hi (Nat.not_lt_zero i)
  | succ n ih =>
    rcases ih with ⟨k, hk, hd⟩ | hall
    · exact .inl ⟨k, Nat.lt_succ_of_lt hk, hd⟩
    · cases hn : (script.outcome n).isConnectivity with
      | false => exact .inl ⟨n, Nat.lt_succ_self n, hall, hn⟩
      | true =>
        right
        intro i hi
        rcases Nat.lt_succ_iff_lt_or_eq.1 hi with hi | rfl
        · exact hall i hi
        · exact hn

/-- Some outcome decides within the attempts, or else at most a later one does. -/
theorem decides_cases (script : Script) (r : Int) :
    (∃ k : Nat, (k : Int) ≤ r ∧ script.Decides k) ∨ ∀ k : Nat, script.Decides k → r < k := by
  by_cases hd : ∃ k : Nat, (k : Int) ≤ r ∧ script.Decides k
  · exact .inl hd
  · right
    intro k hk
    by_contra hle
    exact hd ⟨k, Int.not_lt.1 hle, hk⟩

end Script

namespace Delivery

def notes (post : Post) (total first count : Nat) (script : Script) : List LogEntry :=
  (List.range count).map fun i => attemptFailed post (first + i) total (script.outcome i).reason

theorem notes_succ (post : Post) (total first count : Nat) (script : Script) :
    notes post total first (count + 1) script =
      attemptFailed post first total script.play.1.reason ::
        notes post total (first + 1) count script.play.2 := by
  rw [notes, List.range_succ_eq_map, List.map_cons, List.map_map, Script.play_fst]
  congr 1
  apply List.map_congr_left
  intro i _
  simp only [Function.comp_apply, Script.outcome_play_snd, Nat.succ_eq_add_one]
  rw [Nat.add_assoc, Nat.add_comm i 1]

/-- The first `count` attempts that fail leave the others to be made. -/
theorem attempts_of_failures {count : Nat} {script : Script}
    (h : ∀ i < count, (script.outcome i).isConnectivity = true) (post : Post) {done left : Nat}
    {total : Nat} (ht : total = done + (count + left)) :
    attempts post total (count + left) script =
      (attempts post total left (script.rest count)).preceded (List.replicate count post)
        (notes post total (done + 1) count script) := by
  induction count generalizing script done with
  | zero =>
    rw [Nat.zero_add]
    rfl
  | succ count ih =>
    have hfirst : script.play.1.isConnectivity = true := by
      rw [Script.play_fst]
      exact h 0 (Nat.succ_pos count)
    have hlater (i : Nat) (hi : i < count) :
        (script.play.2.outcome i).isConnectivity = true := by
      rw [Script.outcome_play_snd]
      exact h (i + 1) (Nat.succ_lt_succ hi)
    have hnumber : total - (count + left) = done + 1 := by omega
    rw [Nat.add_right_comm, attempts_of_isConnectivity hfirst, hnumber,
      @ih script.play.2 hlater (done + 1) (by omega), notes_succ]
    rfl

/-- A job ends with the outcome that decides. -/
theorem attempts_of_decides {k attempts : Nat} {script : Script} (h : script.Decides k)
    (hk : k < attempts) (post : Post) : Delivery.attempts post attempts attempts script =
      ⟨(script.outcome k).answer post.url.display, List.replicate (k + 1) post,
        notes post attempts 1 k script, script.rest (k + 1)⟩ := by
  obtain ⟨left, rfl⟩ : ∃ left, attempts = k + (left + 1) := ⟨attempts - (k + 1), by omega⟩
  have hplay : (script.rest k).play.1 = script.outcome k := by
    rw [Script.play_fst, Script.outcome_rest, Nat.add_zero]
  have hdecided : (script.rest k).play.1.isConnectivity = false := by rw [hplay, h.decided]
  rw [attempts_of_failures h.earlier post (Nat.zero_add _).symm, attempts_of_decided hdecided,
    hplay, ← Script.rest_succ, List.replicate_succ']
  simp only [preceded, List.append_nil]

theorem attempts_exhausted {attempts : Nat} {script : Script}
    (h : ∀ i < attempts, (script.outcome i).isConnectivity = true) (post : Post) :
    Delivery.attempts post attempts attempts script =
      ⟨.error (.unreachable post.url.display), List.replicate attempts post,
        notes post attempts 1 attempts script, script.rest attempts⟩ := by
  have hrun := @attempts_of_failures attempts script h post 0 0 attempts (Nat.zero_add _).symm
  rw [Nat.add_zero] at hrun
  rw [hrun, Delivery.attempts]
  simp only [preceded, failed, List.append_nil, Nat.zero_add]

end Delivery

/-! ## What is posted -/

/-- The post of a letter under a policy. Its headers are the common ones and those of the letter,
which count where both have the name. Its timeout is that of the letter, unless it is null or zero
or missing in another way. -/
structure Post.Carries (post : Post) (policy : Policy) (letter : Letter) : Prop where
  url : post.url = letter.url
  body : Form.encode letter.form = .ok post.body
  names : (post.headers.map (·.1)).Nodup
  headers : ∀ name, Named.get? name post.headers =
    (Named.get? name (Named.ofList letter.headers)).or (Named.get? name commonHeaders)
  timeout : post.timeout = if letter.timeout.isMissing then policy.timeout else letter.timeout
  wholeTimeout : ∀ n, letter.timeout = .int n →
    post.timeout = if n = 0 then policy.timeout else .int n

theorem Letter.allHeaders_perm (letter : Letter) :
    letter.allHeaders.Perm (Named.ofList (commonHeaders ++ letter.headers)) :=
  List.mergeSort_perm _ _

theorem Letter.nodup_allHeaders (letter : Letter) : (letter.allHeaders.map (·.1)).Nodup :=
  (letter.allHeaders_perm.map _).nodup_iff.2 (Named.nodup_names_ofList _)

theorem Letter.get?_allHeaders (letter : Letter) (name : Text) :
    Named.get? name letter.allHeaders =
      (Named.get? name (Named.ofList letter.headers)).or (Named.get? name commonHeaders) := by
  have hcommon : Named.ofList commonHeaders = commonHeaders := Named.ofList_of_nodup (by decide)
  rw [Named.get?_perm letter.allHeaders_perm letter.nodup_allHeaders, Named.get?_ofList_append,
    hcommon]

theorem Policy.carries_of_post {policy : Policy} {letter : Letter} {post : Post}
    (h : policy.post letter = .ok post) : post.Carries policy letter := by
  obtain ⟨body, hb, rfl⟩ := map_eq_ok_iff.1 h
  refine ⟨rfl, hb, letter.nodup_allHeaders, letter.get?_allHeaders, rfl, fun n hn => ?_⟩
  simp [Policy.timeoutFor, hn, Json.isMissing]

/-! ## What a session does with a letter -/

namespace Session

/-- How a session whose policy allows `r` retries does a job that makes the post. The first outcome
that is no failure of the connection decides, if it comes within the attempts; else the attempts are
used up. Without an attempt nothing is posted. -/
structure Tries (session : Session) (letter : Letter) (post : Post) (r : Int) : Prop where
  decided : ∀ k : Nat, (k : Int) ≤ r → session.script.Decides k →
    (session.send letter).1 =
      ⟨(session.script.outcome k).answer post.url.display, List.replicate (k + 1) post,
        Delivery.notes post (r + 1).toNat 1 k session.script, session.script.rest (k + 1)⟩
  exhausted : 0 ≤ r → (∀ k : Nat, session.script.Decides k → r < k) →
    (session.send letter).1 =
      ⟨.error (.unreachable post.url.display), List.replicate (r + 1).toNat post,
        Delivery.notes post (r + 1).toNat 1 (r + 1).toNat session.script,
        session.script.rest (r + 1).toNat⟩
  unattempted : r < 0 →
    (session.send letter).1 = .failed (.unattempted post.url.display) session.script
  /-- The error of an outcome that decides says what the outcome says. -/
  message : ∀ k : Nat, (k : Int) ≤ r → session.script.Decides k →
    ∀ error, (session.send letter).1.answer = .error error →
      error.message = (session.script.outcome k).reason
  /-- Every error but a defect names the request in question. -/
  context : ∀ error, (session.send letter).1.answer = .error error →
    error.context = some ("POST " ++ post.url.display) ∨ ∃ kind reason, error = .defect kind reason

theorem send_of_post {session : Session} {letter : Letter} {post : Post} {r : Int}
    (hr : session.policy.retries.whole? = some r) (hp : session.policy.post letter = .ok post) :
    (session.send letter).1 =
      if r < 0 then .failed (.unattempted post.url.display) session.script
      else Delivery.attempts post (r + 1).toNat (r + 1).toNat session.script := by
  have hattempts : session.policy.attempts? = some (r + 1).toNat := by
    rw [Policy.attempts?, hr]
    rfl
  simp only [send, Policy.deliver, hp, Policy.attempt, hattempts]
  split
  · next he => cases he
  · next he =>
    have hneg : r < 0 := by
      simp only [Option.some.injEq] at he
      omega
    rw [if_pos hneg]
  · next attempts hne he =>
    cases he
    have hnonneg : ¬ r < 0 := by
      intro hneg
      exact hne (by simp; omega)
    rw [if_neg hnonneg]

theorem tries_of_post {session : Session} {letter : Letter} {post : Post} {r : Int}
    (hr : session.policy.retries.whole? = some r) (hp : session.policy.post letter = .ok post) :
    session.Tries letter post r := by
  have hsend := send_of_post hr hp
  have hdecided (k : Nat) (hk : (k : Int) ≤ r) (hd : session.script.Decides k) :
      (session.send letter).1 =
        ⟨(session.script.outcome k).answer post.url.display, List.replicate (k + 1) post,
          Delivery.notes post (r + 1).toNat 1 k session.script,
          session.script.rest (k + 1)⟩ := by
    rw [hsend, if_neg (by omega)]
    exact Delivery.attempts_of_decides hd (by omega) post
  have hexhausted (hnonneg : 0 ≤ r) (hlate : ∀ k : Nat, session.script.Decides k → r < k) :
      (session.send letter).1 =
        ⟨.error (.unreachable post.url.display), List.replicate (r + 1).toNat post,
          Delivery.notes post (r + 1).toNat 1 (r + 1).toNat session.script,
          session.script.rest (r + 1).toNat⟩ := by
    rw [hsend, if_neg (by omega)]
    apply Delivery.attempts_exhausted
    rcases session.script.decides_or (r + 1).toNat with ⟨k, hk, hd⟩ | hall
    · have := hlate k hd
      omega
    · exact hall
  have hunattempted (hneg : r < 0) :
      (session.send letter).1 = .failed (.unattempted post.url.display) session.script := by
    rw [hsend, if_pos hneg]
  refine ⟨hdecided, hexhausted, hunattempted, fun k hk hd error he => ?_, fun error he => ?_⟩
  · rw [hdecided k hk hd] at he
    exact Outcome.message_of_answer hd.decided he
  · by_cases hneg : r < 0
    · rw [hunattempted hneg] at he
      cases he
      exact .inl rfl
    · rcases session.script.decides_cases r with ⟨k, hk, hd⟩ | hlate
      · rw [hdecided k hk hd] at he
        exact Outcome.context_of_answer he
      · rw [hexhausted (Int.not_lt.1 hneg) hlate] at he
        cases he
        exact .inl rfl

theorem Tries.length_posts {session : Session} {letter : Letter} {post : Post} {r : Int}
    (h : session.Tries letter post r) (hr : 0 ≤ r) :
    1 ≤ (session.send letter).1.posts.length ∧
      ((session.send letter).1.posts.length : Int) ≤ r + 1 := by
  rcases session.script.decides_cases r with ⟨k, hk, hd⟩ | hlate
  · rw [h.decided k hk hd, List.length_replicate]
    omega
  · rw [h.exhausted hr hlate, List.length_replicate]
    omega

end Session
end OneTimeCode
