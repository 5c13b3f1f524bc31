import Mathlib.Data.List.Induction
import OneTimeCode.Log.Setup

/-!
# The log set up again and again

Whether a call sets up the log, and with which level, does not depend on the log. A call that fails
has changed nothing, and one that succeeds leaves the log of its level, with a handler of its own
only if there was none before. So after any calls the log is the one that the last successful call
alone would have left.
-/
namespace OneTimeCode.Log

def State.after (state : State) (setups : List Setup) : State :=
  setups.foldl (fun log setup => (log.setUp setup).2) state

/-! ## One call -/

/-- Step by step the log is set up as at once, and a fault comes before the first change. -/
theorem setUp_eq_configure {setup : Setup} {choice : LevelChoice}
    (h : LevelChoice.ofJson setup.given = .ok choice) (state : State) : state.setUp setup =
      match state.configure setup.environment choice with
      | .ok (level, next) => (.ok level, next)
      | .error error => (.error (.level error), state) := by
  have hsteps (level : Int) :
      ((state.handle level).setLevel level).setPoolLevel level = state.apply level := by
    unfold State.handle State.apply
    split <;> rfl
  unfold State.setUp Setup.steps State.configure
  simp only [h, Except.mapError, ofExcept, pure_bind]
  cases effectiveLevel setup.environment choice with
  | error error => rfl
  | ok level =>
    simp only [Except.map, ← hsteps level]
    rfl

theorem setUp_of_choice_error {setup : Setup} {error : ChoiceError}
    (h : LevelChoice.ofJson setup.given = .error error) (state : State) :
    state.setUp setup = (.error (.choice error), state) := by
  unfold State.setUp Setup.steps
  rw [h]
  rfl

/-- A call does the same whatever log it finds: it sets up the log for its level, or it fails and
leaves the log alone. -/
theorem setUp_cases (setup : Setup) :
    (∃ level, ∀ state : State, state.setUp setup = (.ok level, state.apply level)) ∨
      ∃ error, ∀ state : State, state.setUp setup = (.error error, state) := by
  cases hc : LevelChoice.ofJson setup.given with
  | error error => exact .inr ⟨_, setUp_of_choice_error hc⟩
  | ok choice =>
    cases hl : effectiveLevel setup.environment choice with
    | error error =>
      right
      refine ⟨.level error, fun state => ?_⟩
      rw [setUp_eq_configure hc, State.configure, hl]
      rfl
    | ok level =>
      left
      refine ⟨level, fun state => ?_⟩
      rw [setUp_eq_configure hc, State.configure, hl]
      rfl

/-! ## Many calls -/

variable {state : State}

/-- A log that is set up again gets no second handler and keeps nothing of the first level. -/
@[simp] theorem apply_apply (state : State) (first second : Int) :
    (state.apply first).apply second = state.apply second := by
  unfold State.apply
  cases state.handlers <;> rfl

theorem length_handlers_apply (state : State) (level : Int) : (state.apply level).handlers.length =
    if state.handlers.length = 0 then 1 else state.handlers.length := by
  unfold State.apply
  cases state.handlers <;> rfl

theorem after_append (state : State) (setups others : List Setup) :
    state.after (setups ++ others) = (state.after setups).after others :=
  List.foldl_append

theorem after_singleton (state : State) (setup : Setup) :
    state.after [setup] = (state.setUp setup).2 := rfl

theorem after_eq_or (state : State) (setups : List Setup) :
    state.after setups = state ∨ ∃ level, state.after setups = state.apply level := by
  induction setups using List.reverseRecOn with
  | nil => exact .inl rfl
  | append_singleton setups setup ih =>
    rw [after_append, after_singleton]
    rcases setUp_cases setup with ⟨level, h⟩ | ⟨error, h⟩
    · right
      refine ⟨level, ?_⟩
      rw [h]
      rcases ih with hsame | ⟨earlier, hsame⟩ <;> simp [hsame]
    · rwa [h]

theorem apply_after (state : State) (setups : List Setup) (level : Int) :
    (state.after setups).apply level = state.apply level := by
  rcases after_eq_or state setups with h | ⟨earlier, h⟩ <;> simp [h]

/-- Calls that all fail change nothing. -/
theorem after_of_failing {setups : List Setup}
    (h : ∀ setup ∈ setups, ∃ error, (state.setUp setup).1 = .error error) :
    state.after setups = state := by
  induction setups with
  | nil => rfl
  | cons setup rest ih =>
    rw [List.forall_mem_cons] at h
    obtain ⟨⟨error, he⟩, hrest⟩ := h
    rcases setUp_cases setup with ⟨level, hok⟩ | ⟨other, hfail⟩
    · rw [hok] at he
      cases he
    · rw [← List.singleton_append, after_append, after_singleton, hfail]
      exact ih hrest

/-- Each call of a sequence gives what it would give in any log. If it gives a level, the log has
this level, its pool the same up to debug and warnings above, and the handlers it began with, or one
if it began with none; so the log stands however many calls fail from then on, and whatever was
called before. A call that fails leaves the log as it found it. -/
theorem setUp_atomic (state : State) (earlier : List Setup) (setup : Setup) :
    let before := state.after earlier
    let after := state.after (earlier ++ [setup])
    (∀ other : State, (other.setUp setup).1 = (before.setUp setup).1) ∧
    (∀ level, (before.setUp setup).1 = .ok level →
      after.level = level ∧
      after.poolLevel =
        (if level ≤ Severity.debug.level then level else Severity.warning.level) ∧
      after.handlers.length =
        (if state.handlers.length = 0 then 1 else state.handlers.length) ∧
      ∀ later : List Setup, (∀ failing ∈ later, ∃ error, (after.setUp failing).1 = .error error) →
        state.after (earlier ++ setup :: later) = state.apply level) ∧
    ∀ error, (before.setUp setup).1 = .error error → after = before := by
  intro before after
  have hafter : after = (before.setUp setup).2 := by
    rw [← after_singleton, ← after_append]
  rcases setUp_cases setup with ⟨given, h⟩ | ⟨fault, h⟩
  · have hstate : after = state.apply given := by
      rw [hafter, h]
      exact apply_after state earlier given
    refine ⟨fun other => by rw [h, h], ?_, ?_⟩
    · intro level hl
      rw [h] at hl
      cases hl
      refine ⟨by rw [hstate]; rfl, by rw [hstate]; rfl,
        hstate ▸ length_handlers_apply state given, fun later hlater => ?_⟩
      rw [List.append_cons, after_append, after_of_failing hlater]
      exact hstate
    · intro error he
      rw [h] at he
      cases he
  · refine ⟨fun other => by rw [h, h], ?_, ?_⟩
    · intro level hl
      rw [h] at hl
      cases hl
    · intro error _
      rw [hafter, h]

end OneTimeCode.Log
