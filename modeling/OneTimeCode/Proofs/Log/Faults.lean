import OneTimeCode.Proofs.CommandLine.Endings
import OneTimeCode.Proofs.Log.Precedence

/-!
# Faults of the log's level

The log cannot be set up exactly if one of the two texts for its level is unreadable. A text that
names no level is no fault: it stands for the level of information. A run that finds an unreadable
level in its environment ends with it, before anything else is looked at.
-/
namespace OneTimeCode

namespace CommandLine

theorem ending_waited_ne (arguments : Arguments) (around : Surroundings) (promise : Promise)
    (error : Integer.ReadError) :
    (waited arguments around promise).ending ≠ .escaped (.logLevel error) := by
  have hvain : (Report.ofAwaited around.stream arguments.timeout
      (waitInVain arguments.timeout)).ending ≠ .escaped (.logLevel error) := by
    unfold waitInVain
    intro h
    split at h
    · split at h <;> cases h
    · cases h
  have hwritten (code : Nat) (line : Text) :
      (Report.written around.stream code line).ending ≠ .escaped (.logLevel error) := by
    unfold Report.written
    intro h
    split at h <;> cases h
  cases promise with
  | fulfilled result =>
    rcases result with (_ | id) | (_ | _)
    · intro h
      cases h
    · exact hwritten 0 id
    · exact hwritten 1 "not-approved"
    · exact hwritten 0 "approved"
  | broken reason =>
    intro h
    cases h
  | pending => exact hvain
  | cancelled => exact hvain

theorem ending_runArguments_ne {words : List Text} {arguments : Arguments}
    (h : Arguments.read words = .ok arguments) (around : Surroundings)
    (error : Integer.ReadError) :
    (runArguments arguments around).ending ≠ .escaped (.logLevel error) := by
  rcases runArguments_ends (hasOptions_of_read h) around with
    ⟨-, hending, -⟩ | ⟨promise, -, hending, -⟩
  · rw [hending]
    intro he
    cases he
  · rw [hending]
    exact ending_waited_ne arguments around promise error

/-- Only the set-up of the log ends a run with a fault of the level. -/
theorem ending_run_eq_logLevel_iff (words : List Text) (around : Surroundings)
    (error : Integer.ReadError) : (run words around).ending = .escaped (.logLevel error) ↔
      (Log.State.initial []).configure around.environment (.number Severity.info.level) =
        .error error := by
  cases hl : (Log.State.initial []).configure around.environment (.number Severity.info.level) with
  | error e => simp [run, hl, Report.escaped]
  | ok configured =>
    cases ha : Arguments.read words with
    | error exit => simp [run, hl, ha]
    | ok arguments => simp [run, hl, ha, ending_runArguments_ne ha around error]

end CommandLine

namespace Log
open Text

/-- The caller chose by a text, and an unreadable one. -/
def LevelChoice.IsUnreadable : LevelChoice → Prop
  | number _ => False
  | named name => Log.IsUnreadable (trim name)

variable {environment : Environment} {choice : LevelChoice}

theorem exists_level_eq_error_iff :
    (∃ error, choice.level = .error error) ↔ choice.IsUnreadable := by
  cases choice with
  | number level => exact iff_of_false (fun ⟨_, h⟩ => nomatch h) id
  | named name => exact exists_readLevel_eq_error_iff

theorem exists_configure_eq_error_iff (state : State) :
    (∃ error, state.configure environment choice = .error error) ↔
      choice.IsUnreadable ∨ IsUnreadable (trim (given environment)) := by
  have hok : (∃ result, state.configure environment choice = .ok result) ↔
      ∃ level, InForce environment choice level := by
    simp [Prod.exists, configure_eq_ok_iff]
  rw [exists_eq_error_iff, hok, exists_inForce_iff, not_and_or, not_not, ← exists_eq_error_iff,
    exists_level_eq_error_iff]

/-- Within the limit digits are unreadable only if one of them is no decimal digit. -/
theorem isUnreadable_trim_iff {t : Text} (h : t.length ≤ Integer.digitLimit) :
    IsUnreadable (trim t) ↔
      (∀ c ∈ trim t, isDigit c = true) ∧ ∃ c ∈ trim t, isDecimalDigit c = false := by
  constructor
  · rintro ⟨-, hd, hstrange | hlong⟩
    · exact ⟨hd, hstrange⟩
    · have hle := (trim_sublist t).length_le
      omega
  · rintro ⟨hd, c, hc, hstrange⟩
    exact ⟨List.ne_nil_of_mem hc, hd, .inl ⟨c, hc, hstrange⟩⟩

theorem level_of_nameless {name : Text} (hu : ¬ IsUnreadable (trim name))
    (hn : ¬ ∃ n, Names (trim name) n) :
    (LevelChoice.named name).level = .ok Severity.info.level :=
  readLevel_eq_ok_iff.2 ⟨hu, .inr ⟨hn, rfl⟩⟩

theorem configure_of_nameless (state : State) (hc : ¬ choice.IsUnreadable)
    (hg : given environment ≠ []) (hu : ¬ IsUnreadable (trim (given environment)))
    (hn : ¬ ∃ n, Names (trim (given environment)) n) : state.configure environment choice =
      .ok (Severity.info.level, state.apply Severity.info.level) := by
  rw [← exists_level_eq_error_iff, exists_eq_error_iff, not_not] at hc
  obtain ⟨fallback, hf⟩ := hc
  exact configure_eq_ok_iff.2 ⟨.nameless hf hg hu hn rfl, rfl⟩

/-- The log is set up unless the caller's text or that of the environment is unreadable, which takes
a digit that is no decimal digit or more digits than are read. Another text that names no level falls
back on the level of information, whether it is the caller's or that of the environment. A run ends
with a fault of the level exactly if the text of its environment is unreadable. -/
theorem configure_fails_iff (state : State) (environment : Environment) (choice : LevelChoice) :
    ((∃ error, state.configure environment choice = .error error) ↔
      choice.IsUnreadable ∨ IsUnreadable (trim (given environment))) ∧
    (∀ t : Text, t.length ≤ Integer.digitLimit → (IsUnreadable (trim t) ↔
      (∀ c ∈ trim t, isDigit c = true) ∧ ∃ c ∈ trim t, isDecimalDigit c = false)) ∧
    (∀ name, ¬ IsUnreadable (trim name) → (¬ ∃ n, Names (trim name) n) →
      (LevelChoice.named name).level = .ok Severity.info.level) ∧
    (¬ choice.IsUnreadable → given environment ≠ [] →
      ¬ IsUnreadable (trim (given environment)) → (¬ ∃ n, Names (trim (given environment)) n) →
        state.configure environment choice =
          .ok (Severity.info.level, state.apply Severity.info.level)) ∧
    ∀ (words : List Text) (around : CommandLine.Surroundings),
      (∃ error, (CommandLine.run words around).ending = .escaped (.logLevel error)) ↔
        IsUnreadable (trim (given around.environment)) := by
  refine ⟨exists_configure_eq_error_iff state, fun t => isUnreadable_trim_iff,
    fun name => level_of_nameless, configure_of_nameless state, fun words around => ?_⟩
  simp only [CommandLine.ending_run_eq_logLevel_iff]
  rw [exists_configure_eq_error_iff, or_iff_right]
  exact id

/-- A superscript two is a digit but no decimal digit, and the run ends with it. -/
theorem superscript_ends_run :
    let environment := environmentOf [.ofNat 0xB2] ""
    (State.initial []).configure environment (.number 20) = .error (.malformed [.ofNat 0xB2]) ∧
      (CommandLine.run ["--mock", "approve", "VE1"]
        { environment, script := [], random := 0, stalled := false }).ending =
          .escaped (.logLevel (.malformed [.ofNat 0xB2])) :=
  ⟨rfl, rfl⟩

end Log
end OneTimeCode
