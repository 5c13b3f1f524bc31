import OneTimeCode.Proofs.CommandLine.Commands
import OneTimeCode.Proofs.Verification.Closing

/-!
# How runs end

A run either is turned away before it waits for anything, or it gets a promise and waits for it.
Which of the two it is, what keeps it from waiting and what the promise holds decide how it ends. A
client that a run builds is closed once, behind its last use.
-/
namespace OneTimeCode.CommandLine
open Text

/-! ## Promises -/

def promise? (arguments : Arguments) (around : Surroundings) : Option Promise :=
  match arguments.command.call around.random with
  | .error _ => none
  | .ok call =>
    if arguments.mock then
      (({} : Offline).call call).1.toOption.map fun result =>
        if around.stalled then .pending else .fulfilled result
    else
      match Settings.load around.environment with
      | .error _ => none
      | .ok settings =>
        match client settings around.script with
        | .error _ => none
        | .ok built =>
          (built.call call).1.answer.toOption.map fun promise =>
            if around.slow then .pending else promise

/-- What keeps a run from waiting: its settings are faulty, account and token cannot be encoded, its
command is declined, or its client refuses the call. -/
inductive IsTurnedAway (arguments : Arguments) (around : Surroundings) : Prop
  | settings {error : SettingsError} (hm : arguments.mock = false)
    (h : Settings.load around.environment = .error error)
  | authorization {settings : Settings} {fault : Unencodable} (hm : arguments.mock = false)
    (hs : Settings.load around.environment = .ok settings)
    (h : settings.authorization = .error fault)
  | command (h : arguments.command.IsDeclined around.random)
  | client {settings : Settings} {built : Client} {call : Call} {error : RequestError}
    (hm : arguments.mock = false) (hs : Settings.load around.environment = .ok settings)
    (hb : client settings around.script = .ok built)
    (hc : arguments.command.call around.random = .ok call)
    (h : (built.call call).1.answer = .error error)

theorem client_eq_error_iff {settings : Settings} {script : Script} {fault : Unencodable} :
    client settings script = .error fault ↔ settings.authorization = .error fault := by
  unfold client Client.connect
  cases settings.authorization <;> simp [Except.map]

/-- The end of a run that waits for the promise. -/
def waited (arguments : Arguments) (around : Surroundings) (promise : Promise) : Report :=
  .ofAwaited around.stream arguments.timeout (awaitPromise arguments.timeout promise)

/-- The run was turned away with exit code two and posted nothing, or it ended by its promise. -/
def EndsBy (arguments : Arguments) (around : Surroundings) (report : Report) : Prop :=
  (IsTurnedAway arguments around ∧ report.ending = .exit 2 ∧ report.posts = []) ∨
    ∃ promise, promise? arguments around = some promise ∧
      report.ending = (waited arguments around promise).ending ∧
      report.output = (waited arguments around promise).output

theorem runOffline_ends {arguments : Arguments} (h : arguments.command.HasOptions)
    (hm : arguments.mock = true) (around : Surroundings) :
    EndsBy arguments around (runOffline arguments around) := by
  rcases Command.call_cases h around.random with ⟨hd, trouble, hc⟩ | ⟨-, call, hc, hcommanded⟩
  · left
    refine ⟨.command hd, ?_⟩
    simp only [runOffline, hc]
    exact ⟨rfl, rfl⟩
  · right
    obtain ⟨result, hr⟩ := offline_answer hcommanded {}
    refine ⟨if around.stalled then .pending else .fulfilled result, ?_, ?_⟩
    · simp only [promise?, hc, hm, hr]
      rfl
    · simp only [runOffline, hc, hr, waited]
      cases around.stalled <;> exact ⟨rfl, rfl⟩

theorem runWith_ends {arguments : Arguments} (h : arguments.command.HasOptions)
    (hm : arguments.mock = false) {around : Surroundings} {settings : Settings} {built : Client}
    (hs : Settings.load around.environment = .ok settings)
    (hb : client settings around.script = .ok built) :
    EndsBy arguments around (runWith built arguments around).1 := by
  rcases Command.call_cases h around.random with ⟨hd, trouble, hc⟩ | ⟨-, call, hc, hcommanded⟩
  · left
    refine ⟨.command hd, ?_⟩
    simp only [runWith, hc]
    exact ⟨rfl, rfl⟩
  · cases ha : (built.call call).1.answer with
    | error error =>
      left
      obtain ⟨trouble, ht⟩ := trouble_of_refused hcommanded ha
      refine ⟨.client hm hs hb hc ha, ?_⟩
      simp only [runWith, hc, ha, ht, (Client.call_of_refused ha).1]
      exact ⟨rfl, trivial⟩
    | ok promise =>
      right
      refine ⟨if around.slow then .pending else promise, ?_, ?_⟩
      · simp only [promise?, hc, hm, hs, hb, ha]
        rfl
      · simp only [runWith, hc, ha, waited]
        exact ⟨trivial, trivial⟩

theorem runRemote_ends {arguments : Arguments} (h : arguments.command.HasOptions)
    (hm : arguments.mock = false) (around : Surroundings) :
    EndsBy arguments around (runRemote arguments around) := by
  cases hs : Settings.load around.environment with
  | error error =>
    left
    simp only [runRemote, hs]
    exact ⟨.settings hm hs, rfl, rfl⟩
  | ok settings =>
    cases hb : client settings around.script with
    | error fault =>
      left
      simp only [runRemote, hs, hb]
      exact ⟨.authorization hm hs (client_eq_error_iff.1 hb), rfl, rfl⟩
    | ok built =>
      simp only [runRemote, hs, hb]
      exact runWith_ends h hm hs hb

theorem runArguments_ends {arguments : Arguments} (h : arguments.command.HasOptions)
    (around : Surroundings) : EndsBy arguments around (runArguments arguments around) := by
  unfold runArguments
  cases hm : arguments.mock with
  | true => exact runOffline_ends h hm around
  | false => exact runRemote_ends h hm around

/-! ## Closing -/

end OneTimeCode.CommandLine
