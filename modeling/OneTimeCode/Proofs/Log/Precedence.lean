import OneTimeCode.Proofs.Log.Levels

/-!
# Which level is put in force

Due is the level that the variable for it names, else debug if the flag is on, else the one that the
caller chose. It is put in force unless one of the two texts for a level cannot be read, or the
variable names zero or holds blanks and nothing else: zero counts as no level, and blanks count as
the level of information.
-/
namespace OneTimeCode.Log
open Text

/-- The text of the variable for the level; nothing for an absent one. -/
def given (environment : Environment) : Text := (Named.get? levelVariable environment).getD []

/-- The level that the variables and the caller ask for. -/
inductive Due (environment : Environment) (choice : LevelChoice) (level : Int) : Prop
  | named (h : Names (trim (given environment)) level)
  | debug (h : trim (given environment) = []) (hflag : isFlagOn environment debugVariable = true)
    (hlevel : level = Severity.debug.level)
  | chosen (h : trim (given environment) = [])
    (hflag : isFlagOn environment debugVariable = false) (hlevel : choice.level = .ok level)

/-- Nothing keeps the level from being put in force: both texts for a level can be read, and a zero
or blanks in the variable make no difference. -/
structure IsKept (environment : Environment) (choice : LevelChoice) (level : Int) : Prop where
  chosen : ∃ fallback, choice.level = .ok fallback
  readable : ¬ IsUnreadable (trim (given environment))
  zero : Names (trim (given environment)) 0 → choice.level = .ok 0
  blank : trim (given environment) = [] → given environment = [] ∨ level = Severity.info.level

/-- How a level comes into force. In each case the caller's level has to be readable, and where the
variable is set its text has to be. -/
inductive InForce (environment : Environment) (choice : LevelChoice) (level : Int) : Prop
  | unset {fallback : Int} (hc : choice.level = .ok fallback) (hg : given environment = [])
    (h : level = if isFlagOn environment debugVariable then Severity.debug.level else fallback)
  | named {fallback n : Int} (hc : choice.level = .ok fallback)
    (hu : ¬ IsUnreadable (trim (given environment))) (hn : Names (trim (given environment)) n)
    (h : level = if n = 0 then fallback else n)
  | nameless {fallback : Int} (hc : choice.level = .ok fallback) (hg : given environment ≠ [])
    (hu : ¬ IsUnreadable (trim (given environment)))
    (hn : ¬ ∃ n, Names (trim (given environment)) n) (h : level = Severity.info.level)

variable {environment : Environment} {choice : LevelChoice} {level : Int}

theorem trim_given_of_unset (h : given environment = []) : trim (given environment) = [] := by
  rw [h]
  rfl

theorem not_names_of_eq_nil {t : Text} (h : t = []) : ¬ ∃ n, Names t n :=
  fun ⟨_, hn⟩ => hn.ne_nil h

/-! ## The levels of the environment and of the caller -/

theorem environmentLevel_eq (environment : Environment) : environmentLevel environment =
    if given environment = [] then
      .ok (if isFlagOn environment debugVariable then some Severity.debug.level else none)
    else (readLevel (given environment) Severity.info.level).map some := by
  rw [environmentLevel, given]
  cases Named.get? levelVariable environment with
  | none => rfl
  | some t => cases t <;> rfl

theorem effectiveLevel_of_unset (h : given environment = []) : effectiveLevel environment choice =
    choice.level.map fun fallback =>
      if isFlagOn environment debugVariable then Severity.debug.level else fallback := by
  rw [effectiveLevel, environmentLevel_eq, if_pos h]
  cases choice.level with
  | error error => rfl
  | ok fallback => cases isFlagOn environment debugVariable <;> rfl

theorem effectiveLevel_of_set (h : given environment ≠ []) : effectiveLevel environment choice = (do
    let fallback ← choice.level
    (readLevel (given environment) Severity.info.level).map fun asked =>
      if asked = 0 then fallback else asked) := by
  rw [effectiveLevel, environmentLevel_eq, if_neg h]
  cases choice.level with
  | error error => rfl
  | ok fallback => cases readLevel (given environment) Severity.info.level <;> rfl

theorem effectiveLevel_eq_ok_iff :
    effectiveLevel environment choice = .ok level ↔ InForce environment choice level := by
  by_cases hg : given environment = []
  · rw [effectiveLevel_of_unset hg, map_eq_ok_iff]
    constructor
    · rintro ⟨fallback, hc, h⟩
      exact .unset hc hg h
    · intro h
      cases h with
      | unset hc _ h => exact ⟨_, hc, h⟩
      | named _ _ hn => exact absurd (trim_given_of_unset hg) hn.ne_nil
      | nameless _ hset => exact absurd hg hset
  · simp only [effectiveLevel_of_set hg, bind_eq_ok_iff, map_eq_ok_iff, readLevel_eq_ok_iff]
    constructor
    · rintro ⟨fallback, hc, asked, ⟨hu, hn | ⟨hn, rfl⟩⟩, h⟩
      · exact .named hc hu hn h
      · exact .nameless hc hg hu hn h
    · intro h
      cases h with
      | unset _ hunset => exact absurd hunset hg
      | named hc hu hn h => exact ⟨_, hc, _, ⟨hu, .inl hn⟩, h⟩
      | nameless hc _ hu hn h => exact ⟨_, hc, _, ⟨hu, .inr ⟨hn, rfl⟩⟩, h⟩

/-- Some level comes into force unless one of the two texts for it cannot be read. -/
theorem exists_inForce_iff : (∃ level, InForce environment choice level) ↔
    (∃ fallback, choice.level = .ok fallback) ∧ ¬ IsUnreadable (trim (given environment)) := by
  constructor
  · rintro ⟨level, h⟩
    cases h with
    | unset hc hg => exact ⟨⟨_, hc⟩, fun hu => hu.ne_nil (trim_given_of_unset hg)⟩
    | named hc hu => exact ⟨⟨_, hc⟩, hu⟩
    | nameless hc _ hu => exact ⟨⟨_, hc⟩, hu⟩
  · rintro ⟨⟨fallback, hc⟩, hu⟩
    by_cases hg : given environment = []
    · exact ⟨_, .unset hc hg rfl⟩
    · by_cases hn : ∃ n, Names (trim (given environment)) n
      · obtain ⟨n, hn⟩ := hn
        exact ⟨_, .named hc hu hn rfl⟩
      · exact ⟨_, .nameless hc hg hu hn rfl⟩

theorem configure_eq_ok_iff {state next : State} :
    state.configure environment choice = .ok (level, next) ↔
      InForce environment choice level ∧ next = state.apply level := by
  rw [State.configure, map_eq_ok_iff, ← effectiveLevel_eq_ok_iff]
  constructor
  · rintro ⟨found, h, he⟩
    cases he
    exact ⟨h, rfl⟩
  · rintro ⟨h, rfl⟩
    exact ⟨level, h, rfl⟩

/-! ## The level that is due -/

/-- What comes into force is the level that is due, or the caller's for a zero, or that of
information for blanks. -/
theorem Due.cases_of_inForce {other : Int} (h : Due environment choice level)
    (hf : InForce environment choice other) : other = level ∨
      (Names (trim (given environment)) 0 ∧ level = 0 ∧ choice.level = .ok other) ∨
      (given environment ≠ [] ∧ trim (given environment) = [] ∧ other = Severity.info.level) := by
  cases hf with
  | unset hc hg hother =>
    left
    cases h with
    | named hn => exact absurd (trim_given_of_unset hg) hn.ne_nil
    | debug _ hflag hlevel => rw [hother, hflag, hlevel, if_pos rfl]
    | chosen _ hflag hlevel =>
      rw [hc] at hlevel
      rw [hother, hflag]
      exact Except.ok.inj hlevel
  | named hc hu hn hother =>
    cases h with
    | named hdue =>
      obtain rfl := hn.unique hu hdue
      split at hother
      · next hzero =>
        subst hother hzero
        exact .inr (.inl ⟨hn, rfl, hc⟩)
      · exact .inl hother
    | debug hb => exact absurd hb hn.ne_nil
    | chosen hb => exact absurd hb hn.ne_nil
  | nameless _ hg _ hn hother =>
    cases h with
    | named hdue => exact absurd ⟨_, hdue⟩ hn
    | debug hb => exact .inr (.inr ⟨hg, hb, hother⟩)
    | chosen hb => exact .inr (.inr ⟨hg, hb, hother⟩)

theorem Due.inForce_iff (h : Due environment choice level) :
    InForce environment choice level ↔ IsKept environment choice level := by
  constructor
  · intro hf
    cases hf with
    | unset hc hg =>
      have hb := trim_given_of_unset hg
      exact ⟨⟨_, hc⟩, fun hu => hu.ne_nil hb, fun hzero => absurd hb hzero.ne_nil, fun _ => .inl hg⟩
    | named hc hu hn hlevel =>
      refine ⟨⟨_, hc⟩, hu, fun hzero => ?_, fun hb => absurd hb hn.ne_nil⟩
      obtain rfl := hn.unique hu hzero
      rw [if_pos rfl] at hlevel
      cases h with
      | named hdue => rw [hc, ← hlevel, hdue.unique hu hzero]
      | debug hb => exact absurd hb hn.ne_nil
      | chosen hb => exact absurd hb hn.ne_nil
    | nameless hc _ hu hn hlevel =>
      exact ⟨⟨_, hc⟩, hu, fun hzero => absurd ⟨0, hzero⟩ hn, fun _ => .inr hlevel⟩
  · intro hkept
    obtain ⟨fallback, hc⟩ := hkept.chosen
    cases h with
    | named hn =>
      refine .named hc hkept.readable hn ?_
      split
      · next hzero =>
        subst hzero
        rw [hkept.zero hn] at hc
        exact Except.ok.inj hc
      · rfl
    | debug hb hflag hlevel =>
      rcases hkept.blank hb with hg | hinfo
      · exact .unset hc hg (by rw [hflag, hlevel, if_pos rfl])
      · rw [hlevel] at hinfo
        exact absurd hinfo (by decide)
    | chosen hb hflag hlevel =>
      by_cases hg : given environment = []
      · exact .unset hlevel hg (by rw [hflag]; rfl)
      · exact .nameless hc hg hkept.readable (not_names_of_eq_nil hb)
          ((hkept.blank hb).resolve_left hg)

/-- The level that is due is put in force exactly if both texts for a level can be read, the
variable does not name zero and does not hold blanks, or in these two cases the level is the same
nevertheless. Else the level that the call gives, and the log takes, is the caller's in place of
zero and that of information in place of blanks. -/
theorem configures_due_iff (state : State) {environment : Environment} {choice : LevelChoice}
    {level : Int} (h : Due environment choice level) :
    ((∃ next, state.configure environment choice = .ok (level, next)) ↔
      IsKept environment choice level) ∧
    ∀ other next, state.configure environment choice = .ok (other, next) →
      next.level = other ∧ (other = level ∨
        (Names (trim (given environment)) 0 ∧ level = 0 ∧ choice.level = .ok other) ∨
        (given environment ≠ [] ∧ trim (given environment) = [] ∧
          other = Severity.info.level)) := by
  constructor
  · simp only [configure_eq_ok_iff, exists_and_left, exists_eq, and_true, h.inForce_iff]
  · intro other next hconfigure
    obtain ⟨hf, rfl⟩ := configure_eq_ok_iff.1 hconfigure
    exact ⟨rfl, h.cases_of_inForce hf⟩

/-- An environment with texts for the level and for the flag. -/
def environmentOf (level flag : Text) : Environment :=
  [(levelVariable, level), (debugVariable, flag)]

theorem configures_due_of_mixed_case :
    Due (environmentOf " wArning " "on") (.named "error") 30 ∧
      ∃ next, (State.initial []).configure (environmentOf " wArning " "on") (.named "error") =
        .ok (30, next) := by
  have hnames : Names (trim (given (environmentOf " wArning " "on"))) 30 :=
    .word (by decide : (("WARNING" : Text), 30) ∈ levelNames) (by decide)
  have hreadable : ¬ IsUnreadable (trim (given (environmentOf " wArning " "on"))) := fun hu =>
    absurd (hu.digits 'g' (by decide)) (by decide)
  have hkept : IsKept (environmentOf " wArning " "on") (.named "error") 30 :=
    ⟨⟨40, rfl⟩, hreadable, fun hzero => absurd (hnames.unique hreadable hzero) (by decide),
      fun hb => absurd hb hnames.ne_nil⟩
  exact ⟨.named hnames, (configures_due_iff _ (.named hnames)).1.2 hkept⟩

/-- A level of zero in the variable gives way to the caller's, and the caller's gives way to that of
information if the variable holds a blank. -/
theorem zero_and_blank_pass_over_due :
    (Due (environmentOf "NOTSET" "") (.number 30) 0 ∧
      (State.initial []).configure (environmentOf "NOTSET" "") (.number 30) =
        .ok (30, (State.initial []).apply 30)) ∧
    Due (environmentOf " " "") (.number 30) 30 ∧
      (State.initial []).configure (environmentOf " " "") (.number 30) =
        .ok (20, (State.initial []).apply 20) :=
  ⟨⟨.named (.word (by decide : (("NOTSET" : Text), 0) ∈ levelNames) (by decide)), rfl⟩,
    .chosen (by decide) (by decide) rfl, rfl⟩

end OneTimeCode.Log
