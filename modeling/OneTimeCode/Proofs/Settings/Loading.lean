import Mathlib.Order.WellFounded
import OneTimeCode.Settings.Loading
import OneTimeCode.Proofs.Number.Integer
import OneTimeCode.Proofs.Settings
import OneTimeCode.Proofs.Text.Trimming

/-!
# Environments that are loaded

An environment has to pass eight checks, one after the other: that no identifier is missing, that
the variable of each limit spells a number, that the origin is a web address, and that each number
keeps its bound. The first check that fails is reported. If none does, the settings hold the
trimmed variables, and defaults for blank ones.
-/
namespace OneTimeCode

theorem Identifier.mem_all (identifier : Identifier) : identifier ∈ all := by
  cases identifier <;> decide

theorem Limit.mem_all (limit : Limit) : limit ∈ all := by
  cases limit <;> decide

def Limit.Allows : Limit → Int → Prop
  | .retries, n => 0 ≤ n
  | _, n => 0 < n

def Settings.limit (settings : Settings) : Limit → Json
  | .timeout => settings.timeout
  | .retries => settings.retries
  | .workers => settings.workers

namespace Environment
open Text Settings

def missing (environment : Environment) : List Identifier :=
  Identifier.all.filter fun identifier => environment.trimmed identifier.variableName = []

/-- The variable of a limit spells the number, or is blank and the number is the default. -/
def Sets (environment : Environment) (limit : Limit) (n : Int) : Prop :=
  if environment.trimmed limit.variableName = [] then n = limit.default
  else Integer.Spells (environment.trimmed limit.variableName) n

def origin (environment : Environment) : Text :=
  if environment.trimmed originVariable = [] then defaultOrigin
  else dropTrailing (· = '/') (environment.trimmed originVariable)

inductive Check where
  | identifiers
  | number (limit : Limit)
  | origin
  | bound (limit : Limit)

def Check.place : Check → Nat
  | identifiers => 0
  | number .timeout => 1
  | number .retries => 2
  | number .workers => 3
  | origin => 4
  | bound .timeout => 5
  | bound .retries => 6
  | bound .workers => 7

def Fails (environment : Environment) : Check → Prop
  | .identifiers => environment.missing ≠ []
  | .number limit => ¬ ∃ n, environment.Sets limit n
  | .origin => ¬ IsWebAddress environment.origin
  | .bound limit => ∃ n, environment.Sets limit n ∧ ¬ limit.Allows n

/-- The environment passes every earlier check, and not this one. -/
def FailsFirst (environment : Environment) (check : Check) : Prop :=
  environment.Fails check ∧
    ∀ earlier : Check, earlier.place < check.place → ¬ environment.Fails earlier

def report (environment : Environment) : Check → SettingsError
  | .identifiers => .missingVariables environment.missing
  | .number limit => .malformedNumber limit (environment.trimmed limit.variableName)
  | .origin => .noWebAddress (.text (environment.trimmed originVariable))
  | .bound limit => .tooLow limit

def variableNames : List Text :=
  Identifier.all.map Identifier.variableName ++
    [appHashVariable, friendlyNameVariable, originVariable] ++ Limit.all.map Limit.variableName

variable {environment : Environment} {limit : Limit} {n : Int}

theorem exists_failsFirst {check : Check} (h : environment.Fails check) :
    ∃ first, environment.FailsFirst first := by
  obtain ⟨first, hfirst, hmin⟩ :=
    (measure Check.place).wf.has_min { check | environment.Fails check } ⟨check, h⟩
  exact ⟨first, hfirst, fun earlier hlt he => hmin earlier he hlt⟩

theorem Sets.unique {m : Int} (hn : environment.Sets limit n) (hm : environment.Sets limit m) :
    n = m := by
  unfold Sets at hn hm
  split at hn
  · next h =>
    rw [if_pos h] at hm
    exact hn.trans hm.symm
  · next h =>
    rw [if_neg h] at hm
    exact Except.ok.inj ((Integer.read_eq_ok_iff.2 hn).symm.trans (Integer.read_eq_ok_iff.2 hm))

/-! ## The variables as values -/

theorem get?_values (environment : Environment) (name : Text) :
    Named.get? name environment.values = (Named.get? name environment).map .text := by
  simp only [values, Named.get?, List.find?_map, Option.map_map]
  rfl

theorem trimmed_values (environment : Environment) (name : Text) :
    Settings.trimmed environment.values name = .ok (environment.trimmed name) := by
  rw [Settings.trimmed, Named.trimmed, get?_values, trimmed]
  cases Named.get? name environment <;> rfl

theorem missing_values (environment : Environment) :
    Settings.missing environment.values = .ok environment.missing := by
  have hblank : Settings.isBlank environment.values = fun identifier =>
      .ok (decide (environment.trimmed identifier.variableName = [])) := by
    funext identifier
    rw [Settings.isBlank, trimmed_values]
    cases environment.trimmed identifier.variableName <;> rfl
  rw [Settings.missing, hblank, filterM_ok, missing]

theorem readLimit_of_sets (h : environment.Sets limit n) :
    readLimit environment.values limit = .ok (.int n) := by
  unfold Sets at h
  rw [readLimit, trimmed_values]
  change (if _ then _ else _) = _
  split at h
  · next hblank =>
    rw [hblank, h]
    rfl
  · next hgiven =>
    rw [if_neg (by simpa using hgiven), Integer.read_eq_ok_iff.2 h]
    rfl

theorem readLimit_of_not_sets (h : ¬ ∃ n, environment.Sets limit n) :
    readLimit environment.values limit = .error (environment.report (.number limit)) := by
  unfold Sets at h
  rw [readLimit, trimmed_values]
  change (if _ then _ else _) = _
  split at h
  · exact absurd ⟨_, rfl⟩ h
  · next hgiven =>
    obtain ⟨error, he⟩ := Integer.exists_read_eq_error_iff.2 h
    rw [if_neg (by simpa using hgiven), he]
    rfl

def identifier (environment : Environment) (identifier : Identifier) : Json :=
  (Named.get? identifier.variableName environment.values).getD .null

theorem trim_identifier (environment : Environment) (identifier : Identifier) :
    trim (environment.identifier identifier).textOrEmpty =
      environment.trimmed identifier.variableName := by
  rw [Environment.identifier, get?_values, trimmed]
  cases Named.get? identifier.variableName environment with
  | none => rfl
  | some t =>
    change trim (Json.text t).textOrEmpty = trim t
    rw [Json.textOrEmpty_text]

/-- The draft of an environment, with the numbers that it sets the limits to. -/
def draft (environment : Environment) (timeout retries workers : Json) : Draft where
  account := environment.identifier .account
  token := environment.identifier .token
  service := environment.identifier .service
  appHash := .text (environment.trimmed appHashVariable)
  friendlyName := .text (environment.trimmed friendlyNameVariable)
  origin := .text (if environment.trimmed originVariable = [] then defaultOrigin
    else environment.trimmed originVariable)
  timeout := timeout
  retries := retries
  workers := workers

theorem draftOf_values (environment : Environment) : draftOf environment.values = (do
    let timeout ← readLimit environment.values .timeout
    let retries ← readLimit environment.values .retries
    let workers ← readLimit environment.values .workers
    pure (environment.draft timeout retries workers)) := by
  rw [draftOf]
  simp only [trimmed_values, List.isEmpty_iff]
  rfl

theorem load_of_missing (h : environment.missing ≠ []) :
    load environment = .error (.missingVariables environment.missing) := by
  rw [load, ofVariables, missing_values]
  cases hm : environment.missing with
  | nil => exact absurd hm h
  | cons => rfl

theorem load_of_not_missing (h : environment.missing = []) :
    load environment = draftOf environment.values >>= ofDraft := by
  rw [load, ofVariables, missing_values, h]
  rfl

/-! ## The draft of an environment -/

theorem readIdentifier_of_not_missing (h : environment.missing = []) (identifier : Identifier) :
    readIdentifier identifier (environment.identifier identifier) =
      .ok (environment.trimmed identifier.variableName) := by
  rw [readIdentifier_eq_ok_iff, trim_identifier]
  refine ⟨rfl, fun hblank => ?_⟩
  have hm : identifier ∈ environment.missing :=
    List.mem_filter.2 ⟨identifier.mem_all, decide_eq_true hblank⟩
  rw [h] at hm
  cases hm

theorem normalOrigin_draft (environment : Environment) (timeout retries workers : Json) :
    normalOrigin (environment.draft timeout retries workers).origin.textOrEmpty =
      environment.origin := by
  rw [draft, Json.textOrEmpty_text, normalOrigin, origin]
  split
  · decide
  · rw [trimmed, trim_trim]

theorem readOrigin_of_isWebAddress_origin (h : IsWebAddress environment.origin)
    (timeout retries workers : Json) :
    readOrigin (environment.draft timeout retries workers).origin = .ok environment.origin := by
  rw [readOrigin_of_isWebAddress (by rwa [normalOrigin_draft]), normalOrigin_draft]

theorem readOrigin_of_not_isWebAddress_origin (h : ¬ IsWebAddress environment.origin)
    (timeout retries workers : Json) :
    readOrigin (environment.draft timeout retries workers).origin =
      .error (environment.report .origin) := by
  rw [readOrigin_of_not_isWebAddress (by rwa [normalOrigin_draft])]
  unfold origin at h
  split at h
  · exact absurd (by decide) h
  · next hgiven => rw [draft, if_neg hgiven, report]

theorem checkLimit_of_allows (h : limit.Allows n) : checkLimit limit (.int n) = .ok (.int n) := by
  have hr : limit.refuses? (.int n) = some false := by
    cases limit with
    | retries => exact congrArg some (decide_eq_false (Int.not_lt.2 h))
    | timeout | workers =>
      have hlt : ¬ n < 0 ∧ n ≠ 0 := by
        unfold Limit.Allows at h
        omega
      simp [Limit.refuses?, Json.isZeroOrNegative?, Json.isNegative?, Json.isMissing, hlt]
  rw [checkLimit, hr]

theorem checkLimit_of_not_allows (h : ¬ limit.Allows n) :
    checkLimit limit (.int n) = .error (.tooLow limit) := by
  have hr : limit.refuses? (.int n) = some true := by
    cases limit with
    | retries => exact congrArg some (decide_eq_true (Int.not_le.1 h))
    | timeout | workers =>
      have hlt : n < 0 ∨ n = 0 := by
        unfold Limit.Allows at h
        omega
      simp [Limit.refuses?, Json.isZeroOrNegative?, Json.isNegative?, Json.isMissing, hlt]
  rw [checkLimit, hr]

/-! ## The checks in a row -/

theorem load_of_sets (hm : environment.missing = []) {number : Limit → Int}
    (h : ∀ limit, environment.Sets limit (number limit)) :
    load environment = ofDraft (environment.draft (.int (number .timeout))
      (.int (number .retries)) (.int (number .workers))) := by
  rw [load_of_not_missing hm, draftOf_values, readLimit_of_sets (h .timeout),
    readLimit_of_sets (h .retries), readLimit_of_sets (h .workers)]
  rfl

theorem ofDraft_draft (hm : environment.missing = []) (timeout retries workers : Json) :
    ofDraft (environment.draft timeout retries workers) = (do
      let origin ← readOrigin (environment.draft timeout retries workers).origin
      let timeout ← checkLimit .timeout timeout
      let retries ← checkLimit .retries retries
      let workers ← checkLimit .workers workers
      pure {
        account := environment.trimmed Identifier.account.variableName
        token := environment.trimmed Identifier.token.variableName
        service := environment.trimmed Identifier.service.variableName
        appHash := .text (environment.trimmed appHashVariable)
        friendlyName := .text (environment.trimmed friendlyNameVariable)
        origin, timeout, retries, workers }) := by
  have hread := readIdentifier_of_not_missing hm
  rw [ofDraft, draft, hread .account, hread .token, hread .service]
  simp only [bind, Except.bind]

/-- The first limit that is set to no number is reported. -/
theorem load_of_not_sets (hm : environment.missing = [])
    (hearlier : ∀ other : Limit, (Check.number other).place < (Check.number limit).place →
      ∃ n, environment.Sets other n)
    (h : ¬ ∃ n, environment.Sets limit n) :
    load environment = .error (environment.report (.number limit)) := by
  rw [load_of_not_missing hm, draftOf_values]
  cases limit with
  | timeout =>
    rw [readLimit_of_not_sets h]
    rfl
  | retries =>
    obtain ⟨timeout, ht⟩ := hearlier .timeout (by decide)
    rw [readLimit_of_sets ht, readLimit_of_not_sets h]
    rfl
  | workers =>
    obtain ⟨timeout, ht⟩ := hearlier .timeout (by decide)
    obtain ⟨retries, hr⟩ := hearlier .retries (by decide)
    rw [readLimit_of_sets ht, readLimit_of_sets hr, readLimit_of_not_sets h]
    rfl

theorem load_of_not_allows (hm : environment.missing = []) {number : Limit → Int}
    (hn : ∀ limit, environment.Sets limit (number limit)) (hweb : IsWebAddress environment.origin)
    (hearlier : ∀ other : Limit, (Check.bound other).place < (Check.bound limit).place →
      other.Allows (number other))
    (h : ¬ limit.Allows (number limit)) :
    load environment = .error (environment.report (.bound limit)) := by
  rw [load_of_sets hm hn, ofDraft_draft hm, readOrigin_of_isWebAddress_origin hweb]
  cases limit with
  | timeout =>
    rw [checkLimit_of_not_allows h]
    rfl
  | retries =>
    rw [checkLimit_of_allows (hearlier .timeout (by decide)), checkLimit_of_not_allows h]
    rfl
  | workers =>
    rw [checkLimit_of_allows (hearlier .timeout (by decide)),
      checkLimit_of_allows (hearlier .retries (by decide)), checkLimit_of_not_allows h]
    rfl

theorem load_of_failsFirst {check : Check} (h : environment.FailsFirst check) :
    load environment = .error (environment.report check) := by
  obtain ⟨hfails, hearlier⟩ := h
  have hm (hlt : 0 < check.place) : environment.missing = [] :=
    not_not.1 (hearlier .identifiers hlt)
  have hset (limit : Limit) (hlt : (Check.number limit).place < check.place) :=
    not_not.1 (hearlier (.number limit) hlt)
  cases check with
  | identifiers => exact load_of_missing hfails
  | number limit => exact load_of_not_sets (hm (by cases limit <;> decide)) hset hfails
  | origin =>
    choose number hn using fun limit => hset limit (by cases limit <;> decide)
    rw [load_of_sets (hm (by decide)) hn, ofDraft_draft (hm (by decide)),
      readOrigin_of_not_isWebAddress_origin hfails]
    rfl
  | bound limit =>
    choose number hn using fun other => hset other (by cases limit <;> cases other <;> decide)
    obtain ⟨n, hlimit, hlow⟩ := hfails
    cases hlimit.unique (hn limit)
    have hweb : IsWebAddress environment.origin :=
      not_not.1 (hearlier .origin (by cases limit <;> decide))
    exact load_of_not_allows (hm (by cases limit <;> decide)) hn hweb
      (fun other hlt => not_not.1 fun hnot => hearlier (.bound other) hlt ⟨_, hn other, hnot⟩) hlow

/-- The settings hold what the environment has: the trimmed variables, the origin without slashes
at its end, and for each limit the number that it is set to. -/
structure Holds (environment : Environment) (settings : Settings) : Prop where
  account : settings.account = environment.trimmed Identifier.account.variableName
  token : settings.token = environment.trimmed Identifier.token.variableName
  service : settings.service = environment.trimmed Identifier.service.variableName
  appHash : settings.appHash = .text (environment.trimmed appHashVariable)
  friendlyName : settings.friendlyName = .text (environment.trimmed friendlyNameVariable)
  origin : settings.origin = environment.origin
  limit : ∀ limit, ∃ n, environment.Sets limit n ∧ settings.limit limit = .int n

theorem Holds.unique {settings others : Settings} (h : environment.Holds settings)
    (h' : environment.Holds others) : settings = others := by
  have hlimit (limit : Limit) : settings.limit limit = others.limit limit := by
    obtain ⟨n, hn, he⟩ := h.limit limit
    obtain ⟨m, hm, he'⟩ := h'.limit limit
    rw [he, he', hn.unique hm]
  have hsame := And.intro (hlimit .timeout) (And.intro (hlimit .retries) (hlimit .workers))
  obtain ⟨⟩ := settings
  obtain ⟨⟩ := others
  simp only [Settings.limit] at hsame
  simp only [Settings.mk.injEq]
  exact ⟨h.account.trans h'.account.symm, h.token.trans h'.token.symm,
    h.service.trans h'.service.symm, h.appHash.trans h'.appHash.symm,
    h.friendlyName.trans h'.friendlyName.symm, h.origin.trans h'.origin.symm, hsame⟩

theorem exists_load_of_passes (h : ∀ check, ¬ environment.Fails check) :
    ∃ settings, load environment = .ok settings ∧ environment.Holds settings := by
  have hm : environment.missing = [] := not_not.1 (h .identifiers)
  choose number hnumber using fun limit => not_not.1 (h (.number limit))
  have hallows (limit : Limit) : limit.Allows (number limit) :=
    not_not.1 fun hnot => h (.bound limit) ⟨_, hnumber limit, hnot⟩
  rw [load_of_sets hm hnumber, ofDraft_draft hm,
    readOrigin_of_isWebAddress_origin (not_not.1 (h .origin)), checkLimit_of_allows (hallows .timeout),
    checkLimit_of_allows (hallows .retries), checkLimit_of_allows (hallows .workers)]
  refine ⟨_, rfl, rfl, rfl, rfl, rfl, rfl, rfl, fun limit => ⟨number limit, hnumber limit, ?_⟩⟩
  cases limit <;> rfl

theorem load_eq_ok_iff {settings : Settings} : load environment = .ok settings ↔
    (∀ check, ¬ environment.Fails check) ∧ environment.Holds settings := by
  constructor
  · intro h
    have hpasses (check : Check) : ¬ environment.Fails check := by
      intro hfails
      obtain ⟨first, hfirst⟩ := exists_failsFirst hfails
      rw [load_of_failsFirst hfirst] at h
      cases h
    obtain ⟨others, hload, hholds⟩ := exists_load_of_passes hpasses
    rw [h] at hload
    cases hload
    exact ⟨hpasses, hholds⟩
  · rintro ⟨hpasses, hholds⟩
    obtain ⟨others, hload, hothers⟩ := exists_load_of_passes hpasses
    rw [hload, hothers.unique hholds]

theorem load_eq_error_iff {error : SettingsError} : load environment = .error error ↔
    ∃ check, environment.FailsFirst check ∧ environment.report check = error := by
  constructor
  · intro h
    by_cases hfails : ∃ check, environment.Fails check
    · obtain ⟨first, hfirst⟩ := exists_failsFirst hfails.choose_spec
      exact ⟨first, hfirst, Except.error.inj ((load_of_failsFirst hfirst).symm.trans h)⟩
    · obtain ⟨settings, hload, -⟩ := exists_load_of_passes (not_exists.1 hfails)
      rw [hload] at h
      cases h
  · rintro ⟨check, hfirst, rfl⟩
    exact load_of_failsFirst hfirst

/-- Environments with the same trimmed texts for the variables that are read are loaded alike. -/
theorem load_congr {other : Environment}
    (h : ∀ name ∈ variableNames, other.trimmed name = environment.trimmed name) :
    load other = load environment := by
  simp only [variableNames, List.forall_mem_append, List.forall_mem_map, List.forall_mem_cons] at h
  obtain ⟨⟨hidentifiers, happHash, hfriendlyName, hgiven, -⟩, hlimits⟩ := h
  have hidentifier (identifier : Identifier) := hidentifiers identifier identifier.mem_all
  have hlimit (limit : Limit) := hlimits limit limit.mem_all
  have hmissing : other.missing = environment.missing := by simp only [missing, hidentifier]
  have hsets : other.Sets = environment.Sets := by
    funext limit n
    simp only [Sets, hlimit]
  have horigin : other.origin = environment.origin := by simp only [origin, hgiven]
  have hfails : other.Fails = environment.Fails := by
    funext check
    cases check <;> simp only [Fails, hmissing, hsets, horigin]
  have hreport : other.report = environment.report := by
    funext check
    cases check <;> simp only [report, hmissing, hlimit, hgiven]
  cases hload : load environment with
  | error error =>
    obtain ⟨check, hfirst, he⟩ := load_eq_error_iff.1 hload
    refine load_eq_error_iff.2 ⟨check, ?_, hreport ▸ he⟩
    rwa [FailsFirst, hfails]
  | ok settings =>
    obtain ⟨hpasses, hholds⟩ := load_eq_ok_iff.1 hload
    refine load_eq_ok_iff.2 ⟨hfails ▸ hpasses, ?_⟩
    exact {
      account := (hidentifier .account).symm ▸ hholds.account
      token := (hidentifier .token).symm ▸ hholds.token
      service := (hidentifier .service).symm ▸ hholds.service
      appHash := happHash.symm ▸ hholds.appHash
      friendlyName := hfriendlyName.symm ▸ hholds.friendlyName
      origin := horigin.symm ▸ hholds.origin
      limit := hsets.symm ▸ hholds.limit }

/-- An environment is loaded unless it fails a check, and what is reported is what the first check
that fails has to say. So missing identifiers are reported in their order whatever else is wrong.
The settings of an environment that is loaded hold what its variables spell, and other variables
have no part in it. -/
theorem load_checks (environment : Environment) :
    ((∃ error, load environment = .error error) ↔ ∃ check, environment.Fails check) ∧
    (∀ error, load environment = .error error ↔
      ∃ check, environment.FailsFirst check ∧ environment.report check = error) ∧
    (environment.missing ≠ [] → ∃ error, load environment = .error error ∧
      error.message = "Missing environment variables: " ++
        join ", " (environment.missing.map Identifier.variableName)) ∧
    (∀ settings, load environment = .ok settings ↔
      (∀ check, ¬ environment.Fails check) ∧ environment.Holds settings) ∧
    ∀ other : Environment,
      (∀ name ∈ variableNames, other.trimmed name = environment.trimmed name) →
        load other = load environment := by
  refine ⟨?_, fun error => load_eq_error_iff, fun hm => ⟨_, load_of_missing hm, rfl⟩,
    fun settings => load_eq_ok_iff, fun other => load_congr⟩
  constructor
  · rintro ⟨error, h⟩
    obtain ⟨check, hfirst, -⟩ := load_eq_error_iff.1 h
    exact ⟨check, hfirst.1⟩
  · rintro ⟨check, hfails⟩
    obtain ⟨first, hfirst⟩ := exists_failsFirst hfails
    exact ⟨_, load_of_failsFirst hfirst⟩

end Environment
end OneTimeCode
