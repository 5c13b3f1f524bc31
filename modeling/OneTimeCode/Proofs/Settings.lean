import OneTimeCode.Settings
import OneTimeCode.Proofs.Results

/-!
# Accepted settings

A draft is accepted exactly if each of its parts is, and the settings hold what was read from the
parts. The origin of accepted settings is a web address.
-/
namespace OneTimeCode.Settings
open Text

/-- Every field of the settings was read from its part of the draft. -/
structure ReadFrom (settings : Settings) (draft : Draft) : Prop where
  account : readIdentifier .account draft.account = .ok settings.account
  token : readIdentifier .token draft.token = .ok settings.token
  service : readIdentifier .service draft.service = .ok settings.service
  origin : readOrigin draft.origin = .ok settings.origin
  timeout : checkLimit .timeout draft.timeout = .ok settings.timeout
  retries : checkLimit .retries draft.retries = .ok settings.retries
  workers : checkLimit .workers draft.workers = .ok settings.workers
  appHash : settings.appHash = draft.appHash
  friendlyName : settings.friendlyName = draft.friendlyName

theorem ofDraft_eq_ok_iff {draft : Draft} {settings : Settings} :
    ofDraft draft = .ok settings ↔ settings.ReadFrom draft := by
  constructor
  · intro h
    obtain ⟨account, haccount, h⟩ := bind_eq_ok_iff.1 h
    obtain ⟨token, htoken, h⟩ := bind_eq_ok_iff.1 h
    obtain ⟨service, hservice, h⟩ := bind_eq_ok_iff.1 h
    obtain ⟨origin, horigin, h⟩ := bind_eq_ok_iff.1 h
    obtain ⟨timeout, htimeout, h⟩ := bind_eq_ok_iff.1 h
    obtain ⟨retries, hretries, h⟩ := bind_eq_ok_iff.1 h
    obtain ⟨workers, hworkers, h⟩ := bind_eq_ok_iff.1 h
    cases h
    exact ⟨haccount, htoken, hservice, horigin, htimeout, hretries, hworkers, rfl, rfl⟩
  · intro h
    obtain ⟨account, token, service, appHash, friendlyName, origin, timeout, retries, workers⟩ :=
      settings
    cases h.appHash
    cases h.friendlyName
    rw [ofDraft, h.account, h.token, h.service, h.origin, h.timeout, h.retries, h.workers]
    rfl

/-! ## The parts -/

theorem readIdentifier_eq_ok_iff {identifier : Identifier} {given : Json} {id : Text} :
    readIdentifier identifier given = .ok id ↔ id = trim given.textOrEmpty ∧ id ≠ [] := by
  rw [readIdentifier]
  split
  · next h =>
    rw [List.isEmpty_iff] at h
    exact iff_of_false (fun he => nomatch he) fun he => he.2 (he.1.trans h)
  · next h =>
    rw [List.isEmpty_iff] at h
    rw [Except.ok.injEq, eq_comm]
    exact (and_iff_left_of_imp fun he => he ▸ h).symm

def IsWebAddress (t : Text) : Prop := ∃ scheme ∈ webSchemes, ∃ rest, t = scheme ++ rest

theorem isWebAddress_iff {t : Text} : IsWebAddress t ↔ webSchemes.any (·.isPrefixOf t) = true := by
  simp only [List.any_eq_true, List.isPrefixOf_iff_prefix]
  exact exists_congr fun scheme => and_congr_right fun _ => exists_congr fun _ => eq_comm

instance (t : Text) : Decidable (IsWebAddress t) := decidable_of_iff _ isWebAddress_iff.symm

/-- An origin as it is kept: without blanks around it and then without slashes at its end. -/
def normalOrigin (given : Text) : Text := dropTrailing (· = '/') (trim given)

theorem readOrigin_of_isWebAddress {given : Json}
    (h : IsWebAddress (normalOrigin given.textOrEmpty)) :
    readOrigin given = .ok (normalOrigin given.textOrEmpty) := if_pos (isWebAddress_iff.1 h)

theorem readOrigin_of_not_isWebAddress {given : Json}
    (h : ¬ IsWebAddress (normalOrigin given.textOrEmpty)) :
    readOrigin given = .error (.noWebAddress given) := if_neg (mt isWebAddress_iff.2 h)

theorem readOrigin_eq_ok_iff {given : Json} {origin : Text} : readOrigin given = .ok origin ↔
    origin = normalOrigin given.textOrEmpty ∧ IsWebAddress origin := by
  by_cases h : IsWebAddress (normalOrigin given.textOrEmpty)
  · rw [readOrigin_of_isWebAddress h, Except.ok.injEq, eq_comm]
    exact (and_iff_left_of_imp fun he => he ▸ h).symm
  · rw [readOrigin_of_not_isWebAddress h]
    exact iff_of_false (fun he => nomatch he) fun he => h (he.1 ▸ he.2)

/-- A limit is kept as it was given. -/
theorem eq_of_checkLimit {limit : Limit} {given kept : Json}
    (h : checkLimit limit given = .ok kept) : kept = given := by
  rw [checkLimit] at h
  split at h <;> cases h
  rfl

namespace ReadFrom
variable {settings : Settings} {draft : Draft}

theorem origin_eq (h : settings.ReadFrom draft) :
    settings.origin = normalOrigin draft.origin.textOrEmpty :=
  (readOrigin_eq_ok_iff.1 h.origin).1

theorem exists_scheme (h : settings.ReadFrom draft) : IsWebAddress settings.origin :=
  (readOrigin_eq_ok_iff.1 h.origin).2

end ReadFrom

end OneTimeCode.Settings
