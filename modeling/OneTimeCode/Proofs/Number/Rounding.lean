import Mathlib.Data.Nat.Log
import Mathlib.Tactic.Ring
import OneTimeCode.Number.Binary64

/-!
# The error of rounding

A quotient differs by at most one half from the whole number that it is rounded to. So a ratio
between zero and one differs from its binary64 number by at most half the distance of the numbers
next to one, and ratios over one denominator that lie further apart stay in their order.
-/
namespace OneTimeCode.Binary64
variable {num den : Nat}

/-- A quotient is rounded down if what is left is at most a half, and up if it is at least one. -/
theorem roundHalfEven_cases (num den : Nat) :
    (roundHalfEven num den = num / den ∧ 2 * (num % den) ≤ den) ∨
      (roundHalfEven num den = num / den + 1 ∧ den ≤ 2 * (num % den)) := by
  unfold roundHalfEven
  dsimp only
  split_ifs with hdown hup
  · exact .inl ⟨rfl, hdown.le⟩
  · exact .inr ⟨rfl, hup.le⟩
  · rcases Nat.mod_two_eq_zero_or_one (num / den) with h | h
    · exact .inl ⟨by rw [h, Nat.add_zero], Nat.not_lt.1 hup⟩
    · exact .inr ⟨by rw [h], Nat.not_lt.1 hdown⟩

theorem roundHalfEven_error (num : Nat) (h : 0 < den) :
    2 * num ≤ 2 * (roundHalfEven num den * den) + den ∧
      2 * (roundHalfEven num den * den) ≤ 2 * num + den := by
  have hsplit : num / den * den + num % den = num := Nat.div_add_mod' num den
  have hmod : num % den < den := Nat.mod_lt num h
  rcases roundHalfEven_cases num den with ⟨he, hleft⟩ | ⟨he, hleft⟩
  · rw [he]
    omega
  · rw [he, Nat.add_mul, Nat.one_mul]
    omega

/-- A whole number that the quotient does not exceed is not exceeded by rounding either. -/
theorem roundHalfEven_le {bound : Nat} (hden : 0 < den) (h : num ≤ bound * den) :
    roundHalfEven num den ≤ bound := by
  have hq : num / den ≤ bound := Nat.div_le_of_le_mul (by rwa [Nat.mul_comm])
  rcases roundHalfEven_cases num den with ⟨he, -⟩ | ⟨he, hleft⟩
  · rwa [he]
  · rw [he]
    by_contra hlt
    -- the quotient is the whole number itself, so nothing is left to be rounded up
    have hsame : num / den = bound := by omega
    have hsplit : num / den * den + num % den = num := Nat.div_add_mod' num den
    rw [hsame] at hsplit
    omega

/-! ## Ratios between zero and one -/

theorem spacing_mono {steps more : Nat} (h : steps ≤ more) : spacing steps ≤ spacing more := by
  have hlog : steps.log2 ≤ more.log2 := by
    rw [Nat.log2_eq_log_two, Nat.log2_eq_log_two]
    exact Nat.log_mono_right h
  exact Nat.pow_le_pow_right (by decide) (by omega)

theorem spacing_dvd_stepsPerUnit {steps : Nat} (h : steps ≤ stepsPerUnit) :
    spacing steps ∣ stepsPerUnit := by
  unfold stepsPerUnit at h ⊢
  generalize 1074 = exponent at h ⊢
  have hlog : steps.log2 ≤ exponent := by
    rw [Nat.log2_eq_log_two]
    exact (Nat.log_mono_right h).trans_eq (Nat.log_pow Nat.one_lt_two exponent)
  exact Nat.pow_dvd_pow 2 (by rw [precision]; omega)

theorem stepsPerUnit_lt_stepLimit : stepsPerUnit < stepLimit := by
  have hlt : 1074 < 2098 := by omega
  unfold stepsPerUnit stepLimit
  generalize 1074 = less, 2098 = more at hlt ⊢
  exact Nat.pow_lt_pow_right Nat.one_lt_two hlt

theorem exists_ofRatio_eq (hden : 0 < den) (h : num ≤ den) :
    ∃ steps ≤ stepsPerUnit, ofRatio false num den = .finite false steps ∧
      2 * (num * stepsPerUnit) ≤ 2 * (den * steps) + den * spacing stepsPerUnit ∧
      2 * (den * steps) ≤ 2 * (num * stepsPerUnit) + den * spacing stepsPerUnit := by
  have htotal : num * stepsPerUnit ≤ stepsPerUnit * den := by
    rw [Nat.mul_comm]
    exact Nat.mul_le_mul_left _ h
  have hwhole : num * stepsPerUnit / den ≤ stepsPerUnit :=
    Nat.div_le_of_le_mul (by rwa [Nat.mul_comm den])
  obtain ⟨count, hcount⟩ := spacing_dvd_stepsPerUnit hwhole
  have hwide := Nat.mul_le_mul_left den (spacing_mono hwhole)
  generalize hgap : spacing (num * stepsPerUnit / den) = gap at hcount hwide
  have hpos : 0 < gap := hgap ▸ Nat.pow_pos (by decide)
  have hquotient : num * stepsPerUnit ≤ count * (den * gap) := by
    refine htotal.trans_eq ?_
    rw [hcount]
    ring
  have hle : roundHalfEven (num * stepsPerUnit) (den * gap) * gap ≤ stepsPerUnit := by
    have hround := roundHalfEven_le (Nat.mul_pos hden hpos) hquotient
    exact (Nat.mul_le_mul_right gap hround).trans_eq (by rw [hcount, Nat.mul_comm])
  obtain ⟨hlow, hhigh⟩ := roundHalfEven_error (num * stepsPerUnit) (Nat.mul_pos hden hpos)
  have harrange : roundHalfEven (num * stepsPerUnit) (den * gap) * (den * gap) =
      den * (roundHalfEven (num * stepsPerUnit) (den * gap) * gap) := by ring
  rw [harrange] at hlow hhigh
  refine ⟨_, hle, ?_, hlow.trans (by omega), hhigh.trans (by omega)⟩
  rw [ofRatio, hgap, if_pos (hle.trans_lt stepsPerUnit_lt_stepLimit)]

theorem inUnitInterval_ofRatio (hden : 0 < den) (h : num ≤ den) :
    (ofRatio false num den).inUnitInterval = true := by
  obtain ⟨steps, hle, he, -⟩ := exists_ofRatio_eq hden h
  rw [he]
  simp [inUnitInterval, hle]

/-- Ratios over one denominator stay in their order, if it is small enough for the numbers. -/
theorem magnitude_ofRatio_lt {less : Nat} (hden : 0 < den)
    (hfine : den * spacing stepsPerUnit < stepsPerUnit) (hlt : less < num) (h : num ≤ den) :
    (ofRatio false less den).magnitude < (ofRatio false num den).magnitude := by
  obtain ⟨lower, -, hlower, -, hhigh⟩ := exists_ofRatio_eq hden (hlt.le.trans h)
  obtain ⟨upper, -, hupper, hlow, -⟩ := exists_ofRatio_eq hden h
  rw [hlower, hupper, magnitude, magnitude]
  have hapart : (less + 1) * stepsPerUnit ≤ num * stepsPerUnit :=
    Nat.mul_le_mul_right _ hlt
  rw [Nat.add_mul, Nat.one_mul] at hapart
  exact Nat.lt_of_mul_lt_mul_left (a := den) (by omega)

end OneTimeCode.Binary64
