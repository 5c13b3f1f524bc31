import OneTimeCode.Proofs.Language.Entries
import OneTimeCode.Proofs.Sorting

/-!
# Whole headers

A header whose parts are blank or spell one preference each is read as exactly these preferences,
by descending weight and otherwise in their order. The weights are compared as the exact counts of
thousandths that they were written as.
-/
namespace OneTimeCode
open Text

namespace Header

/-- The parts of a header that lists the given preferences: each part is blank or spells the next
of them. -/
inductive Lists : List Text → List Preference → Prop
  | done : Lists [] []
  | blank {part : Text} {parts : List Text} {given : List Preference}
      (empty : ∀ c ∈ part, isBlank c = true) (rest : Lists parts given) :
      Lists (part :: parts) given
  | entry {part : Text} {parts : List Text} {p : Preference} {given : List Preference}
      (spelled : Spells isSpace part p) (rest : Lists parts given) :
      Lists (part :: parts) (p :: given)

/-- The same preferences by descending weight, those of equal weight in the given order. -/
structure IsRanking (given ranked : List Preference) : Prop where
  perm : ranked.Perm given
  descending : ranked.Pairwise fun a b => b.thousandths ≤ a.thousandths
  stable : ∀ n, ranked.filter (·.thousandths = n) = given.filter (·.thousandths = n)

/-! ## The parts of a header -/

theorem comma_not_mem_of_spells {gap : CodePoint → Bool} (hgap : gap ',' = false) {part : Text}
    {p : Preference} (h : Spells gap part p) : (CodePoint.char ',') ∉ part := by
  cases h with
  | bare padded letters full => exact not_mem_of_letters padded letters ',' rfl rfl
  | weighted padded letters apart bears =>
    obtain ⟨left, right, rfl, hl, hr⟩ := apart
    simp only [List.mem_append, List.mem_cons, not_or]
    refine ⟨not_mem_of_letters padded letters ',' rfl rfl, by decide, ⟨?_, ?_⟩, ?_⟩
    · intro hm
      rw [hl _ hm] at hgap
      cases hgap
    · exact fun hm => (bears.apart hm).2 rfl
    · exact fun hm => absurd (hr _ hm) (by decide)

theorem Lists.comma_not_mem {parts : List Text} {given : List Preference} (h : Lists parts given) :
    ∀ part ∈ parts, (CodePoint.char ',') ∉ part := by
  induction h with
  | done => exact fun _ hm => absurd hm List.not_mem_nil
  | blank empty _ ih =>
    rw [List.forall_mem_cons]
    exact ⟨fun hm => absurd (empty _ hm) (by decide), ih⟩
  | entry spelled _ ih =>
    rw [List.forall_mem_cons]
    exact ⟨comma_not_mem_of_spells rfl spelled, ih⟩

/-- The entries of joined parts are those that are not blank. -/
theorem entries_join {parts : List Text} (h : ∀ part ∈ parts, (CodePoint.char ',') ∉ part) :
    entries (join "," parts) = (parts.map trim).filter (!·.isEmpty) := by
  by_cases hne : parts = []
  · rw [hne]
    rfl
  · show ((pieces ',' (join [','] parts)).map trim).filter _ = _
    rw [pieces_join hne h]

theorem trim_ne_nil_of_spells {part : Text} {p : Preference} (h : Spells isSpace part p) :
    trim part ≠ [] := by
  intro he
  have hread := readEntry_of_spells h
  rw [he, readEntry_eq_ok_iff] at hread
  obtain ⟨q, -, htag, -⟩ := hread
  exact tag_ne_nil q htag.symm

theorem Lists.readEntry_entries {parts : List Text} {given : List Preference}
    (h : Lists parts given) :
    List.Forall₂ (fun entry p => readEntry entry = .ok (Preference.range p))
      ((parts.map trim).filter (!·.isEmpty)) given := by
  induction h with
  | done => exact .nil
  | blank empty _ ih =>
    rwa [List.map_cons, trim_of_all empty, List.filter_cons_of_neg (by simp)]
  | entry spelled _ ih =>
    have hne := trim_ne_nil_of_spells spelled
    rw [List.map_cons, List.filter_cons_of_pos (by simpa using hne)]
    exact .cons (readEntry_of_spells spelled) ih

/-! ## Ranking -/

def outweighs (a b : Preference) : Bool := decide (b.thousandths ≤ a.thousandths)

theorem outweighs_trans (a b c : Preference) (hab : outweighs a b = true)
    (hbc : outweighs b c = true) : outweighs a c = true := by
  simp only [outweighs, decide_eq_true_eq] at hab hbc ⊢
  exact hbc.trans hab

theorem outweighs_total (a b : Preference) : (outweighs a b || outweighs b a) = true := by
  simp only [outweighs, Bool.or_eq_true, decide_eq_true_eq]
  exact Nat.le_total _ _

theorem isRanking_mergeSort (given : List Preference) :
    IsRanking given (given.mergeSort outweighs) where
  perm := List.mergeSort_perm ..
  descending := (List.pairwise_mergeSort outweighs_trans outweighs_total given).imp
    of_decide_eq_true
  stable n := by
    refine filter_mergeSort_of_alike outweighs_trans outweighs_total ?_ given
    intro a b ha hb
    rw [decide_eq_true_eq] at ha hb
    rw [outweighs, ha, hb]
    exact decide_eq_true (Nat.le_refl n)

/-- Ordering the ranges by their numbers orders the preferences by their thousandths. -/
theorem byWeight_map_range (given : List Preference) :
    byWeight (given.map Preference.range) = (given.mergeSort outweighs).map Preference.range := by
  rw [byWeight]
  symm
  apply List.map_mergeSort
  intro a _ b _
  exact (le_ofThousandths b.inUnitInterval a.inUnitInterval).symm

theorem exists_split_of_descending {ranked : List Preference}
    (h : ranked.Pairwise fun a b => b.thousandths ≤ a.thousandths) :
    ∃ wanted unwanted, ranked = wanted ++ unwanted ∧
      (∀ p ∈ wanted, p.range.weight.isZero = false) ∧
      ∀ p ∈ unwanted, p.range.weight.isZero = true := by
  have hzero (p : Preference) : p.range.weight.isZero = decide (p.thousandths = 0) :=
    isZero_ofThousandths p.inUnitInterval
  simp only [hzero, decide_eq_false_iff_not, decide_eq_true_eq]
  induction ranked with
  | nil => exact ⟨[], [], rfl, by simp, by simp⟩
  | cons p rest ih =>
    rw [List.pairwise_cons] at h
    by_cases hp : p.thousandths = 0
    · refine ⟨[], p :: rest, rfl, by simp, List.forall_mem_cons.2 ⟨hp, fun q hq => ?_⟩⟩
      have hle := h.1 q hq
      omega
    · obtain ⟨wanted, unwanted, rfl, hwanted, hunwanted⟩ := ih h.2
      exact ⟨p :: wanted, unwanted, rfl, List.forall_mem_cons.2 ⟨hp, hwanted⟩, hunwanted⟩

/-- A header that lists preferences is read as their ranges, none lost, merged or duplicated, by
descending weight and otherwise in the order of the header, with those of weight zero at the end. -/
theorem read_join {parts : List Text} {given : List Preference} (h : Lists parts given) :
    ∃ ranked, IsRanking given ranked ∧
      read (join "," parts) = .ok (ranked.map Preference.range) ∧
      ∃ wanted unwanted, ranked = wanted ++ unwanted ∧
        (∀ p ∈ wanted, p.range.weight.isZero = false) ∧
        ∀ p ∈ unwanted, p.range.weight.isZero = true := by
  have hentries : (entries (join "," parts)).mapM readEntry = .ok (given.map Preference.range) := by
    rw [entries_join h.comma_not_mem, mapM_eq_ok_iff, List.forall₂_map_right_iff]
    exact h.readEntry_entries
  have hranking := isRanking_mergeSort given
  refine ⟨_, hranking, ?_, exists_split_of_descending hranking.descending⟩
  rw [read, hentries, ← byWeight_map_range]
  rfl

/-- Blank entries are passed over, an entry of weight zero comes last, and of two entries of one
weight the first stays the first. -/
theorem read_join_blank_and_zero :
    let parts : List Text := ["*;q=0.000", " Fr-CH ;  Q=0.9\t", "", " \t", "EN;q=0.90", "de"]
    let given : List Preference := [⟨["*"], by decide, 0, by decide⟩,
      ⟨["fr", "ch"], by decide, 900, by decide⟩, ⟨["en"], by decide, 900, by decide⟩,
      ⟨["de"], by decide, 1000, by decide⟩]
    Lists parts given ∧
      ∃ ranked, IsRanking given ranked ∧
        read (join "," parts) = .ok (ranked.map Preference.range) := by
  intro parts given
  have hzero : Spells isSpace "*;q=0.000" ⟨["*"], by decide, 0, by decide⟩ :=
    spells_iff.2 ⟨by decide, "q=0.000", ⟨[], [], by decide, by decide, by decide⟩,
      bears_iff.2 (.inr (by decide))⟩
  have hfrench : Spells isSpace " Fr-CH ;  Q=0.9\t" ⟨["fr", "ch"], by decide, 900, by decide⟩ :=
    spells_iff.2 ⟨by decide, "Q=0.9", ⟨"  ", "\t", by decide, by decide, by decide⟩,
      bears_iff.2 (.inr (by decide))⟩
  have henglish : Spells isSpace "EN;q=0.90" ⟨["en"], by decide, 900, by decide⟩ :=
    spells_iff.2 ⟨by decide, "q=0.90", ⟨[], [], by decide, by decide, by decide⟩,
      bears_iff.2 (.inr (by decide))⟩
  have hgerman : Spells isSpace "de" ⟨["de"], by decide, 1000, by decide⟩ :=
    spells_iff.2 ⟨by decide, [], ⟨[], [], by decide, by decide, by decide⟩, .nothing⟩
  have hlists : Lists parts given :=
    .entry hzero (.entry hfrench (.blank (by decide) (.blank (by decide)
      (.entry henglish (.entry hgerman .done)))))
  obtain ⟨ranked, hranking, hread, -⟩ := read_join hlists
  exact ⟨hlists, ranked, hranking, hread⟩

end Header
end OneTimeCode
