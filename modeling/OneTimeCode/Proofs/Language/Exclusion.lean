import OneTimeCode.Proofs.Language.Lookup
import OneTimeCode.Proofs.Named

/-!
# What the wildcard of weight zero excludes

A range of weight zero excludes the tags that it matches, and the wildcard alone matches every tag
of one subtag. So with the wildcard of weight zero anywhere in a list, lookup chooses as it would
without it if the tags of one subtag were not allowed.
-/
namespace OneTimeCode
open Text

namespace Lookup

/-! ## Fewer tags -/

theorem lowered_of_mem_spellings {supported : List Text} {candidate : Candidate}
    (h : candidate ∈ spellings supported) : candidate.lowered = lower candidate.tag := by
  rw [spellings_eq] at h
  obtain ⟨entry, hm, rfl⟩ := List.mem_map.1 h
  obtain ⟨tag, -, rfl⟩ := List.mem_map.1 (Named.mem_of_mem_ofList hm)
  rfl

variable {keep : Text → Bool} {ranges zeros : List LanguageRange} {supported : List Text}

theorem spellings_filter (keep : Text → Bool) (supported : List Text) :
    spellings (supported.filter fun tag => keep (lower tag)) =
      (spellings supported).filter fun candidate => keep candidate.lowered := by
  have hnamed : (supported.filter fun tag => keep (lower tag)).map (fun tag => (lower tag, tag)) =
      (supported.map fun tag => (lower tag, tag)).filter (keep ·.1) := by
    rw [List.filter_map]
    rfl
  rw [spellings_eq, spellings_eq, hnamed, Named.ofList_filter, List.filter_map]
  rfl

/-- Tags may be left out before or after they become candidates. -/
theorem candidates_filter (keep : Text → Bool) (zeros : List LanguageRange)
    (supported : List Text) :
    candidates zeros (supported.filter fun tag => keep (lower tag)) =
      (candidates zeros supported).filter fun candidate => keep candidate.lowered := by
  rw [candidates, candidates, filter_mergeSort byLowered_trans byLowered_total, spellings_filter,
    List.filter_filter, List.filter_filter]
  simp only [Bool.and_comm]

theorem named?_filter_of_eq_none {subtags : List Text} {found : List Candidate}
    (p : Candidate → Bool) (h : named? subtags found = none) :
    named? subtags (found.filter p) = none := by
  rw [named?, Option.map_eq_none_iff, List.find?_eq_none] at h ⊢
  exact fun candidate hm => h candidate (List.mem_of_mem_filter hm)

theorem named?_filter_of_kept {subtags : List Text} {found : List Candidate}
    {p : Candidate → Bool} {tag : Text} (h : named? subtags found = some tag)
    (hp : ∀ candidate ∈ found, candidate.tag = tag → p candidate = true) :
    named? subtags (found.filter p) = some tag := by
  obtain ⟨candidate, hf, rfl⟩ := Option.map_eq_some_iff.1 h
  obtain ⟨hc, before, after, rfl, hbefore⟩ := List.find?_eq_some_iff_append.1 hf
  have hkept : p candidate = true := hp candidate (by simp) rfl
  rw [named?, Option.map_eq_some_iff]
  refine ⟨candidate, List.find?_eq_some_iff_append.2 ⟨hc, before.filter p, after.filter p, ?_, ?_⟩,
    rfl⟩
  · rw [List.filter_append, List.filter_cons_of_pos hkept]
  · exact fun other hm => hbefore other (List.mem_of_mem_filter hm)

theorem lowered_of_mem_candidates {candidate : Candidate}
    (h : candidate ∈ candidates zeros supported) : candidate.lowered = lower candidate.tag := by
  rw [candidates, List.mem_mergeSort] at h
  exact lowered_of_mem_spellings (List.mem_of_mem_filter h)

theorem keep_of_choose_filter {tag : Text}
    (h : choose ranges (supported.filter fun tag => keep (lower tag)) = some tag) :
    keep (lower tag) = true := by
  rw [choose_eq_findSome?, candidates_filter] at h
  obtain ⟨subtags, -, hn⟩ := List.exists_of_findSome?_eq_some h
  obtain ⟨candidate, hf, rfl⟩ := Option.map_eq_some_iff.1 hn
  obtain ⟨hm, hk⟩ := List.mem_filter.1 (List.mem_of_find?_eq_some hf)
  rwa [← lowered_of_mem_candidates hm]

/-- A tag that is chosen is chosen again if others are not allowed any more. -/
theorem choose_filter_of_keep {tag : Text} (h : choose ranges supported = some tag)
    (hk : keep (lower tag) = true) :
    choose ranges (supported.filter fun tag => keep (lower tag)) = some tag := by
  rw [choose_eq_findSome?, List.findSome?_eq_some_iff] at h
  obtain ⟨before, subtags, after, hsplit, hn, hbefore⟩ := h
  rw [choose_eq_findSome?, candidates_filter, List.findSome?_eq_some_iff]
  refine ⟨before, subtags, after, hsplit, named?_filter_of_kept hn ?_,
    fun earlier hm => named?_filter_of_eq_none _ (hbefore earlier hm)⟩
  rintro candidate hm rfl
  rwa [lowered_of_mem_candidates hm]

theorem choose_filter_of_eq_none (h : choose ranges supported = none) :
    choose ranges (supported.filter fun tag => keep (lower tag)) = none := by
  rw [choose_eq_findSome?, List.findSome?_eq_none_iff] at h
  rw [choose_eq_findSome?, candidates_filter, List.findSome?_eq_none_iff]
  exact fun subtags hm => named?_filter_of_eq_none _ (h subtags hm)

/-- With fewer tags the choice is the same exactly if it is still allowed. -/
theorem choose_filter_eq_iff (keep : Text → Bool) :
    choose ranges (supported.filter fun tag => keep (lower tag)) = choose ranges supported ↔
      ∀ tag, choose ranges supported = some tag → keep (lower tag) = true := by
  constructor
  · intro h tag ht
    exact keep_of_choose_filter (h.trans ht)
  · intro h
    cases hc : choose ranges supported with
    | none => exact choose_filter_of_eq_none hc
    | some tag => exact choose_filter_of_keep hc (h tag hc)

/-! ## The wildcard of weight zero -/

def isDivided (tag : Text) : Bool := decide (¬ IsUndivided tag)

/-- One more range of weight zero that is the wildcard excludes the tags of one subtag. -/
theorem candidates_of_wildcard {zero : LanguageRange} (hw : zero.isWildcard = true)
    {zeros more : List LanguageRange} (hmore : ∀ other, other ∈ more ↔ other = zero ∨ other ∈ zeros)
    (supported : List Text) :
    candidates more supported = candidates zeros (supported.filter isDivided) := by
  have hdivided : isDivided = fun tag => decide (¬ (pieces '-' (lower tag)).length = 1) := rfl
  have hsubtags : zero.subtags = [wildcard] := of_decide_eq_true hw
  have hexcluded (candidate : Candidate) : isExcluded more candidate = true ↔
      candidate.subtags.length = 1 ∨ isExcluded zeros candidate = true := by
    simp only [isExcluded, List.any_eq_true, hmore, or_and_right, exists_or, exists_eq_left,
      hsubtags, covers_wildcard_iff]
  rw [hdivided, candidates_filter fun t => decide (¬ (pieces '-' t).length = 1), candidates,
    candidates, filter_mergeSort byLowered_trans byLowered_total, List.filter_filter]
  congr 2
  funext candidate
  rw [Bool.eq_iff_iff, Bool.not_eq_true', ← Bool.not_eq_true, hexcluded, not_or, Bool.and_eq_true,
    decide_eq_true_iff, Bool.not_eq_true', ← Bool.not_eq_true]
  rfl

theorem choose_insert {range : LanguageRange} (hw : range.isWildcard = true)
    (hz : range.weight.isZero = true) (before after : List LanguageRange) (supported : List Text) :
    choose (before ++ range :: after) supported =
      choose (before ++ after) (supported.filter isDivided) := by
  have hselects : ¬ range.selects = true := by simp [LanguageRange.selects, hz]
  have hranked : (Header.byWeight (before ++ range :: after)).filter (·.selects) =
      (Header.byWeight (before ++ after)).filter (·.selects) := by
    rw [Header.filter_byWeight_comm, Header.filter_byWeight_comm, List.filter_append,
      List.filter_cons_of_neg hselects, List.filter_append]
  have hzeros (other : LanguageRange) :
      other ∈ (Header.byWeight (before ++ range :: after)).filter (·.weight.isZero) ↔
        other = range ∨ other ∈ (Header.byWeight (before ++ after)).filter (·.weight.isZero) := by
    rw [mem_zeros_iff, mem_zeros_iff]
    constructor
    · rintro ⟨hm, ho⟩
      rcases List.mem_append.1 hm with hm | hm
      · exact .inr ⟨List.mem_append_left _ hm, ho⟩
      · exact (List.mem_cons.1 hm).imp_right fun hm => ⟨List.mem_append_right _ hm, ho⟩
    · rintro (rfl | ⟨hm, ho⟩)
      · exact ⟨by simp, hz⟩
      · refine ⟨?_, ho⟩
        rcases List.mem_append.1 hm with hm | hm
        · exact List.mem_append_left _ hm
        · exact List.mem_append_right _ (List.mem_cons_of_mem _ hm)
  rw [choose_eq_findSome?, choose_eq_findSome?, hranked, candidates_of_wildcard hw hzeros]

theorem mapM_insert_cases (range : LanguageRange) (before after : List RangeItem) :
    (∃ error, (before ++ after).mapM RangeItem.range = .error error ∧
      (before ++ .built range :: after).mapM RangeItem.range = .error error) ∨
    ∃ ranges others, (before ++ after).mapM RangeItem.range = .ok (ranges ++ others) ∧
      (before ++ .built range :: after).mapM RangeItem.range = .ok (ranges ++ range :: others) := by
  rw [List.mapM_append, List.mapM_append, List.mapM_cons]
  cases before.mapM RangeItem.range with
  | error error => exact .inl ⟨error, rfl, rfl⟩
  | ok ranges =>
    cases after.mapM RangeItem.range with
    | error error => exact .inl ⟨error, rfl, rfl⟩
    | ok others => exact .inr ⟨ranges, others, rfl, rfl⟩

/-- With the wildcard of weight zero at any place of a list, lookup finds what it would find without
it if the tags of one subtag were not allowed. So the result is the same exactly if without it no
tag of one subtag is found. -/
theorem best_insert_zero_wildcard {range : LanguageRange} (hw : range.isWildcard = true)
    (hz : range.weight.isZero = true) (before after : List RangeItem) (supported : List Text) :
    best (before ++ .built range :: after) supported =
        best (before ++ after) (supported.filter isDivided) ∧
      (best (before ++ .built range :: after) supported = best (before ++ after) supported ↔
        ∀ tag, best (before ++ after) supported = .ok (some tag) → ¬ IsUndivided tag) := by
  unfold best
  rcases mapM_insert_cases range before after with
    ⟨error, hwithout, hwith⟩ | ⟨ranges, others, hwithout, hwith⟩
  · rw [hwithout, hwith]
    exact ⟨rfl, iff_of_true rfl fun tag h => nomatch h⟩
  · rw [hwithout, hwith]
    have hchoice := choose_insert hw hz ranges others supported
    refine ⟨congrArg Except.ok hchoice, ?_⟩
    show Except.ok _ = Except.ok _ ↔ ∀ tag, Except.ok _ = Except.ok _ → _
    simp only [Except.ok.injEq]
    rw [hchoice]
    exact (choose_filter_eq_iff fun t => decide (¬ (pieces '-' t).length = 1)).trans
      (forall_congr' fun tag => imp_congr_right fun _ => decide_eq_true_iff)

/-- A tag of two subtags is found whatever the wildcard excludes. -/
theorem best_beside_zero_wildcard :
    let zero : LanguageRange := ⟨[wildcard], ⟨.zero, rfl⟩, by decide⟩
    let items : List RangeItem := [.plain (.text "zh-HK"), .plain (.text "pt")]
    zero.isWildcard = true ∧ zero.weight.isZero = true ∧
      best items supportedLanguages = .ok (some "zh-HK") ∧
      best [.plain (.text "zh-HK"), .built zero, .plain (.text "pt")] supportedLanguages =
        .ok (some "zh-HK") := by
  intro zero items
  have hranges : items.mapM RangeItem.range =
      .ok [⟨["zh", "hk"], .full, by decide⟩, ⟨["pt"], .full, by decide⟩] := rfl
  have hlong : fallbacks [("zh" : Text), "hk"] = [[("zh" : Text), "hk"], [("zh" : Text)]] := by cbv
  have hfound : best items supportedLanguages = .ok (some "zh-HK") := by
    rw [best, hranges]
    show Except.ok (choose _ _) = _
    rw [choose, Header.byWeight, List.mergeSort_of_pairwise (by decide +kernel),
      candidates_supportedLanguages]
    simp only [List.findSome?, hlong]
    exact congrArg Except.ok (by decide +kernel)
  refine ⟨rfl, rfl, hfound, ?_⟩
  have hsame := (@best_insert_zero_wildcard zero rfl rfl [.plain (.text "zh-HK")]
    [.plain (.text "pt")] supportedLanguages).2
  rw [← hfound]
  apply hsame.2
  intro tag ht
  obtain rfl : ("zh-HK" : Text) = tag := Option.some.inj (Except.ok.inj (hfound.symm.trans ht))
  decide +kernel

/-- The header prefers English, and yet its wildcard of weight zero excludes it. -/
theorem zero_wildcard_excludes_preferred :
    ∃ ranges, Header.read "en,*;q=0" = .ok ranges ∧
      best (ranges.map .built) supportedLanguages = .ok none ∧
      best [.plain (.text "en")] supportedLanguages = .ok (some "en") := by
  let english : LanguageRange := ⟨["en"], .full, by decide⟩
  let nothing : LanguageRange := ⟨[wildcard], Header.weightOfThousandths 0, by decide⟩
  have hshort : fallbacks english.subtags = [[("en" : Text)]] := by cbv
  have hentries : Header.entries "en,*;q=0" = ["en", "*;q=0"] := by decide +kernel
  have hread : Header.read "en,*;q=0" = .ok (Header.byWeight [english, nothing]) := by
    rw [Header.read, hentries]
    rfl
  have hranked : Header.byWeight [english, nothing] = [english, nothing] :=
    List.mergeSort_of_pairwise (by decide +kernel)
  have hboth : ([english, nothing].map RangeItem.built).mapM RangeItem.range =
      .ok [english, nothing] := rfl
  have hone : [RangeItem.plain (.text "en")].mapM RangeItem.range = .ok [english] := rfl
  refine ⟨[english, nothing], hread.trans (congrArg Except.ok hranked), ?_, ?_⟩
  · rw [best, hboth]
    show Except.ok (choose _ _) = _
    rw [choose, hranked, candidates_supportedLanguages]
    simp only [List.findSome?, hshort]
    exact congrArg Except.ok (by decide +kernel)
  · rw [best, hone]
    show Except.ok (choose _ _) = _
    rw [choose, Header.byWeight, List.mergeSort_singleton, candidates_supportedLanguages]
    simp only [List.findSome?, hshort]
    exact congrArg Except.ok (by decide +kernel)

end Lookup
end OneTimeCode
