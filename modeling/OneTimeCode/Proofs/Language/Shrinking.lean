import OneTimeCode.Proofs.Language.Lookup

/-!
# What a range shrinks to

Lookup shortens a range from its end and drops a one-character subtag together with the one behind
it. A step drops at most one of them, so where two stand side by side in front of another subtag,
some truncation ends in one. A range that begins with the wildcard can even shrink to the wildcard
alone, and then it selects any tag of one subtag.
-/
namespace OneTimeCode.Lookup
open Text

/-! ## One-character subtags -/

def EndsSingly (subtags : List Text) : Prop := ∃ subtag ∈ subtags.getLast?, subtag.length = 1

/-- Two one-character subtags stand side by side at the end. -/
def EndsInPair (subtags : List Text) : Prop := ∃ front first second,
  subtags = front ++ [first, second] ∧ first.length = 1 ∧ second.length = 1

/-- Two one-character subtags stand side by side, and another subtag follows. -/
def HasInnerPair (subtags : List Text) : Prop := ∃ front first second next back,
  subtags = front ++ first :: second :: next :: back ∧ first.length = 1 ∧ second.length = 1

theorem endsSingly_concat_iff {front : List Text} {last : Text} :
    EndsSingly (front ++ [last]) ↔ last.length = 1 := by
  simp [EndsSingly]

theorem endsInPair_concat_iff {front : List Text} {last : Text} :
    EndsInPair (front ++ [last]) ↔ EndsSingly front ∧ last.length = 1 := by
  constructor
  · rintro ⟨before, first, second, h, hf, hs⟩
    have hsplit : front ++ [last] = (before ++ [first]) ++ [second] := by simp [h]
    obtain ⟨rfl, hl⟩ := List.append_inj' hsplit rfl
    cases hl
    exact ⟨endsSingly_concat_iff.2 hf, hs⟩
  · rintro ⟨⟨single, hm, hf⟩, hl⟩
    obtain ⟨before, rfl⟩ := List.getLast?_eq_some_iff.1 hm
    exact ⟨before, single, last, by simp, hf, hl⟩

theorem EndsInPair.endsSingly {subtags : List Text} (h : EndsInPair subtags) :
    EndsSingly subtags := by
  obtain ⟨front, first, second, rfl, -, hs⟩ := h
  simpa [EndsSingly] using hs

/-- A pair is inside if it was inside before the last subtag came, or stood at the end. -/
theorem hasInnerPair_concat_iff {front : List Text} {last : Text} :
    HasInnerPair (front ++ [last]) ↔ HasInnerPair front ∨ EndsInPair front := by
  constructor
  · rintro ⟨before, first, second, next, back, h, hf, hs⟩
    rcases List.eq_nil_or_concat' back with rfl | ⟨others, final, rfl⟩
    · have hsplit : front ++ [last] = (before ++ [first, second]) ++ [next] := by simp [h]
      exact .inr ⟨before, first, second, (List.append_inj' hsplit rfl).1, hf, hs⟩
    · have hsplit : front ++ [last] =
          (before ++ first :: second :: next :: others) ++ [final] := by simp [h]
      exact .inl ⟨before, first, second, next, others, (List.append_inj' hsplit rfl).1, hf, hs⟩
  · rintro (⟨before, first, second, next, back, rfl, hf, hs⟩ | ⟨before, first, second, rfl, hf, hs⟩)
    · exact ⟨before, first, second, next, back ++ [last], by simp, hf, hs⟩
    · exact ⟨before, first, second, last, [], by simp, hf, hs⟩

/-! ## Truncations in a row -/

theorem fallbacks_nil : fallbacks [] = [] := by
  rw [fallbacks, dif_pos rfl]

theorem fallbacks_of_ne_nil {subtags : List Text} (h : subtags ≠ []) :
    fallbacks subtags = subtags :: fallbacks (truncate subtags) := by
  rw [fallbacks, dif_neg h]

theorem not_endsSingly_nil : ¬ EndsSingly [] := by
  simp [EndsSingly]

theorem exists_mem_fallbacks_iff {subtags : List Text} {P : List Text → Prop} (hP : ¬ P []) :
    (∃ shorter ∈ fallbacks subtags, P shorter) ↔
      P subtags ∨ ∃ shorter ∈ (fallbacks subtags).tail, P shorter := by
  by_cases h : subtags = []
  · rw [h, fallbacks_nil]
    simp [hP]
  · rw [fallbacks_of_ne_nil h, List.tail_cons, List.exists_mem_cons_iff]

/-- Some truncation behind the range itself ends in a one-character subtag exactly if the range has
two of them side by side in front of another subtag. -/
theorem exists_endsSingly_iff (subtags : List Text) :
    (∃ shorter ∈ (fallbacks subtags).tail, EndsSingly shorter) ↔ HasInnerPair subtags := by
  induction subtags using fallbacks.induct with
  | case1 =>
    rw [fallbacks_nil]
    simp [HasInnerPair]
  | case2 subtags h ih =>
    rw [fallbacks_of_ne_nil h, List.tail_cons, exists_mem_fallbacks_iff not_endsSingly_nil, ih]
    have hnext := shortens_truncate h
    generalize truncate subtags = shorter at hnext
    cases hnext with
    | one front last hf =>
      have hsingle : ¬ EndsSingly shorter := by
        rintro ⟨subtag, hm, hl⟩
        exact hf subtag hm hl
      have hpair : ¬ EndsInPair shorter := fun h => hsingle h.endsSingly
      rw [hasInnerPair_concat_iff, or_iff_right hsingle, or_iff_left hpair]
    | two front letter last hl =>
      have hsplit : shorter ++ [letter, last] = (shorter ++ [letter]) ++ [last] := by simp
      rw [hsplit, hasInnerPair_concat_iff, hasInnerPair_concat_iff, endsInPair_concat_iff,
        and_iff_left hl]
      constructor
      · rintro (hsingle | hinner)
        · exact .inr hsingle
        · exact .inl (.inl hinner)
      · rintro ((hinner | hpair) | hsingle)
        · exact .inr hinner
        · exact .inl hpair.endsSingly
        · exact .inl hsingle

/-! ## The first subtag alone -/

/-- How many one-character subtags a range begins with. -/
def leadingSingles (subtags : List Text) : Nat := (subtags.takeWhile (·.length = 1)).length

/-- The one-character subtags that a range begins with fall away in pairs until the first subtag is
left: they are odd in number if the range has no other subtags, and even in number if it has. -/
def LeavesFirst (subtags : List Text) : Prop :=
  leadingSingles subtags % 2 = if leadingSingles subtags = subtags.length then 1 else 0

instance (subtags : List Text) : Decidable (LeavesFirst subtags) :=
  inferInstanceAs (Decidable
    (leadingSingles subtags % 2 = if leadingSingles subtags = subtags.length then 1 else 0))

theorem leadingSingles_le (subtags : List Text) : leadingSingles subtags ≤ subtags.length :=
  (List.takeWhile_prefix _).length_le

theorem leadingSingles_append (front back : List Text) :
    leadingSingles (front ++ back) =
      if leadingSingles front = front.length then front.length + leadingSingles back
      else leadingSingles front := by
  unfold leadingSingles
  rw [List.takeWhile_append]
  split <;> simp

theorem leadingSingles_cons (subtag : Text) (rest : List Text) :
    leadingSingles (subtag :: rest) =
      if subtag.length = 1 then leadingSingles rest + 1 else 0 := by
  by_cases h : subtag.length = 1 <;> simp [leadingSingles, h]

theorem leadingSingles_nil : leadingSingles [] = 0 := rfl

theorem leadingSingles_lt {front : List Text} {last : Text} (h : last.length ≠ 1) :
    leadingSingles (front ++ [last]) < (front ++ [last]).length := by
  have hle := leadingSingles_le front
  rw [leadingSingles_append, leadingSingles_cons, if_neg h, List.length_append,
    List.length_singleton]
  split <;> omega

theorem leavesFirst_singleton (subtag : Text) : LeavesFirst [subtag] := by
  rw [LeavesFirst, leadingSingles_cons, leadingSingles_nil]
  by_cases h : subtag.length = 1 <;> simp [h]

/-- Behind a longer subtag nothing counts. -/
theorem leavesFirst_append_iff {front back : List Text}
    (h : leadingSingles front < front.length) :
    LeavesFirst (front ++ back) ↔ LeavesFirst front := by
  have hne : leadingSingles front ≠ front.length := by omega
  have hlt : leadingSingles front ≠ (front ++ back).length := by
    rw [List.length_append]
    omega
  rw [LeavesFirst, LeavesFirst, leadingSingles_append, if_neg hne, if_neg hne, if_neg hlt]

/-- A one-character subtag with the one behind it changes nothing. -/
theorem leavesFirst_pair_iff {front : List Text} {letter last : Text} (hl : letter.length = 1) :
    LeavesFirst (front ++ [letter, last]) ↔ LeavesFirst front := by
  by_cases h : leadingSingles front = front.length
  · rw [LeavesFirst, LeavesFirst, leadingSingles_append, if_pos h, h, if_pos rfl,
      List.length_append, leadingSingles_cons, if_pos hl, leadingSingles_cons, leadingSingles_nil]
    by_cases hlast : last.length = 1
    · simp [hlast]
    · simp [hlast]
      omega
  · exact leavesFirst_append_iff (Nat.lt_of_le_of_ne (leadingSingles_le front) h)

/-- Whether a range is cut down to its first subtag depends on how many one-character subtags come
first. -/
theorem mem_fallbacks_first_iff {subtags : List Text} {first : Text}
    (hfirst : subtags.head? = some first) :
    [first] ∈ fallbacks subtags ↔ LeavesFirst subtags := by
  induction subtags using fallbacks.induct with
  | case1 => cases hfirst
  | case2 subtags h ih =>
    rw [fallbacks_of_ne_nil h, List.mem_cons]
    have hnext := shortens_truncate h
    have hlt := truncate_length_lt h
    generalize truncate subtags = shorter at hnext hlt ih
    cases shorter with
    | nil =>
      rw [fallbacks_nil, or_iff_left List.not_mem_nil]
      cases hnext with
      | one front last hf =>
        obtain rfl : last = first := by simpa using hfirst
        exact iff_of_true rfl (leavesFirst_singleton last)
      | two front letter last hl =>
        rw [leavesFirst_pair_iff hl]
        simp [LeavesFirst, leadingSingles_nil]
    | cons head others =>
      have hlong : [first] ≠ subtags := by
        rintro rfl
        simp at hlt
      rw [or_iff_right hlong]
      cases hnext with
      | one front last hf =>
        obtain ⟨before, final, hs⟩ :=
          (List.eq_nil_or_concat' (head :: others)).resolve_left (List.cons_ne_nil _ _)
        rw [hs] at hfirst hf ih ⊢
        have hfinal : final.length ≠ 1 := by simpa using hf
        rw [ih (by simpa using hfirst), leavesFirst_append_iff (leadingSingles_lt hfinal)]
      | two front letter last hl =>
        rw [ih (by simpa using hfirst), leavesFirst_pair_iff hl]

theorem truncate_isPrefixOf (subtags : List Text) : truncate subtags <+: subtags := by
  unfold truncate
  dsimp only
  split
  · exact (List.dropLast_prefix _).trans (List.dropLast_prefix _)
  · exact List.dropLast_prefix _

theorem prefix_of_mem_fallbacks {subtags shorter : List Text} (h : shorter ∈ fallbacks subtags) :
    shorter <+: subtags := by
  induction subtags using fallbacks.induct with
  | case1 =>
    rw [fallbacks_nil] at h
    cases h
  | case2 subtags hn ih =>
    rw [fallbacks_of_ne_nil hn] at h
    rcases List.mem_cons.1 h with rfl | h
    · exact List.prefix_rfl
    · exact (ih h).trans (truncate_isPrefixOf subtags)

/-! ## The wildcard alone -/

/-- The range begins with the wildcard, goes on, and has a truncation to its first subtag. -/
structure ShrinksToWildcard (subtags : List Text) : Prop where
  begins : subtags.head? = some wildcard
  goesOn : 1 < subtags.length
  leaves : LeavesFirst subtags

theorem wildcard_mem_tail_iff (subtags : List Text) :
    [wildcard] ∈ (fallbacks subtags).tail ↔ ShrinksToWildcard subtags := by
  constructor
  · intro h
    have hall : [wildcard] ∈ fallbacks subtags := List.mem_of_mem_tail h
    have hn : subtags ≠ [] := by
      rintro rfl
      rw [fallbacks_nil] at h
      cases h
    obtain ⟨rest, hr⟩ := prefix_of_mem_fallbacks hall
    have hfirst : subtags.head? = some wildcard := by
      rw [← hr]
      rfl
    rw [fallbacks_of_ne_nil hn, List.tail_cons] at h
    have hlt := truncate_length_lt hn
    have hle := (prefix_of_mem_fallbacks h).length_le
    rw [List.length_singleton] at hle
    exact ⟨hfirst, by omega, (mem_fallbacks_first_iff hfirst).1 hall⟩
  · rintro ⟨hfirst, hlong, hleaves⟩
    have hn : subtags ≠ [] := List.ne_nil_of_length_pos (by omega)
    have hall := (mem_fallbacks_first_iff hfirst).2 hleaves
    rw [fallbacks_of_ne_nil hn] at hall ⊢
    rcases List.mem_cons.1 hall with he | ht
    · rw [← he] at hlong
      simp at hlong
    · exact ht

/-- Lookup in which the wildcard alone names nothing. -/
def chooseStrictly (ranges : List LanguageRange) (supported : List Text) : Option Text :=
  ((((Header.byWeight ranges).filter (·.selects)).map fun range =>
    (fallbacks range.subtags).filter (· ≠ [wildcard])).flatten).findSome? fun subtags =>
      named? subtags (candidates ((Header.byWeight ranges).filter (·.weight.isZero)) supported)

theorem wildcard_not_mem_fallbacks {range : LanguageRange} (hs : range.selects = true)
    (h : ¬ ShrinksToWildcard range.subtags) : [wildcard] ∉ fallbacks range.subtags := by
  intro hm
  rw [fallbacks_of_ne_nil range.subtags_ne_nil] at hm
  rcases List.mem_cons.1 hm with he | ht
  · simp [LanguageRange.selects, LanguageRange.isWildcard, ← he] at hs
  · exact h ((wildcard_mem_tail_iff _).1
      (by rw [fallbacks_of_ne_nil range.subtags_ne_nil, List.tail_cons]; exact ht))

/-- No tag is selected by the wildcard alone if no range shrinks to it. -/
theorem choose_eq_chooseStrictly {ranges : List LanguageRange}
    (h : ∀ range ∈ ranges, range.selects = true → ¬ ShrinksToWildcard range.subtags)
    (supported : List Text) : choose ranges supported = chooseStrictly ranges supported := by
  rw [choose_eq_findSome?, chooseStrictly]
  congr 2
  apply List.map_congr_left
  intro range hm
  obtain ⟨hm, hs⟩ := List.mem_filter.1 hm
  have hnot := wildcard_not_mem_fallbacks hs
    (h range ((Header.byWeight_perm ranges).mem_iff.1 hm) hs)
  symm
  rw [List.filter_eq_self]
  intro shorter hshorter
  exact decide_eq_true fun he => hnot (he ▸ hshorter)

theorem named?_ofTag (subtags : List Text) (tag : Text) :
    named? subtags [.ofTag tag] =
      if covers subtags (pieces '-' (lower tag)) then some tag else none := by
  rw [named?, List.find?_cons]
  cases hc : covers subtags (Candidate.ofTag tag).subtags with
  | true => exact (if_pos hc).symm
  | false => exact (if_neg (Bool.eq_false_iff.1 hc)).symm

theorem choose_of_shrinksToWildcard {range : LanguageRange} (hs : range.selects = true)
    (h : ShrinksToWildcard range.subtags) {tag : Text} (ht : IsUndivided tag) :
    choose [range] [tag] = some tag ∧ chooseStrictly [range] [tag] = none := by
  have hranked : Header.byWeight [range] = [range] := List.mergeSort_singleton range
  have hz : range.weight.isZero = false := by
    rw [LanguageRange.selects, Bool.and_eq_true, Bool.not_eq_true'] at hs
    exact hs.1
  have hc : candidates [] [tag] = [.ofTag tag] := List.mergeSort_singleton _
  rw [choose_eq_findSome?, chooseStrictly, hranked]
  simp only [List.filter_cons, List.filter_nil, hs, hz, if_true, Bool.false_eq_true, if_false,
    List.map_cons, List.map_nil, List.flatten_cons, List.flatten_nil, List.append_nil, hc]
  constructor
  · have hw : [wildcard] ∈ fallbacks range.subtags :=
      List.mem_of_mem_tail ((wildcard_mem_tail_iff _).2 h)
    cases hf : (fallbacks range.subtags).findSome? fun subtags => named? subtags [.ofTag tag] with
    | none =>
      have hnone := List.findSome?_eq_none_iff.1 hf _ hw
      rw [named?_ofTag, if_pos (covers_wildcard_iff.2 ht)] at hnone
      cases hnone
    | some found =>
      obtain ⟨subtags, -, hn⟩ := List.exists_of_findSome?_eq_some hf
      rw [named?_ofTag, Option.ite_none_right_eq_some] at hn
      rw [hn.2]
  · rw [List.findSome?_eq_none_iff]
    intro shorter hm
    obtain ⟨hm, hne⟩ := List.mem_filter.1 hm
    rw [named?_ofTag, if_neg]
    intro hc
    -- a truncation that matches the tag has one subtag, so it is the wildcard
    obtain ⟨subtag, rfl⟩ := List.length_eq_one_iff.1 ((covers_length hc).trans ht)
    obtain ⟨rest, hr⟩ := prefix_of_mem_fallbacks hm
    have hfirst := h.begins
    rw [← hr] at hfirst
    cases hfirst
    exact of_decide_eq_true hne rfl

theorem ShrinksToWildcard.hasInnerPair {subtags : List Text} (h : ShrinksToWildcard subtags) :
    HasInnerPair subtags :=
  (exists_endsSingly_iff subtags).1
    ⟨[wildcard], (wildcard_mem_tail_iff subtags).2 h, wildcard, rfl, rfl⟩

/-- A truncation of a range, behind the range itself, ends in a one-character subtag exactly if the
range has two of these side by side in front of another subtag. It is the wildcard alone exactly if
the range begins with the wildcard and is cut down to its first subtag; then the range selects any
tag of one subtag. Lists without such ranges never select by the wildcard alone. -/
theorem shrinks_singly_iff_innerPair {items : List RangeItem} {ranges : List LanguageRange}
    (hd : List.Forall₂ RangeItem.Denotes items ranges) :
    (∀ range ∈ ranges,
      ((∃ shorter ∈ (fallbacks range.subtags).tail, EndsSingly shorter) ↔
        HasInnerPair range.subtags) ∧
      ([wildcard] ∈ (fallbacks range.subtags).tail ↔ ShrinksToWildcard range.subtags) ∧
      (ShrinksToWildcard range.subtags → HasInnerPair range.subtags) ∧
      (range.selects = true → ∀ tag, IsUndivided tag →
        (best [.built range] [tag] = .ok (chooseStrictly [range] [tag]) ↔
          ¬ ShrinksToWildcard range.subtags))) ∧
    ((∀ range ∈ ranges, range.selects = true → ¬ ShrinksToWildcard range.subtags) →
      ∀ supported, best items supported = .ok (chooseStrictly ranges supported)) := by
  have hbest {items : List RangeItem} {ranges : List LanguageRange}
      (hd : List.Forall₂ RangeItem.Denotes items ranges) (supported : List Text) :
      best items supported = .ok (choose ranges supported) := by
    rw [best, RangeItem.mapM_range_eq_ok_iff.2 hd]
    rfl
  constructor
  · intro range _
    refine ⟨exists_endsSingly_iff _, wildcard_mem_tail_iff _, (·.hasInnerPair), ?_⟩
    intro hs tag ht
    rw [hbest (.cons (.built range) .nil), Except.ok.injEq]
    constructor
    · intro hsame hshrinks
      obtain ⟨hfound, hnone⟩ := choose_of_shrinksToWildcard hs hshrinks ht
      rw [hfound, hnone] at hsame
      cases hsame
    · intro hnot
      apply choose_eq_chooseStrictly
      intro other hm _
      rw [List.mem_singleton.1 hm]
      exact hnot
  · intro hnot supported
    rw [hbest hd, choose_eq_chooseStrictly hnot]

/-- Three letters in front of a word leave the wildcard with the second of them, and in the end
neither. -/
theorem best_past_three_letters :
    let items : List RangeItem := [.plain (.text "*-x-y-private"), .plain (.text "de-x-private")]
    ∃ ranges, List.Forall₂ RangeItem.Denotes items ranges ∧
      (∀ range ∈ ranges, range.selects = true → ¬ ShrinksToWildcard range.subtags) ∧
      best items supportedLanguages = .ok (chooseStrictly ranges supportedLanguages) := by
  intro items
  let ranges : List LanguageRange :=
    [⟨["*", "x", "y", "private"], .full, by decide⟩, ⟨["de", "x", "private"], .full, by decide⟩]
  have hd : List.Forall₂ RangeItem.Denotes items ranges := RangeItem.mapM_range_eq_ok_iff.1 rfl
  have hnot : ∀ range ∈ ranges, range.selects = true → ¬ ShrinksToWildcard range.subtags := by
    intro range hm _ hshrinks
    rcases List.mem_cons.1 hm with rfl | hm
    · exact absurd hshrinks.leaves (by decide)
    · cases List.mem_singleton.1 hm
      exact absurd hshrinks.begins (by decide)
  exact ⟨ranges, hd, hnot, (shrinks_singly_iff_innerPair hd).2 hnot _⟩

/-- Of two letters in a row one step drops the last only, so a range can end in a letter, and it can
shrink to the wildcard alone, which selects the first tag of one subtag. -/
theorem shrunken_wildcard_selects :
    let range : LanguageRange := ⟨["*", "a", "b"], .full, by decide⟩
    [("en" : Text), "a"] ∈ (fallbacks ["en", "a", "b", "cc"]).tail ∧
      [wildcard] ∈ (fallbacks range.subtags).tail ∧
      best [.plain (.text "*-a-b")] supportedLanguages = .ok (some "af") ∧
      chooseStrictly [range] supportedLanguages = none := by
  intro range
  have hletter : fallbacks [("en" : Text), "a", "b", "cc"] =
      [[("en" : Text), "a", "b", "cc"], [("en" : Text), "a"], [("en" : Text)]] := by cbv
  have hshort : fallbacks range.subtags = [[("*" : Text), "a", "b"], [("*" : Text)]] := by cbv
  have hranges : [RangeItem.plain (.text "*-a-b")].mapM RangeItem.range = .ok [range] := rfl
  have hranked : Header.byWeight [range] = [range] := List.mergeSort_singleton range
  have hselects : range.selects = true := by decide +kernel
  have hzeros : [range].filter (·.weight.isZero) = [] := by decide +kernel
  refine ⟨by rw [hletter]; simp, by rw [hshort]; exact List.mem_singleton.2 rfl, ?_, ?_⟩
  · rw [best, hranges]
    show Except.ok (choose _ _) = _
    rw [choose, hranked, hzeros, candidates_supportedLanguages]
    simp only [List.findSome?, hshort]
    exact congrArg Except.ok (by decide +kernel)
  · rw [chooseStrictly, hranked, hzeros, candidates_supportedLanguages]
    simp only [List.filter_cons, List.filter_nil, hselects, if_true, List.map_cons, List.map_nil,
      List.flatten_cons, List.flatten_nil, hshort]
    decide +kernel

end OneTimeCode.Lookup
