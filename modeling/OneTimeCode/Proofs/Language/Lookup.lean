import Mathlib.Data.List.Nodup
import OneTimeCode.Language.Lookup
import OneTimeCode.Language.Supported
import OneTimeCode.Proofs.Language.Reading
import OneTimeCode.Proofs.Sorting
import OneTimeCode.Proofs.Text.Order

/-!
# The language that lookup chooses

Lookup goes through the truncations of all ranges, the ranges by descending weight, and stops at
the first one that matches an acceptable tag: a tag that no range of weight zero matches. Of several
tags that it matches it takes the first in the order of their lower case.
-/
namespace OneTimeCode
open Text

/-! ## The order of the ranges -/

/-- A range selects tags if it has some weight and is not the wildcard alone. -/
def LanguageRange.selects (range : LanguageRange) : Bool :=
  !range.weight.isZero && !range.isWildcard

/-- The ranges that select tags, by descending weight, in the given order among equal weights. -/
structure Ranks (ranges ranked : List LanguageRange) : Prop where
  descending : ranked.Pairwise fun a b => b.weight.le a.weight = true
  stable : ∀ number, ranked.filter (·.weight.value = number) =
    ranges.filter fun range => range.selects && range.weight.value = number

namespace Header

theorem byWeight_trans (a b c : LanguageRange) (hab : b.weight.le a.weight = true)
    (hbc : c.weight.le b.weight = true) : c.weight.le a.weight = true := by
  simp only [Weight.le, decide_eq_true_eq] at hab hbc ⊢
  exact hbc.trans hab

theorem byWeight_total (a b : LanguageRange) :
    (b.weight.le a.weight || a.weight.le b.weight) = true := by
  simp only [Weight.le, Bool.or_eq_true, decide_eq_true_eq]
  exact Nat.le_total _ _

theorem byWeight_perm (ranges : List LanguageRange) : (byWeight ranges).Perm ranges :=
  List.mergeSort_perm ..

theorem pairwise_byWeight (ranges : List LanguageRange) :
    (byWeight ranges).Pairwise fun a b => b.weight.le a.weight = true :=
  List.pairwise_mergeSort byWeight_trans byWeight_total ranges

/-- Ranges may be left out before or after they are ordered. -/
theorem filter_byWeight_comm (p : LanguageRange → Bool) (ranges : List LanguageRange) :
    (byWeight ranges).filter p = byWeight (ranges.filter p) :=
  filter_mergeSort byWeight_trans byWeight_total p ranges

theorem filter_byWeight {p : LanguageRange → Bool}
    (hp : ∀ a b, p a = true → p b = true → b.weight.le a.weight = true)
    (ranges : List LanguageRange) : (byWeight ranges).filter p = ranges.filter p :=
  filter_mergeSort_of_alike byWeight_trans byWeight_total hp ranges

theorem ranks_byWeight (ranges : List LanguageRange) :
    Ranks ranges ((byWeight ranges).filter (·.selects)) where
  descending := (pairwise_byWeight ranges).sublist List.filter_sublist
  stable number := by
    rw [List.filter_filter, filter_byWeight]
    · simp only [Bool.and_comm]
    · intro a b ha hb
      simp only [Bool.and_eq_true, decide_eq_true_eq] at ha hb
      rw [Weight.le, ha.1, hb.1]
      exact decide_eq_true (Nat.le_refl _)

end Header

namespace Lookup

/-! ## Truncations -/

/-- The next truncation goes without the last subtag, and also without the new last one if that has
one character. -/
inductive Shortens : List Text → List Text → Prop
  | two (front : List Text) (letter last : Text) (h : letter.length = 1) :
    Shortens (front ++ [letter, last]) front
  | one (front : List Text) (last : Text) (h : ∀ subtag ∈ front.getLast?, subtag.length ≠ 1) :
    Shortens (front ++ [last]) front

/-- All truncations in their order, the untruncated subtags first. -/
inductive Truncations : List Text → List (List Text) → Prop
  | done : Truncations [] []
  | more {subtags shorter : List Text} {later : List (List Text)} (next : Shortens subtags shorter)
      (rest : Truncations shorter later) : Truncations subtags (subtags :: later)

theorem shortens_truncate {subtags : List Text} (h : subtags ≠ []) :
    Shortens subtags (truncate subtags) := by
  obtain ⟨front, last, rfl⟩ := List.eq_nil_or_concat' subtags |>.resolve_left h
  rw [truncate, List.dropLast_concat]
  rcases List.eq_nil_or_concat' front with rfl | ⟨others, letter, rfl⟩
  · exact .one [] last (by simp)
  · simp only [List.getLast?_append, List.getLast?_singleton, Option.some_or, Option.map_some,
      Option.some.injEq, List.dropLast_concat]
    split
    · next hl =>
      rw [List.append_assoc]
      exact .two others letter last hl
    · next hl =>
      apply Shortens.one
      simpa using hl

theorem truncations_fallbacks (subtags : List Text) :
    Truncations subtags (fallbacks subtags) := by
  induction subtags using fallbacks.induct with
  | case1 =>
    rw [fallbacks, dif_pos rfl]
    exact .done
  | case2 subtags h ih =>
    rw [fallbacks, dif_neg h]
    exact .more (shortens_truncate h) ih

/-! ## Acceptable tags -/

/-- The tag has as many subtags as wanted, and each is the wanted one or stands for the wildcard. -/
def Matches (subtags : List Text) (tag : Text) : Prop :=
  List.Forall₂ (fun want subtag => want = wildcard ∨ want = subtag) subtags
    (pieces '-' (lower tag))

/-- An allowed tag that no range of weight zero matches. -/
structure IsAcceptable (ranges : List LanguageRange) (supported : List Text) (tag : Text) :
    Prop where
  allowed : tag ∈ supported
  notExcluded : ∀ range ∈ ranges, range.weight.isZero = true → ¬ Matches range.subtags tag

theorem covers_iff {wants subtags : List Text} : covers wants subtags = true ↔
    List.Forall₂ (fun want subtag => want = wildcard ∨ want = subtag) wants subtags := by
  induction wants generalizing subtags with
  | nil => cases subtags <;> simp [covers]
  | cons want wants ih => cases subtags <;> simp [covers, ih]

theorem covers_length {wants subtags : List Text} (h : covers wants subtags = true) :
    wants.length = subtags.length := (covers_iff.1 h).length_eq

/-- The wildcard alone stands for any one subtag. -/
theorem covers_wildcard_iff {subtags : List Text} :
    covers [wildcard] subtags = true ↔ subtags.length = 1 := by
  constructor
  · intro h
    exact (covers_length h).symm
  · intro h
    obtain ⟨subtag, rfl⟩ := List.length_eq_one_iff.1 h
    simp [covers]

def IsUndivided (tag : Text) : Prop := (pieces '-' (lower tag)).length = 1

instance (tag : Text) : Decidable (IsUndivided tag) :=
  inferInstanceAs (Decidable ((pieces '-' (lower tag)).length = 1))

def Candidate.ofTag (tag : Text) : Candidate := ⟨lower tag, tag⟩

theorem covers_ofTag_iff {subtags : List Text} {tag : Text} :
    covers subtags (Candidate.ofTag tag).subtags = true ↔ Matches subtags tag := covers_iff

theorem spellings_eq (supported : List Text) : spellings supported =
    (Named.ofList (supported.map fun tag => (lower tag, tag))).map fun entry =>
      ⟨entry.1, entry.2⟩ := by
  rw [spellings, Named.ofList, List.foldl_map]

/-- Tags that differ in more than case are all kept. -/
theorem spellings_of_nodup {supported : List Text} (hd : (supported.map lower).Nodup) :
    spellings supported = supported.map Candidate.ofTag := by
  have hkeys : ((supported.map fun tag => (lower tag, tag)).map (·.1)).Nodup := by
    rw [List.map_map]
    exact hd
  rw [spellings_eq, Named.ofList_of_nodup hkeys, List.map_map]
  rfl

theorem mem_candidates_iff {zeros : List LanguageRange} {supported : List Text}
    (hd : (supported.map lower).Nodup) {candidate : Candidate} :
    candidate ∈ candidates zeros supported ↔ ∃ tag ∈ supported, candidate = .ofTag tag ∧
      ∀ zero ∈ zeros, ¬ Matches zero.subtags tag := by
  rw [candidates, List.mem_mergeSort, List.mem_filter, spellings_of_nodup hd, List.mem_map]
  simp only [isExcluded, Bool.not_eq_true', List.any_eq_false]
  constructor
  · rintro ⟨⟨tag, ht, rfl⟩, hz⟩
    exact ⟨tag, ht, rfl, fun zero hm => covers_ofTag_iff.not.1 (hz zero hm)⟩
  · rintro ⟨tag, ht, rfl, hz⟩
    exact ⟨⟨tag, ht, rfl⟩, fun zero hm => covers_ofTag_iff.not.2 (hz zero hm)⟩

theorem byLowered_trans (a b c : Candidate) (hab : (!precedes b.lowered a.lowered) = true)
    (hbc : (!precedes c.lowered b.lowered) = true) : (!precedes c.lowered a.lowered) = true :=
  not_precedes_trans Text.isStrictTotalOrder Candidate.lowered a b c hab hbc

theorem byLowered_total (a b : Candidate) :
    (!precedes b.lowered a.lowered || !precedes a.lowered b.lowered) = true :=
  not_precedes_total Text.isStrictTotalOrder Candidate.lowered a b

theorem pairwise_candidates (zeros : List LanguageRange) (supported : List Text) :
    (candidates zeros supported).Pairwise fun a b => precedes b.lowered a.lowered = false := by
  have hsorted : (candidates zeros supported).Pairwise
      fun a b => (!precedes b.lowered a.lowered) = true :=
    List.pairwise_mergeSort byLowered_trans byLowered_total _
  exact hsorted.imp fun h => by simpa using h

/-! ## The choice -/

/-- Among the tags, the one that the subtags match first in the order of their lower case. -/
structure IsNamed (accepts : Text → Prop) (subtags : List Text) (tag : Text) : Prop where
  acceptable : accepts tag
  matched : Matches subtags tag
  least : ∀ other, accepts other → Matches subtags other →
    precedes (lower other) (lower tag) = false

section
variable {ranges zeros : List LanguageRange} {supported : List Text}

theorem mem_zeros_iff {range : LanguageRange} :
    range ∈ (Header.byWeight ranges).filter (·.weight.isZero) ↔
      range ∈ ranges ∧ range.weight.isZero = true := by
  rw [List.mem_filter, (Header.byWeight_perm ranges).mem_iff]

theorem mem_candidates_byWeight_iff (hd : (supported.map lower).Nodup) {candidate : Candidate} :
    candidate ∈ candidates ((Header.byWeight ranges).filter (·.weight.isZero)) supported ↔
      ∃ tag, candidate = .ofTag tag ∧ IsAcceptable ranges supported tag := by
  rw [mem_candidates_iff hd]
  constructor
  · rintro ⟨tag, ht, rfl, hz⟩
    exact ⟨tag, rfl, ht, fun range hm hw => hz range (mem_zeros_iff.2 ⟨hm, hw⟩)⟩
  · rintro ⟨tag, rfl, ht, hz⟩
    refine ⟨tag, ht, rfl, fun zero hm => ?_⟩
    obtain ⟨hm, hw⟩ := mem_zeros_iff.1 hm
    exact hz zero hm hw

theorem named?_eq_none_iff (hd : (supported.map lower).Nodup) {subtags : List Text} :
    named? subtags (candidates ((Header.byWeight ranges).filter (·.weight.isZero)) supported) =
        none ↔
      ∀ tag, IsAcceptable ranges supported tag → ¬ Matches subtags tag := by
  rw [named?, Option.map_eq_none_iff, List.find?_eq_none]
  constructor
  · intro h tag ha hm
    exact h _ ((mem_candidates_byWeight_iff hd).2 ⟨tag, rfl, ha⟩) (covers_ofTag_iff.2 hm)
  · intro h candidate hc
    obtain ⟨tag, rfl, ha⟩ := (mem_candidates_byWeight_iff hd).1 hc
    exact covers_ofTag_iff.not.2 (h tag ha)

/-- Tags are told apart by their lower case, so at most one of them comes first. -/
theorem IsNamed.unique (hd : (supported.map lower).Nodup) {subtags : List Text} {tag other : Text}
    (h : IsNamed (IsAcceptable ranges supported) subtags tag)
    (ho : IsNamed (IsAcceptable ranges supported) subtags other) : tag = other := by
  have hsame : lower tag = lower other :=
    Text.isStrictTotalOrder.trichotomous _ _
      (Bool.eq_false_iff.1 (ho.least tag h.acceptable h.matched))
      (Bool.eq_false_iff.1 (h.least other ho.acceptable ho.matched))
  exact List.inj_on_of_nodup_map hd h.acceptable.allowed ho.acceptable.allowed hsame

theorem isNamed_of_named? (hd : (supported.map lower).Nodup) {subtags : List Text} {tag : Text}
    (h : named? subtags
      (candidates ((Header.byWeight ranges).filter (·.weight.isZero)) supported) = some tag) :
    IsNamed (IsAcceptable ranges supported) subtags tag := by
  obtain ⟨candidate, hf, rfl⟩ := Option.map_eq_some_iff.1 h
  obtain ⟨hcovers, before, after, hsplit, hbefore⟩ := List.find?_eq_some_iff_append.1 hf
  obtain ⟨tag, rfl, ha⟩ := (mem_candidates_byWeight_iff hd).1 (List.mem_of_find?_eq_some hf)
  refine ⟨ha, covers_ofTag_iff.1 hcovers, fun other ho hm => ?_⟩
  have hother := (mem_candidates_byWeight_iff hd).2 ⟨other, rfl, ho⟩
  have hsorted := pairwise_candidates ((Header.byWeight ranges).filter (·.weight.isZero)) supported
  rw [hsplit] at hother hsorted
  rcases List.mem_append.1 hother with hother | hother
  · have hn := hbefore _ hother
    rw [covers_ofTag_iff.2 hm] at hn
    cases hn
  · rcases List.mem_cons.1 hother with he | hother
    · rw [show lower other = lower tag from congrArg Candidate.lowered he]
      exact Bool.eq_false_iff.2 (Text.isStrictTotalOrder.irrefl _)
    · rw [List.pairwise_append, List.pairwise_cons] at hsorted
      exact hsorted.2.1.1 _ hother

theorem named?_eq_some_iff (hd : (supported.map lower).Nodup) {subtags : List Text} {tag : Text} :
    named? subtags (candidates ((Header.byWeight ranges).filter (·.weight.isZero)) supported) =
        some tag ↔
      IsNamed (IsAcceptable ranges supported) subtags tag := by
  constructor
  · exact isNamed_of_named? hd
  · intro h
    cases hn : named? subtags
        (candidates ((Header.byWeight ranges).filter (·.weight.isZero)) supported) with
    | none => exact absurd h.matched ((named?_eq_none_iff hd).1 hn tag h.acceptable)
    | some found => rw [(isNamed_of_named? hd hn).unique hd h]

end

/-- The tag is named by the first of the truncations that matches an acceptable tag. -/
def Chooses (accepts : Text → Prop) (truncations : List (List Text)) (tag : Text) : Prop :=
  ∃ before subtags after, truncations = before ++ subtags :: after ∧
    (∀ earlier ∈ before, ∀ other, accepts other → ¬ Matches earlier other) ∧
    IsNamed accepts subtags tag

theorem findSome?_filter {α β : Type} (p : α → Bool) (f : α → Option β) (items : List α) :
    (items.filter p).findSome? f = items.findSome? fun item => if p item then f item else none := by
  induction items with
  | nil => rfl
  | cons item rest ih =>
    cases hp : p item with
    | true => rw [List.filter_cons_of_pos hp, List.findSome?_cons, List.findSome?_cons, hp, ih]; rfl
    | false => rw [List.filter_cons_of_neg (by simp [hp]), ih, List.findSome?_cons, hp]; rfl

theorem findSome?_flatten {α β : Type} (f : α → Option β) (lists : List (List α)) :
    lists.flatten.findSome? f = lists.findSome? (·.findSome? f) := by
  induction lists with
  | nil => rfl
  | cons first rest ih =>
    rw [List.flatten_cons, List.findSome?_append, ih, List.findSome?_cons]
    cases first.findSome? f <;> rfl

/-- Lookup goes through the truncations of all ranges that select tags. -/
theorem choose_eq_findSome? (ranges : List LanguageRange) (supported : List Text) :
    choose ranges supported =
      ((((Header.byWeight ranges).filter (·.selects)).map fun range =>
        fallbacks range.subtags).flatten).findSome? fun subtags => named? subtags
          (candidates ((Header.byWeight ranges).filter (·.weight.isZero)) supported) := by
  rw [findSome?_flatten, List.findSome?_map, findSome?_filter, choose]
  congr 1
  funext range
  rw [LanguageRange.selects, ← Bool.not_or]
  cases range.weight.isZero || range.isWildcard <;> rfl

theorem mem_of_best {items : List RangeItem} {supported : List Text}
    (hd : (supported.map lower).Nodup) {tag : Text} (h : best items supported = .ok (some tag)) :
    tag ∈ supported := by
  unfold best at h
  cases hr : items.mapM RangeItem.range with
  | error e =>
    rw [hr] at h
    cases h
  | ok ranges =>
    rw [hr] at h
    have hc : choose ranges supported = some tag := Except.ok.inj h
    rw [choose_eq_findSome?] at hc
    obtain ⟨subtags, -, hn⟩ := List.exists_of_findSome?_eq_some hc
    exact (isNamed_of_named? hd hn).acceptable.allowed

theorem nodup_lower_supportedLanguages : (supportedLanguages.map lower).Nodup := by
  decide +kernel

/-- The supported languages are listed in the order of their tags. -/
theorem candidates_supportedLanguages (zeros : List LanguageRange) :
    candidates zeros supportedLanguages =
      (supportedLanguages.map Candidate.ofTag).filter fun c => !isExcluded zeros c := by
  have hordered : (supportedLanguages.map Candidate.ofTag).Pairwise
      fun a b => (!precedes b.lowered a.lowered) = true := by decide +kernel
  rw [candidates, spellings_of_nodup nodup_lower_supportedLanguages]
  exact List.mergeSort_of_pairwise (hordered.sublist List.filter_sublist)

/-- Lookup refuses a list for its first item that denotes no range. Otherwise it ranks the ranges,
goes through their truncations, and chooses the tag that is named by the first one that matches an
acceptable tag; it finds none exactly if no truncation matches any. -/
theorem best_eq_first_match (items : List RangeItem) {supported : List Text}
    (hd : (supported.map lower).Nodup) :
    (∃ before value after, items = before ++ .plain value :: after ∧
      (∀ item ∈ before, ∃ range, item.Denotes range) ∧
      (∀ range, ¬ (RangeItem.plain value).Denotes range) ∧
      best items supported = .error (.malformedRange (.text value.display))) ∨
    ∃ ranges, List.Forall₂ RangeItem.Denotes items ranges ∧
      ∃ ranked truncations result, Ranks ranges ranked ∧
        List.Forall₂ (fun range found => Truncations range.subtags found) ranked truncations ∧
        best items supported = .ok result ∧
        (∀ tag, result = some tag ↔
          Chooses (IsAcceptable ranges supported) truncations.flatten tag) ∧
        (result = none ↔ ∀ subtags ∈ truncations.flatten, ∀ tag,
          IsAcceptable ranges supported tag → ¬ Matches subtags tag) := by
  cases hr : items.mapM RangeItem.range with
  | error error =>
    left
    obtain ⟨before, value, after, hsplit, hbefore, hbad, rfl⟩ := RangeItem.mapM_range_eq_error hr
    refine ⟨before, value, after, hsplit, hbefore, hbad, ?_⟩
    rw [best, hr]
    rfl
  | ok ranges =>
    right
    refine ⟨ranges, RangeItem.mapM_range_eq_ok_iff.1 hr, _,
      ((Header.byWeight ranges).filter (·.selects)).map fun range => fallbacks range.subtags,
      choose ranges supported, Header.ranks_byWeight ranges, ?_, ?_, ?_, ?_⟩
    · rw [List.forall₂_map_right_iff, List.forall₂_same]
      exact fun range _ => truncations_fallbacks range.subtags
    · rw [best, hr]
      rfl
    · intro tag
      rw [choose_eq_findSome?, List.findSome?_eq_some_iff, Chooses]
      simp only [named?_eq_some_iff hd, named?_eq_none_iff hd]
      constructor
      · rintro ⟨before, subtags, after, hsplit, hnamed, hpassed⟩
        exact ⟨before, subtags, after, hsplit, hpassed, hnamed⟩
      · rintro ⟨before, subtags, after, hsplit, hpassed, hnamed⟩
        exact ⟨before, subtags, after, hsplit, hnamed, hpassed⟩
    · rw [choose_eq_findSome?, List.findSome?_eq_none_iff]
      simp only [named?_eq_none_iff hd]

/-- Mainland Chinese is not acceptable, so the second range ends at the Chinese of Hong Kong. -/
theorem best_past_excluded :
    let items : List RangeItem := [.plain (.text "tlh"), .plain (.text " ZH-*-x-private"),
      .built ⟨["zh", "cn"], ⟨.zero, rfl⟩, by decide⟩]
    (supportedLanguages.map lower).Nodup ∧ best items supportedLanguages = .ok (some "zh-HK") ∧
      ∃ ranges truncations, List.Forall₂ RangeItem.Denotes items ranges ∧
        Chooses (IsAcceptable ranges supportedLanguages) truncations "zh-HK" := by
  intro items
  have hd := nodup_lower_supportedLanguages
  have hranges : items.mapM RangeItem.range = .ok [⟨["tlh"], .full, by decide⟩,
      ⟨["zh", "*", "x", "private"], .full, by decide⟩,
      ⟨["zh", "cn"], ⟨.zero, rfl⟩, by decide⟩] := rfl
  have hshort : fallbacks [("tlh" : Text)] = [[("tlh" : Text)]] := by cbv
  have hlong : fallbacks [("zh" : Text), "*", "x", "private"] =
      [[("zh" : Text), "*", "x", "private"], [("zh" : Text), "*"], [("zh" : Text)]] := by cbv
  have hfound : best items supportedLanguages = .ok (some "zh-HK") := by
    rw [best, hranges]
    show Except.ok (choose _ _) = _
    rw [choose, Header.byWeight, List.mergeSort_of_pairwise (by decide +kernel), candidates,
      List.mergeSort_of_pairwise (by decide +kernel)]
    simp only [List.findSome?, hshort, hlong]
    exact congrArg Except.ok (by decide +kernel)
  refine ⟨hd, hfound, ?_⟩
  rcases best_eq_first_match items hd with
    ⟨before, value, after, -, -, -, hb⟩ | ⟨ranges, hr, -, truncations, result, -, -, hb, hsome, -⟩
  · rw [hfound] at hb
    cases hb
  · rw [hfound] at hb
    cases hb
    exact ⟨ranges, truncations.flatten, hr, (hsome _).1 rfl⟩

end Lookup
end OneTimeCode
