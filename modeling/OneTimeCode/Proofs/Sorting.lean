import Mathlib.Data.List.Basic
import Mathlib.Order.Defs.Unbundled

/-!
# Sorting and leaving out

A stable sort puts a new first element behind all that it exceeds and in front of all others. So it
makes no difference whether elements are left out before or after sorting. A strict total order
sorts different elements strictly.
-/
namespace OneTimeCode
variable {α : Type} {le : α → α → Bool}

theorem mergeSort_cons_eq (trans : ∀ a b c, le a b = true → le b c = true → le a c = true)
    (total : ∀ a b, (le a b || le b a) = true) (item : α) (rest : List α) :
    let front := (rest.mergeSort le).filter (!le item ·)
    let back := (rest.mergeSort le).filter (le item ·)
    (item :: rest).mergeSort le = front ++ item :: back ∧ rest.mergeSort le = front ++ back := by
  obtain ⟨before, after, hsorted, hrest, hbefore⟩ := List.mergeSort_cons trans total item rest
  have hafter : ∀ other ∈ after, le item other = true := by
    have hpairwise := List.pairwise_mergeSort trans total (item :: rest)
    rw [hsorted, List.pairwise_append, List.pairwise_cons] at hpairwise
    exact hpairwise.2.1.1
  have hfront : (rest.mergeSort le).filter (!le item ·) = before := by
    rw [hrest, List.filter_append, List.filter_eq_self.2 hbefore,
      List.filter_eq_nil_iff.2 fun other hm => by simp [hafter other hm], List.append_nil]
  have hback : (rest.mergeSort le).filter (le item ·) = after := by
    rw [hrest, List.filter_append, List.filter_eq_self.2 hafter,
      List.filter_eq_nil_iff.2 fun other hm => by simpa using hbefore other hm, List.nil_append]
  simp only [hfront, hback]
  exact ⟨hsorted, hrest⟩

theorem filter_mergeSort (trans : ∀ a b c, le a b = true → le b c = true → le a c = true)
    (total : ∀ a b, (le a b || le b a) = true) (p : α → Bool) (items : List α) :
    (items.mergeSort le).filter p = (items.filter p).mergeSort le := by
  induction items with
  | nil => simp
  | cons item rest ih =>
    have hswap (q : α → Bool) :
        ((rest.mergeSort le).filter q).filter p = ((rest.filter p).mergeSort le).filter q := by
      rw [← ih, List.filter_filter, List.filter_filter]
      simp only [Bool.and_comm]
    obtain ⟨hsorted, -⟩ := mergeSort_cons_eq trans total item rest
    obtain ⟨hkept, hleft⟩ := mergeSort_cons_eq trans total item (rest.filter p)
    rw [hsorted, List.filter_append, hswap]
    cases hp : p item with
    | true => rw [List.filter_cons_of_pos hp, List.filter_cons_of_pos hp, hswap, hkept]
    | false =>
      have hn : ¬ p item = true := by simp [hp]
      rw [List.filter_cons_of_neg hn, List.filter_cons_of_neg hn, hswap, ← hleft]

/-- Elements that may stand in any order keep the order that they have. -/
theorem filter_mergeSort_of_alike
    (trans : ∀ a b c, le a b = true → le b c = true → le a c = true)
    (total : ∀ a b, (le a b || le b a) = true) {p : α → Bool}
    (alike : ∀ a b, p a = true → p b = true → le a b = true) (items : List α) :
    (items.mergeSort le).filter p = items.filter p := by
  have hsorted : (items.filter p).Pairwise fun a b => le a b = true := by
    rw [List.pairwise_filter]
    exact List.pairwise_of_forall alike
  rw [filter_mergeSort trans total]
  exact List.mergeSort_of_pairwise hsorted

section
variable {β : Type} {r : β → β → Bool} (h : IsStrictTotalOrder β fun a b => r a b = true)
include h

/-- Sorting looks at whether the second of two elements precedes the first, which is transitive. -/
theorem not_precedes_trans (f : α → β) (a b c : α) (hab : (!r (f b) (f a)) = true)
    (hbc : (!r (f c) (f b)) = true) : (!r (f c) (f a)) = true := by
  simp only [Bool.not_eq_true', ← Bool.not_eq_true] at hab hbc ⊢
  intro hca
  by_cases hcb : r (f c) (f b) = true
  · exact hbc hcb
  · -- of `b` and `c` neither precedes the other, so they are the same
    by_cases hbc' : r (f b) (f c) = true
    · exact hab (h.trans _ _ _ hbc' hca)
    · rw [h.trichotomous _ _ hbc' hcb] at hab
      exact hab hca

theorem not_precedes_total (f : α → β) (a b : α) :
    (!r (f b) (f a) || !r (f a) (f b)) = true := by
  rw [Bool.or_eq_true, Bool.not_eq_true', Bool.not_eq_true', ← Bool.not_eq_true,
    ← Bool.not_eq_true, ← not_and_or]
  rintro ⟨hba, hab⟩
  exact h.irrefl _ (h.trans _ _ _ hab hba)

theorem pairwise_mergeSort_of_nodup {items : List β} (hn : items.Nodup) :
    (items.mergeSort fun a b => !r b a).Pairwise fun a b => r a b = true := by
  have hsorted : (items.mergeSort fun a b => !r b a).Pairwise fun a b => (!r b a) = true :=
    List.pairwise_mergeSort (not_precedes_trans h id) (not_precedes_total h id) items
  have hdifferent : (items.mergeSort fun a b => !r b a).Pairwise (· ≠ ·) :=
    (List.mergeSort_perm items _).nodup_iff.2 hn
  refine (hsorted.and hdifferent).imp fun {a b} hab => ?_
  obtain ⟨hle, hne⟩ := hab
  by_contra hlt
  rw [Bool.not_eq_true', ← Bool.not_eq_true] at hle
  exact hne (h.trichotomous _ _ hlt hle)

end

end OneTimeCode
