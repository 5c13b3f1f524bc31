import Mathlib.Algebra.Ring.Int.Defs
import Mathlib.Data.List.Sort
import OneTimeCode.Proofs.Counter.Order

/-!
# Registries of counters

A registry whose counters stand in their order is determined by their values, and increments keep
the order. So a registry depends on the increments that it was given and not on their order, and
every sum over its counters is the sum of the increments.
-/
namespace OneTimeCode

namespace Counters

/-- The counters stand in the order of their keys, each of them once. -/
def IsOrdered (counters : Counters) : Prop :=
  counters.entries.Pairwise fun a b => a.1.precedes b.1 = true

def value? (counters : Counters) (key : CounterKey) : Option Int := Named.get? key counters.entries

def total (counters : Counters) (p : CounterKey → Bool) : Int :=
  (counters.entries.filter fun e => p e.1).foldr (fun e total => e.2 + total) 0

def addAll (counters : Counters) (additions : List (CounterKey × Int)) : Counters :=
  additions.foldl (fun sums addition => sums.add addition.1 addition.2) counters

theorem isOrdered_empty : IsOrdered .empty := List.Pairwise.nil

theorem mem_addTo {key : CounterKey} {amount : Int} {entries : List (CounterKey × Int)}
    {entry : CounterKey × Int} (h : entry ∈ addTo key amount entries) :
    entry.1 = key ∨ entry ∈ entries := by
  induction entries with
  | nil => simp_all [addTo]
  | cons first rest ih =>
    unfold addTo at h
    split at h
    · rcases List.mem_cons.1 h with rfl | h
      · exact .inl rfl
      · exact .inr (List.mem_cons_of_mem _ h)
    · split at h
      · rcases List.mem_cons.1 h with rfl | h
        · exact .inl rfl
        · exact .inr h
      · rcases List.mem_cons.1 h with rfl | h
        · exact .inr List.mem_cons_self
        · exact (ih h).imp_right (List.mem_cons_of_mem _)

theorem isOrdered_add {counters : Counters} (ho : counters.IsOrdered) (key : CounterKey)
    (amount : Int) : (counters.add key amount).IsOrdered := by
  have horder := CounterKey.isStrictTotalOrder
  obtain ⟨entries⟩ := counters
  show (addTo key amount entries).Pairwise _
  induction entries with
  | nil => exact List.pairwise_singleton ..
  | cons first rest ih =>
    obtain ⟨hfirst, hrest⟩ := List.pairwise_cons.1 ho
    unfold addTo
    split
    · next he =>
      subst he
      exact List.pairwise_cons.2 ⟨hfirst, hrest⟩
    · next hne =>
      split
      · next hp =>
        refine List.pairwise_cons.2 ⟨fun e he => ?_, ho⟩
        rcases List.mem_cons.1 he with rfl | he
        · exact hp
        · exact horder.trans _ _ _ hp (hfirst e he)
      · next hp =>
        refine List.pairwise_cons.2 ⟨fun e he => ?_, ih hrest⟩
        rcases mem_addTo he with rfl | he
        · have htri := trichotomous_of (fun a b => CounterKey.precedes a b = true) first.1 e.1
          exact htri.resolve_right (not_or.2 ⟨hne, hp⟩)
        · exact hfirst e he

theorem get?_eq_none {key : CounterKey} {entries : List (CounterKey × Int)}
    (h : ∀ e ∈ entries, key.precedes e.1 = true) : Named.get? key entries = none := by
  rw [Named.get?, Option.map_eq_none_iff, List.find?_eq_none]
  intro e he hkey
  have hlt := h e he
  rw [of_decide_eq_true hkey] at hlt
  exact CounterKey.isStrictTotalOrder.irrefl _ hlt

theorem value?_add {counters : Counters} (ho : counters.IsOrdered) (key other : CounterKey)
    (amount : Int) : (counters.add key amount).value? other =
      if other = key then some ((counters.value? key).getD 0 + amount)
      else counters.value? other := by
  have horder := CounterKey.isStrictTotalOrder
  obtain ⟨entries⟩ := counters
  show Named.get? other (addTo key amount entries) =
    if other = key then some ((Named.get? key entries).getD 0 + amount)
    else Named.get? other entries
  induction entries with
  | nil => simp [addTo, Named.get?, eq_comm]
  | cons first rest ih =>
    obtain ⟨hfirst, hrest⟩ := List.pairwise_cons.1 ho
    unfold addTo
    by_cases he : first.1 = key
    · subst he
      rw [if_pos rfl, Named.get?_cons, Named.get?_cons other first, Named.get?_cons first.1 first,
        if_pos rfl]
      by_cases hk : other = first.1
      · simp [hk]
      · simp [hk, Ne.symm hk]
    · rw [if_neg he]
      by_cases hp : key.precedes first.1 = true
      · have hnone : Named.get? key (first :: rest) = none := by
          apply get?_eq_none
          intro e hm
          rcases List.mem_cons.1 hm with rfl | hm
          · exact hp
          · exact horder.trans _ _ _ hp (hfirst e hm)
        rw [if_pos hp, Named.get?_cons, hnone]
        by_cases hk : other = key
        · simp [hk]
        · simp [hk, Ne.symm hk]
      · rw [if_neg hp, Named.get?_cons, Named.get?_cons key first, if_neg he,
          Named.get?_cons other first, ih hrest]
        by_cases hk : other = key
        · simp [hk, he]
        · simp [hk]

theorem mem_entries_iff {counters : Counters} (ho : counters.IsOrdered)
    (entry : CounterKey × Int) :
    entry ∈ counters.entries ↔ counters.value? entry.1 = some entry.2 := by
  obtain ⟨entries⟩ := counters
  show entry ∈ entries ↔ Named.get? entry.1 entries = some entry.2
  induction entries with
  | nil => simp [Named.get?]
  | cons first rest ih =>
    obtain ⟨hfirst, hrest⟩ := List.pairwise_cons.1 ho
    rw [Named.get?_cons, List.mem_cons, ih hrest]
    by_cases hk : first.1 = entry.1
    · have hnone : Named.get? entry.1 rest = none := get?_eq_none (hk ▸ hfirst)
      simp [hk, hnone, Prod.ext_iff, eq_comm]
    · have hne : entry ≠ first := fun h => hk (congrArg Prod.fst h.symm)
      simp [hk, hne]

/-- A registry in order is determined by its values. -/
theorem eq_of_value? {counters others : Counters} (ho : counters.IsOrdered)
    (ho' : others.IsOrdered) (h : ∀ key, counters.value? key = others.value? key) :
    counters = others := by
  have hmem (entry : CounterKey × Int) : entry ∈ counters.entries ↔ entry ∈ others.entries := by
    rw [mem_entries_iff ho, mem_entries_iff ho', h]
  have horder := CounterKey.isStrictTotalOrder
  have : Std.Irrefl fun a b : CounterKey × Int => a.1.precedes b.1 = true :=
    ⟨fun a => horder.irrefl a.1⟩
  have : Std.Antisymm fun a b : CounterKey × Int => a.1.precedes b.1 = true :=
    ⟨fun _ _ hab hba => absurd (horder.trans _ _ _ hab hba) (horder.irrefl _)⟩
  have hentries : counters.entries = others.entries :=
    List.Pairwise.eq_of_mem_iff ho ho' hmem
  exact congrArg Counters.mk hentries

theorem add_comm {counters : Counters} (ho : counters.IsOrdered)
    (first second : CounterKey × Int) :
    (counters.add first.1 first.2).add second.1 second.2 =
      (counters.add second.1 second.2).add first.1 first.2 := by
  have h₁ := isOrdered_add ho first.1 first.2
  have h₂ := isOrdered_add ho second.1 second.2
  apply eq_of_value? (isOrdered_add h₁ ..) (isOrdered_add h₂ ..)
  intro key
  rw [value?_add h₁, value?_add ho, value?_add ho, value?_add h₂, value?_add ho, value?_add ho]
  by_cases hf : first.1 = second.1
  · by_cases hk : key = second.1 <;> simp [hf, hk, Int.add_right_comm]
  · by_cases h₁ : key = first.1
    · simp [← h₁, h₁ ▸ hf]
    · by_cases h₂ : key = second.1 <;> simp [h₁, h₂, Ne.symm hf]

theorem addAll_append (counters : Counters) (first second : List (CounterKey × Int)) :
    counters.addAll (first ++ second) = (counters.addAll first).addAll second :=
  List.foldl_append

theorem isOrdered_addAll {counters : Counters} (ho : counters.IsOrdered)
    (additions : List (CounterKey × Int)) : (counters.addAll additions).IsOrdered := by
  induction additions generalizing counters with
  | nil => exact ho
  | cons first rest ih => exact ih (isOrdered_add ho ..)

theorem addAll_perm {counters : Counters} (ho : counters.IsOrdered)
    {additions others : List (CounterKey × Int)} (h : additions.Perm others) :
    counters.addAll additions = counters.addAll others := by
  induction h generalizing counters with
  | nil => rfl
  | cons first _ ih => exact ih (isOrdered_add ho ..)
  | swap first second rest =>
    show addAll ((counters.add second.1 second.2).add first.1 first.2) rest =
      addAll ((counters.add first.1 first.2).add second.1 second.2) rest
    rw [add_comm ho]
  | trans _ _ ih₁ ih₂ => exact (ih₁ ho).trans (ih₂ ho)

/-- An increment adds its amount to every sum over the counters that its key belongs to. -/
theorem total_add (counters : Counters) (p : CounterKey → Bool) (key : CounterKey)
    (amount : Int) :
    (counters.add key amount).total p = counters.total p + if p key then amount else 0 := by
  obtain ⟨entries⟩ := counters
  show (List.filter (fun e => p e.1) (addTo key amount entries)).foldr _ 0 =
    (List.filter (fun e => p e.1) entries).foldr _ 0 + if p key then amount else 0
  induction entries with
  | nil => cases hp : p key <;> simp [addTo, hp]
  | cons first rest ih =>
    unfold addTo
    split
    · next he =>
      subst he
      cases hp : p first.1 <;> simp [hp, Int.add_right_comm]
    · split
      · cases hp : p key <;> cases hf : p first.1 <;> simp [hp, hf, Int.add_comm]
      · cases hf : p first.1
        · simpa [hf] using ih
        · simp [hf, ih, Int.add_assoc]

theorem total_addAll (counters : Counters) (p : CounterKey → Bool)
    (additions : List (CounterKey × Int)) : (counters.addAll additions).total p =
      counters.total p + ((additions.filter (p ·.1)).map (·.2)).sum := by
  induction additions generalizing counters with
  | nil => exact (Int.add_zero _).symm
  | cons first rest ih =>
    show ((counters.add first.1 first.2).addAll rest).total p = _
    rw [ih, total_add]
    cases hp : p first.1 <;> simp [hp, Int.add_assoc]

theorem nodup_keys {counters : Counters} (ho : counters.IsOrdered) :
    (counters.entries.map (·.1)).Nodup := by
  have hordered : (counters.entries.map (·.1)).Pairwise fun a b => a.precedes b = true :=
    List.pairwise_map.2 ho
  refine hordered.imp fun {a b} hab he => ?_
  rw [he] at hab
  exact CounterKey.isStrictTotalOrder.irrefl _ hab

theorem value_eq_total {counters : Counters} (ho : counters.IsOrdered) {entry : CounterKey × Int}
    (h : entry ∈ counters.entries) : entry.2 = counters.total (· = entry.1) := by
  obtain ⟨entries⟩ := counters
  show entry.2 = (entries.filter fun e => decide (e.1 = entry.1)).foldr _ 0
  induction entries with
  | nil => cases h
  | cons first rest ih =>
    obtain ⟨hfirst, hrest⟩ := List.pairwise_cons.1 ho
    have hne {e : CounterKey × Int} (he : e ∈ rest) : first.1 ≠ e.1 := by
      intro hk
      have hlt := hfirst e he
      rw [hk] at hlt
      exact CounterKey.isStrictTotalOrder.irrefl _ hlt
    rcases List.mem_cons.1 h with rfl | hm
    · have hnone : rest.filter (fun e => decide (e.1 = entry.1)) = [] := by
        rw [List.filter_eq_nil_iff]
        exact fun e he hk => hne he (of_decide_eq_true hk).symm
      rw [List.filter_cons_of_pos (by simp), hnone]
      simp
    · rw [List.filter_cons_of_neg (by simpa using hne hm)]
      exact ih hrest hm

theorem count_eq_total (counters : Counters) (name : Text) (wanted : Named Json) :
    counters.count name wanted =
      counters.total fun key => key.name = name && key.carries wanted := rfl

theorem mem_keys_addTo {key other : CounterKey} {amount : Int}
    {entries : List (CounterKey × Int)} :
    other ∈ (addTo key amount entries).map (·.1) ↔ other = key ∨ other ∈ entries.map (·.1) := by
  induction entries with
  | nil => simp [addTo]
  | cons first rest ih =>
    unfold addTo
    split
    · next he => simp [he]
    · split
      · simp
      · rw [List.map_cons, List.mem_cons, ih, List.map_cons, List.mem_cons]
        exact or_left_comm

theorem mem_keys_addAll_iff {counters : Counters} {additions : List (CounterKey × Int)}
    {key : CounterKey} : key ∈ (counters.addAll additions).entries.map (·.1) ↔
      key ∈ additions.map (·.1) ∨ key ∈ counters.entries.map (·.1) := by
  induction additions generalizing counters with
  | nil => simp [addAll]
  | cons first rest ih =>
    show key ∈ ((counters.add first.1 first.2).addAll rest).entries.map (·.1) ↔ _
    rw [ih, List.map_cons, List.mem_cons, or_assoc, or_left_comm]
    exact or_congr_right mem_keys_addTo

end Counters
end OneTimeCode
