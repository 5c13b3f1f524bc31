import Mathlib.Data.List.Nodup
import Mathlib.Data.List.Induction
import OneTimeCode.Named

/-!
# Laws of named values

Each name has one entry however often it was put, and the last value counts. So an entry can be left
out before or after the entries are put together, and their order does not matter when a value is
looked up.
-/
namespace OneTimeCode.Named
variable {α κ : Type} [DecidableEq κ]

theorem ofList_concat (entries : List (κ × α)) (entry : κ × α) :
    ofList (entries ++ [entry]) = put entry.1 entry.2 (ofList entries) := by
  rw [ofList, List.foldl_concat]
  rfl

/-- Values may be changed before or after the entries are put together. -/
theorem ofList_mapValues {β : Type} (f : α → β) (entries : List (κ × α)) :
    ofList (entries.map fun entry => (entry.1, f entry.2)) =
      (ofList entries).map fun entry => (entry.1, f entry.2) := by
  have hput (name : κ) (value : α) (named : Named α κ) :
      put name (f value) (named.map fun entry => (entry.1, f entry.2)) =
        (put name value named).map fun entry => (entry.1, f entry.2) := by
    induction named with
    | nil => rfl
    | cons first rest ih =>
      rw [List.map_cons, put, put]
      split
      · rfl
      · rw [ih, List.map_cons]
  induction entries using List.reverseRecOn with
  | nil => rfl
  | append_singleton entries last ih =>
    rw [List.map_append, List.map_singleton, ofList_concat, ofList_concat, ih, hput]

theorem mem_put {name : κ} {value : α} {entries : Named α κ} {entry : κ × α}
    (h : entry ∈ put name value entries) : entry = (name, value) ∨ entry ∈ entries := by
  induction entries with
  | nil => exact .inl (List.mem_singleton.1 h)
  | cons first rest ih =>
    rw [put] at h
    split at h
    · exact (List.mem_cons.1 h).imp_right (List.mem_cons_of_mem first)
    · rcases List.mem_cons.1 h with rfl | h
      · exact .inr List.mem_cons_self
      · exact (ih h).imp_right (List.mem_cons_of_mem first)

theorem mem_of_mem_ofList {entries : List (κ × α)} {entry : κ × α} (h : entry ∈ ofList entries) :
    entry ∈ entries := by
  induction entries using List.reverseRecOn with
  | nil => exact h
  | append_singleton entries last ih =>
    rw [ofList_concat] at h
    rcases mem_put h with rfl | h
    · simp
    · exact List.mem_append_left _ (ih h)

theorem filter_put (keep : κ → Bool) (name : κ) (value : α) (entries : Named α κ) :
    (put name value entries).filter (keep ·.1) =
      if keep name then put name value (entries.filter (keep ·.1))
      else entries.filter (keep ·.1) := by
  induction entries with
  | nil => cases hk : keep name <;> simp [put, hk]
  | cons first rest ih =>
    rw [put]
    by_cases hn : first.1 = name
    · cases hk : keep name <;> simp [hn, hk, put]
    · rw [if_neg hn, List.filter_cons, ih, List.filter_cons]
      cases hk : keep name <;> cases hf : keep first.1 <;> simp [put, hn]

/-- Names may be left out before or after the entries are put together. -/
theorem ofList_filter (keep : κ → Bool) (entries : List (κ × α)) :
    ofList (entries.filter (keep ·.1)) = (ofList entries).filter (keep ·.1) := by
  induction entries using List.reverseRecOn with
  | nil => rfl
  | append_singleton entries last ih =>
    rw [ofList_concat, filter_put, ← ih, List.filter_append]
    cases hk : keep last.1 with
    | true =>
      have hlast : [last].filter (keep ·.1) = [last] := by simp [hk]
      rw [hlast, ofList_concat, if_pos rfl]
    | false => simp [hk]

/-- Later entries overwrite earlier ones. -/
theorem get?_ofList_append (name : κ) (entries others : List (κ × α)) :
    get? name (ofList (entries ++ others)) =
      (get? name (ofList others)).or (get? name (ofList entries)) := by
  induction others using List.reverseRecOn with
  | nil => simp [ofList, get?]
  | append_singleton others last ih =>
    rw [← List.append_assoc, ofList_concat, ofList_concat, get?_put, get?_put, ih]
    split <;> rfl

theorem names_put (name : κ) (value : α) (entries : Named α κ) :
    (put name value entries).map (·.1) =
      if name ∈ entries.map (·.1) then entries.map (·.1) else entries.map (·.1) ++ [name] := by
  by_cases hm : name ∈ entries.map (·.1)
  · rw [if_pos hm]
    induction entries with
    | nil => cases hm
    | cons first rest ih =>
      rw [put]
      split
      · next hn => rw [List.map_cons, List.map_cons, hn]
      · next hn =>
        rw [List.map_cons, List.mem_cons] at hm
        rw [List.map_cons, ih (hm.resolve_left (Ne.symm hn)), List.map_cons]
  · rw [if_neg hm, put_of_not_mem hm, List.map_append]
    rfl

theorem nodup_names_ofList (entries : List (κ × α)) : ((ofList entries).map (·.1)).Nodup := by
  induction entries using List.reverseRecOn with
  | nil => exact List.nodup_nil
  | append_singleton entries last ih =>
    rw [ofList_concat, names_put]
    split
    · exact ih
    · next hm =>
      rw [← List.concat_eq_append]
      exact ih.concat hm

theorem get?_eq_some_iff {entries : Named α κ} (hd : (entries.map (·.1)).Nodup) {name : κ}
    {value : α} : get? name entries = some value ↔ (name, value) ∈ entries := by
  induction entries with
  | nil => simp [get?]
  | cons first rest ih =>
    obtain ⟨hfirst, hrest⟩ := List.nodup_cons.1 hd
    rw [get?_cons, List.mem_cons]
    split
    · next hn =>
      have hnot : (name, value) ∉ rest := by
        intro hm
        exact hfirst (List.mem_map.2 ⟨_, hm, hn.symm⟩)
      rw [or_iff_left hnot, Option.some.injEq, Prod.ext_iff]
      exact ⟨fun h => ⟨hn.symm, h.symm⟩, fun h => h.2.symm⟩
    · next hn =>
      have hne : (name, value) ≠ first := fun he => hn (by rw [← he])
      rw [or_iff_right hne]
      exact ih hrest

theorem get?_perm {entries others : Named α κ} (h : entries.Perm others)
    (hd : (entries.map (·.1)).Nodup) (name : κ) : get? name entries = get? name others := by
  have hd' : (others.map (·.1)).Nodup := (h.map _).nodup_iff.1 hd
  ext value
  rw [get?_eq_some_iff hd, get?_eq_some_iff hd', h.mem_iff]

end OneTimeCode.Named
