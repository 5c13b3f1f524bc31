import Mathlib.Data.List.Forall2

/-!
# Results of several steps

Steps that may fail succeed together exactly if each of them does. Of a list of steps the first that
fails decides.
-/
namespace OneTimeCode
variable {α β ε : Type}

theorem bind_eq_ok_iff {first : Except ε α} {next : α → Except ε β} {b : β} :
    (first >>= next) = .ok b ↔ ∃ a, first = .ok a ∧ next a = .ok b := by
  cases first <;> simp [bind, Except.bind]

theorem map_eq_ok_iff {result : Except ε α} {f : α → β} {b : β} :
    result.map f = .ok b ↔ ∃ a, result = .ok a ∧ b = f a := by
  cases result <;> simp [Except.map, eq_comm]

theorem mapError_eq_ok_iff {ε' : Type} {result : Except ε α} {f : ε → ε'} {a : α} :
    result.mapError f = .ok a ↔ result = .ok a := by
  cases result <;> simp [Except.mapError]

theorem exists_eq_error_iff {result : Except ε α} :
    (∃ error, result = .error error) ↔ ¬ ∃ a, result = .ok a := by
  cases result <;> simp

variable {f : α → Except ε β} {items : List α}

theorem mapM_eq_ok_iff {found : List β} :
    items.mapM f = .ok found ↔ List.Forall₂ (fun item value => f item = .ok value) items found := by
  induction items generalizing found with
  | nil =>
    rw [List.mapM_nil, List.forall₂_nil_left_iff]
    exact Except.ok.injEq [] found ▸ eq_comm
  | cons item rest ih =>
    simp only [List.mapM_cons, bind_eq_ok_iff, ih, List.forall₂_cons_left_iff]
    constructor
    · rintro ⟨value, hv, values, hvs, hfound⟩
      exact ⟨value, values, hv, hvs, (Except.ok.inj hfound).symm⟩
    · rintro ⟨value, values, hv, hvs, rfl⟩
      exact ⟨value, hv, values, hvs, rfl⟩

/-- If each step gives what stands for a value of some relation, so do all steps together. -/
theorem mapM_eq_ok_iff_map {γ : Type} {g : γ → β} {r : α → γ → Prop}
    (h : ∀ item ∈ items, ∀ value, f item = .ok value ↔ ∃ c, g c = value ∧ r item c)
    {found : List β} :
    items.mapM f = .ok found ↔ ∃ given, List.Forall₂ r items given ∧ given.map g = found := by
  rw [mapM_eq_ok_iff]
  constructor
  · intro hall
    induction hall with
    | nil => exact ⟨[], .nil, rfl⟩
    | cons hvalue _ ih =>
      rw [List.forall_mem_cons] at h
      obtain ⟨given, hgiven, rfl⟩ := ih h.2
      obtain ⟨c, rfl, hc⟩ := (h.1 _).1 hvalue
      exact ⟨c :: given, .cons hc hgiven, rfl⟩
  · rintro ⟨given, hall, rfl⟩
    induction hall with
    | nil => exact .nil
    | cons hc _ ih =>
      rw [List.forall_mem_cons] at h
      exact .cons ((h.1 _).2 ⟨_, rfl, hc⟩) (ih h.2)

theorem filterM_ok (keep : α → Bool) :
    items.filterM (fun item => (.ok (keep item) : Except ε Bool)) = .ok (items.filter keep) := by
  have haux (found : List α) : items.filterAuxM (fun item => (.ok (keep item) : Except ε Bool))
      found = .ok ((items.filter keep).reverse ++ found) := by
    induction items generalizing found with
    | nil => rfl
    | cons item rest ih =>
      rw [List.filterAuxM]
      change List.filterAuxM _ rest _ = _
      rw [ih]
      cases h : keep item <;> simp [h]
  rw [List.filterM, haux, List.append_nil]
  change Except.ok (List.reverse _) = _
  rw [List.reverse_reverse]

theorem exists_of_forall₂ {γ : Type} {r : α → γ → Prop} {given : List γ}
    (h : List.Forall₂ r items given) {item : α} (hm : item ∈ items) : ∃ c, r item c := by
  induction h with
  | nil => cases hm
  | cons hc _ ih =>
    rcases List.mem_cons.1 hm with rfl | hm
    · exact ⟨_, hc⟩
    · exact ih hm

theorem mapM_eq_error {error : ε} (h : items.mapM f = .error error) :
    ∃ before item after, items = before ++ item :: after ∧ f item = .error error ∧
      ∀ other ∈ before, ∃ value, f other = .ok value := by
  induction items with
  | nil => cases h
  | cons item rest ih =>
    rw [List.mapM_cons] at h
    cases hf : f item with
    | error e =>
      rw [hf] at h
      cases h
      exact ⟨[], item, rest, rfl, hf, by simp⟩
    | ok value =>
      rw [hf] at h
      cases hr : rest.mapM f with
      | ok values =>
        rw [hr] at h
        cases h
      | error e =>
        rw [hr] at h
        cases h
        obtain ⟨before, bad, after, rfl, hbad, hbefore⟩ := ih hr
        refine ⟨item :: before, bad, after, rfl, hbad, ?_⟩
        intro other hm
        rcases List.mem_cons.1 hm with rfl | hm
        · exact ⟨value, hf⟩
        · exact hbefore other hm

end OneTimeCode
