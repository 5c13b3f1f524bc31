import OneTimeCode.Text.Basic

/-!
# Named values

Values under names, in the order in which the names first appeared. A name that is put again keeps
its place and takes the later value. Names are texts unless another kind of name is asked for.
-/
namespace OneTimeCode

abbrev Named (α : Type) (κ : Type := Text) := List (κ × α)

namespace Named
variable {α κ : Type} [DecidableEq κ]

def put (name : κ) (value : α) : Named α κ → Named α κ
  | [] => [(name, value)]
  | entry :: rest =>
    if entry.1 = name then (name, value) :: rest else entry :: put name value rest

def get? (name : κ) (entries : Named α κ) : Option α :=
  (entries.find? (·.1 = name)).map (·.2)

/-- Puts the entries one after the other. -/
def ofList (entries : List (κ × α)) : Named α κ :=
  entries.foldl (fun named entry => put entry.1 entry.2 named) []

theorem get?_cons (name : κ) (entry : κ × α) (rest : Named α κ) :
    get? name (entry :: rest) = if entry.1 = name then some entry.2 else get? name rest := by
  by_cases h : entry.1 = name <;> simp [get?, h]

theorem get?_put (name other : κ) (value : α) (entries : Named α κ) :
    get? other (put name value entries) = if other = name then some value else get? other entries := by
  induction entries with
  | nil => by_cases h : name = other <;> simp [put, get?, h, eq_comm]
  | cons entry rest ih =>
    by_cases he : entry.1 = name
    · by_cases h : name = other
      · simp [put, get?, he, h]
      · have h' : ¬ other = name := fun k => h k.symm
        simp [put, get?, he, h, h']
    · by_cases h : entry.1 = other
      · have h' : ¬ other = name := fun k => he (h.trans k)
        simp [put, get?, h, h']
      · simp only [get?] at ih
        simp [put, get?, he, h, ih]

theorem put_of_not_mem {name : κ} {entries : Named α κ} (h : name ∉ entries.map (·.1)) (value : α) :
    put name value entries = entries ++ [(name, value)] := by
  induction entries with
  | nil => rfl
  | cons entry rest ih =>
    have hn : ¬ entry.1 = name := fun he => h (he ▸ List.mem_cons_self)
    have hr : name ∉ rest.map (·.1) := fun hm => h (List.mem_cons_of_mem _ hm)
    rw [put, if_neg hn, ih hr, List.cons_append]

/-- Entries of different names are kept as they are. -/
theorem ofList_of_nodup {entries : List (κ × α)} (h : (entries.map (·.1)).Nodup) :
    ofList entries = entries := by
  have hfold (named rest : Named α κ) (hd : ((named ++ rest).map (·.1)).Nodup) :
      rest.foldl (fun sofar entry => put entry.1 entry.2 sofar) named = named ++ rest := by
    induction rest generalizing named with
    | nil => exact (List.append_nil _).symm
    | cons entry rest ih =>
      have hn : entry.1 ∉ named.map (·.1) := by
        intro hm
        rw [List.map_append, List.nodup_append] at hd
        exact hd.2.2 _ hm _ List.mem_cons_self rfl
      rw [List.foldl_cons, put_of_not_mem hn]
      have hsplit : named ++ entry :: rest = named ++ [(entry.1, entry.2)] ++ rest := by simp
      rw [hsplit] at hd ⊢
      exact ih _ hd
  exact hfold [] entries h

end Named
end OneTimeCode
