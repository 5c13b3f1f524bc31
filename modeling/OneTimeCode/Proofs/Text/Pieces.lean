import Mathlib.Data.List.TakeWhile
import OneTimeCode.Text.Basic

/-!
# Cutting what was joined

Parts that do not hold the separator come back when the joined text is cut at it again, and what
stands before and after the first mark comes back when the mark is put between them.
-/
namespace OneTimeCode.Text
variable {mark : CodePoint}

theorem pieces_of_not_mem {t : Text} (h : mark ∉ t) : pieces mark t = [t] := by
  induction t with
  | nil => rfl
  | cons c rest ih =>
    have hc : c ≠ mark := fun he => h (by simp [he])
    have hr : mark ∉ rest := fun hm => h (by simp [hm])
    rw [pieces, if_neg hc, ih hr]

theorem pieces_append {part : Text} (h : mark ∉ part) (rest : Text) :
    pieces mark (part ++ mark :: rest) = part :: pieces mark rest := by
  induction part with
  | nil => simp [pieces]
  | cons c part ih =>
    have hc : c ≠ mark := fun he => h (by simp [he])
    have hp : mark ∉ part := fun hm => h (by simp [hm])
    rw [List.cons_append, pieces, if_neg hc, ih hp]

theorem not_mem_of_mem_pieces {t piece : Text} (h : piece ∈ pieces mark t) : mark ∉ piece := by
  induction t generalizing piece with
  | nil =>
    rw [List.mem_singleton.1 h]
    exact List.not_mem_nil
  | cons c rest ih =>
    unfold pieces at h
    split at h
    · rcases List.mem_cons.1 h with rfl | h
      · exact List.not_mem_nil
      · exact ih h
    · next hc =>
      cases hp : pieces mark rest with
      | nil => exact absurd hp (pieces_ne_nil mark rest)
      | cons first others =>
        rw [hp] at h ih
        rcases List.mem_cons.1 h with rfl | h
        · rw [List.mem_cons, not_or]
          exact ⟨Ne.symm hc, ih List.mem_cons_self⟩
        · exact ih (List.mem_cons_of_mem _ h)

theorem join_cons (separator part next : Text) (parts : List Text) :
    join separator (part :: next :: parts) = part ++ separator ++ join separator (next :: parts) := by
  simp [join, List.intercalate, List.intersperse]

theorem pieces_join {parts : List Text} (hne : parts ≠ []) (h : ∀ part ∈ parts, mark ∉ part) :
    pieces mark (join [mark] parts) = parts := by
  induction parts with
  | nil => exact absurd rfl hne
  | cons part others ih =>
    have hp : mark ∉ part := h part (by simp)
    cases others with
    | nil => simpa [join, List.intercalate, List.intersperse] using pieces_of_not_mem hp
    | cons next others =>
      rw [join_cons, List.append_assoc, List.singleton_append, pieces_append hp,
        ih (by simp) (fun q hq => h q (by simp [hq]))]

theorem mem_join {separator : Text} {parts : List Text} {c : CodePoint}
    (h : c ∈ join separator parts) : c ∈ separator ∨ ∃ part ∈ parts, c ∈ part := by
  induction parts with
  | nil => cases h
  | cons part others ih =>
    cases others with
    | nil => exact .inr ⟨part, by simp, by simpa [join, List.intercalate] using h⟩
    | cons next others =>
      rw [join_cons, List.mem_append, List.mem_append] at h
      rcases h with (h | h) | h
      · exact .inr ⟨part, by simp, h⟩
      · exact .inl h
      · rcases ih h with hs | ⟨other, hm, hc⟩
        · exact .inl hs
        · exact .inr ⟨other, List.mem_cons_of_mem part hm, hc⟩

theorem before_append {name : Text} (h : mark ∉ name) (value : Text) :
    before mark (name ++ mark :: value) = name := by
  induction name with
  | nil => simp [before]
  | cons c name ih =>
    have hc : c ≠ mark := fun he => h (by simp [he])
    have hn : mark ∉ name := fun hm => h (by simp [hm])
    have := ih hn
    unfold before at this ⊢
    simp [hc, this]

theorem after_append {name : Text} (h : mark ∉ name) (value : Text) :
    after mark (name ++ mark :: value) = value := by
  induction name with
  | nil => simp [after]
  | cons c name ih =>
    have hc : c ≠ mark := fun he => h (by simp [he])
    have hn : mark ∉ name := fun hm => h (by simp [hm])
    have := ih hn
    unfold after at this ⊢
    simpa [hc] using this

theorem not_mem_before (mark : CodePoint) (t : Text) : mark ∉ before mark t := by
  intro h
  simpa using List.mem_takeWhile_imp h

theorem before_of_not_mem {t : Text} (h : mark ∉ t) : before mark t = t := by
  rw [before, List.takeWhile_eq_self_iff]
  intro c hc
  rw [bne_iff_ne]
  rintro rfl
  exact h hc

theorem after_of_not_mem {t : Text} (h : mark ∉ t) : after mark t = [] := by
  have hall : t.dropWhile (· != mark) = [] := by
    rw [List.dropWhile_eq_nil_iff]
    intro c hc
    rw [bne_iff_ne]
    rintro rfl
    exact h hc
  rw [after, hall, List.drop_nil]

end OneTimeCode.Text
