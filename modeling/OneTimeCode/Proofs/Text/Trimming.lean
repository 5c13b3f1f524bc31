import Mathlib.Data.List.Basic
import Mathlib.Data.List.DropRight
import OneTimeCode.Text.Blank
import OneTimeCode.Proofs.Text.Pieces

/-!
# Laws of trimming

A trimmed text neither begins nor ends with a blank character, so trimming it again changes
nothing, and a text that begins with another character still begins with it once it is trimmed.
-/
namespace OneTimeCode.Text

section
variable {p : CodePoint → Bool} {c : CodePoint} {t front back : Text}

/-- A character that stays protects all in front of it. -/
theorem dropTrailing_append_cons (h : p c = false) (front back : Text) :
    dropTrailing p (front ++ c :: back) = front ++ c :: dropTrailing p back := by
  unfold dropTrailing
  rw [List.reverse_append, List.reverse_cons, List.append_assoc, List.dropWhile_append]
  split
  · next he =>
    rw [List.isEmpty_iff] at he
    simp [he, h]
  · simp

theorem dropTrailing_cons (h : p c = false) (t : Text) :
    dropTrailing p (c :: t) = c :: dropTrailing p t :=
  dropTrailing_append_cons h [] t

theorem dropTrailing_append (h : ∀ c ∈ back, p c = true) :
    dropTrailing p (front ++ back) = dropTrailing p front := by
  unfold dropTrailing
  rw [List.reverse_append, List.dropWhile_append_of_pos (by simpa using h)]

theorem dropTrailing_of_all (h : ∀ c ∈ t, p c = true) : dropTrailing p t = [] := by
  rw [← List.nil_append t, dropTrailing_append h]
  rfl

/-- What is left ends with a character that stays. -/
theorem dropTrailing_append_of_all_not (h : ∀ c ∈ t, p c = false) (front : Text) (hne : t ≠ []) :
    dropTrailing p (front ++ t) = front ++ t := by
  obtain ⟨others, last, rfl⟩ := (List.eq_nil_or_concat' t).resolve_left hne
  rw [← List.append_assoc, dropTrailing_append_cons (h last (by simp))]
  rfl

/-- A text that ends with a character that stays also does if others are left out. -/
theorem dropTrailing_filter {q : CodePoint → Bool} (h : dropTrailing p t = t)
    (hq : ∀ c, p c = false → q c = true) : dropTrailing p (t.filter q) = t.filter q := by
  rcases List.eq_nil_or_concat' t with rfl | ⟨others, last, rfl⟩
  · rfl
  · have hlast : p last = false := by
      simpa using List.rdropWhile_eq_self_iff.1 h (by simp)
    rw [List.filter_append, List.filter_cons_of_pos (hq last hlast), List.filter_nil]
    exact dropTrailing_append_cons hlast _ []

theorem exists_eq_dropTrailing_append (p : CodePoint → Bool) (t : Text) :
    ∃ back, t = dropTrailing p t ++ back ∧ ∀ c ∈ back, p c = true := by
  refine ⟨(t.reverse.takeWhile p).reverse, ?_, ?_⟩
  · rw [dropTrailing, ← List.reverse_append, List.takeWhile_append_dropWhile, List.reverse_reverse]
  · intro c hm
    exact List.mem_takeWhile_imp (List.mem_reverse.1 hm)

theorem exists_last_of_not_all (h : ¬ ∀ c ∈ t, p c = true) :
    ∃ front c back, t = front ++ c :: back ∧ p c = false ∧ ∀ d ∈ back, p d = true := by
  induction t with
  | nil => exact absurd (fun c hc => nomatch hc) h
  | cons c rest ih =>
    by_cases hrest : ∀ d ∈ rest, p d = true
    · have hc : p c = false := by
        rw [← Bool.not_eq_true]
        exact fun hc => h (List.forall_mem_cons.2 ⟨hc, hrest⟩)
      exact ⟨[], c, rest, rfl, hc, hrest⟩
    · obtain ⟨front, d, back, rfl, hd, hback⟩ := ih hrest
      exact ⟨c :: front, d, back, rfl, hd, hback⟩

def EndsIn (p : CodePoint → Bool) (t : Text) : Prop := ∃ front c, t = front ++ [c] ∧ p c = true

theorem dropTrailing_eq_self_iff : dropTrailing p t = t ↔ ¬ EndsIn p t := by
  refine List.rdropWhile_eq_self_iff.trans ⟨?_, ?_⟩
  · rintro h ⟨front, c, rfl, hc⟩
    exact h (by simp) (by simpa using hc)
  · intro h hne hlast
    exact h ⟨t.dropLast, t.getLast hne, (List.dropLast_append_getLast hne).symm, hlast⟩

theorem not_endsIn_dropTrailing (p : CodePoint → Bool) (t : Text) :
    ¬ EndsIn p (dropTrailing p t) :=
  dropTrailing_eq_self_iff.1 (dropTrailing_dropTrailing p t)

/-- What was dropped shows which character was left at the end. -/
theorem endsIn_dropTrailing_iff {q : CodePoint → Bool} (hpq : ∀ c, q c = true → p c = false) :
    EndsIn q (dropTrailing p t) ↔
      ∃ front c back, t = front ++ c :: back ∧ q c = true ∧ ∀ d ∈ back, p d = true := by
  constructor
  · rintro ⟨front, c, he, hc⟩
    obtain ⟨back, ht, hback⟩ := exists_eq_dropTrailing_append p t
    exact ⟨front, c, back, by rw [ht, he, List.append_assoc, List.singleton_append], hc, hback⟩
  · rintro ⟨front, c, back, rfl, hc, hback⟩
    exact ⟨front, c, by rw [dropTrailing_append_cons (hpq c hc), dropTrailing_of_all hback], hc⟩

end

theorem trim_cons {c : CodePoint} (h : isBlank c = false) (t : Text) :
    trim (c :: t) = c :: dropTrailing isBlank t := by
  unfold trim trimBy
  rw [List.dropWhile_cons_of_neg (by simp [h]), dropTrailing_cons h]

/-- What is left of a text starts with the first character that is not blank. -/
theorem trim_eq_nil_or_cons (t : Text) :
    trim t = [] ∨ ∃ c rest, isBlank c = false ∧ trim t = c :: dropTrailing isBlank rest := by
  cases hd : t.dropWhile isBlank with
  | nil =>
    left
    simp [trim, trimBy, hd, dropTrailing]
  | cons c rest =>
    right
    have hc : isBlank c = false := by
      have hn : t.dropWhile isBlank ≠ [] := by simp [hd]
      have := List.head_dropWhile_not isBlank hn
      simpa [hd] using this
    refine ⟨c, rest, hc, ?_⟩
    rw [trim, trimBy, hd, dropTrailing_cons hc]

@[simp] theorem trim_trim (t : Text) : trim (trim t) = trim t := by
  rcases trim_eq_nil_or_cons t with h | ⟨c, rest, hc, h⟩
  · rw [h]
    rfl
  · rw [h, trim_cons hc, dropTrailing_dropTrailing]

theorem trim_sublist (t : Text) : (trim t).Sublist t := by
  have hback : (trim t).Sublist (t.dropWhile isBlank) := by
    have h := (List.dropWhile_sublist isBlank (l := (t.dropWhile isBlank).reverse)).reverse
    rwa [List.reverse_reverse] at h
  exact hback.trans (List.dropWhile_sublist isBlank)

theorem mem_of_mem_trim {c : CodePoint} {t : Text} (h : c ∈ trim t) : c ∈ t :=
  (trim_sublist t).subset h

/-- A change of characters that keeps the blanks apart may come before or after trimming. -/
theorem trim_map {f : CodePoint → CodePoint} (h : ∀ c, isBlank (f c) = isBlank c) (t : Text) :
    trim (t.map f) = (trim t).map f := by
  have hsame : isBlank ∘ f = isBlank := funext h
  simp only [trim, trimBy, dropTrailing, List.dropWhile_map, ← List.map_reverse, hsame]

/-! ## Trimming around a part and around a mark -/

section
variable {mark : CodePoint} {front inner back : Text}

theorem trim_append_cons (h : isBlank mark = false) (front back : Text) :
    trim (front ++ mark :: back) =
      front.dropWhile isBlank ++ mark :: dropTrailing isBlank back := by
  rw [trim, trimBy, List.dropWhile_append]
  split
  · next he =>
    rw [List.isEmpty_iff] at he
    rw [he, List.dropWhile_cons_of_neg (by simp [h]), dropTrailing_cons h]
    rfl
  · exact dropTrailing_append_cons h _ _

theorem trim_of_all (h : ∀ c ∈ inner, isBlank c = true) : trim inner = [] := by
  rw [trim, trimBy, List.dropWhile_eq_nil_iff.2 h]
  rfl

theorem trim_padded (hfront : ∀ c ∈ front, isBlank c = true) (hback : ∀ c ∈ back, isBlank c = true)
    (h : ∀ c ∈ inner, isBlank c = false) : trim (front ++ inner ++ back) = inner := by
  cases inner with
  | nil =>
    rw [List.append_nil]
    exact trim_of_all (by simpa [or_imp, forall_and] using ⟨hfront, hback⟩)
  | cons c rest =>
    have hc : isBlank c = false := h c List.mem_cons_self
    rw [List.append_assoc, trim, trimBy, List.dropWhile_append_of_pos hfront, List.cons_append,
      List.dropWhile_cons_of_neg (by simp [hc]), ← List.cons_append, dropTrailing_append hback]
    exact dropTrailing_append_of_all_not h [] (List.cons_ne_nil c rest)

theorem exists_eq_trim_padded (t : Text) : ∃ front back, t = front ++ trim t ++ back ∧
    (∀ c ∈ front, isBlank c = true) ∧ ∀ c ∈ back, isBlank c = true := by
  obtain ⟨back, hb, hback⟩ := exists_eq_dropTrailing_append isBlank (t.dropWhile isBlank)
  refine ⟨t.takeWhile isBlank, back, ?_, fun c hm => List.mem_takeWhile_imp hm, hback⟩
  rw [trim, trimBy, List.append_assoc, ← hb, List.takeWhile_append_dropWhile]

/-- What stands in front of a mark is trimmed alike if the text around it is trimmed first. -/
theorem trim_before_trim (h : isBlank mark = false) (t : Text) :
    trim (before mark (trim t)) = trim (before mark t) := by
  by_cases hm : mark ∈ t
  · obtain ⟨hnot, he⟩ := And.intro (not_mem_before mark t) (before_append_after mark t hm)
    generalize before mark t = front at hnot he ⊢
    rw [← he, trim_append_cons h, before_append fun hd =>
      hnot ((List.dropWhile_sublist _).subset hd), trim, trimBy, List.dropWhile_idempotent]
    rfl
  · rw [before_of_not_mem hm, before_of_not_mem fun ht => hm (mem_of_mem_trim ht), trim_trim]

theorem after_trim (h : isBlank mark = false) (t : Text) :
    after mark (trim t) = dropTrailing isBlank (after mark t) := by
  by_cases hm : mark ∈ t
  · obtain ⟨hnot, he⟩ := And.intro (not_mem_before mark t) (before_append_after mark t hm)
    generalize before mark t = front, after mark t = back at hnot he ⊢
    rw [← he, trim_append_cons h, after_append fun hd =>
      hnot ((List.dropWhile_sublist _).subset hd)]
  · rw [after_of_not_mem hm, after_of_not_mem fun ht => hm (mem_of_mem_trim ht)]
    rfl

end

end OneTimeCode.Text
