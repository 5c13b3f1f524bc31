import OneTimeCode.Text.CodePoint

/-!
# Text

A text is the list of its code points. Counts and cuts are in code points, and every function of
this library on texts is a total function on that list.
-/
namespace OneTimeCode

abbrev Text := List CodePoint

namespace Text

/-- The text of a string, which has characters only. -/
def ofString (s : String) : Text := s.toList.map .char

/-- The string of a text, every half replaced. -/
def string (t : Text) : String := String.ofList (t.map CodePoint.shown)

end Text

instance : Coe String Text := ⟨Text.ofString⟩

namespace Text

/-- Membership in a union of closed ranges. -/
def inRanges (ranges : List (Nat × Nat)) (c : CodePoint) : Bool :=
  ranges.any fun r => r.1 ≤ c.toNat && c.toNat ≤ r.2

/-- The pieces between the separators; a text without separator is its only piece. -/
def pieces (separator : CodePoint) : Text → List Text
  | [] => [[]]
  | c :: rest =>
    if c = separator then [] :: pieces separator rest
    else match pieces separator rest with
      | [] => [[c]]
      | piece :: others => (c :: piece) :: others

/-- What stands before the first `mark`; the whole text if there is none. -/
def before (mark : CodePoint) (t : Text) : Text :=
  t.takeWhile (· != mark)

/-- What stands after the first `mark`; nothing if there is none. -/
def after (mark : CodePoint) (t : Text) : Text :=
  (t.dropWhile (· != mark)).drop 1

/-- Puts `separator` between the parts. -/
def join (separator : Text) (parts : List Text) : Text :=
  separator.intercalate parts

def dropTrailing (p : CodePoint → Bool) (t : Text) : Text :=
  (t.reverse.dropWhile p).reverse

/-- The first `n` code points; for a negative `n`, all but the last `-n`. -/
def leading (n : Int) (t : Text) : Text :=
  if 0 ≤ n then t.take n.toNat else t.take (t.length - (-n).toNat)

/-- The order by code points, a text after each of its own beginnings. -/
def precedes (a b : Text) : Bool := decide (a < b)

/-- Fills up with `fill` on the left to at least `width` code points. -/
def padLeft (fill : CodePoint) (width : Nat) (t : Text) : Text :=
  List.replicate (width - t.length) fill ++ t

/-- Fills up with `fill` on the right to at least `width` code points. -/
def padRight (fill : CodePoint) (width : Nat) (t : Text) : Text :=
  t ++ List.replicate (width - t.length) fill

theorem pieces_ne_nil (separator : CodePoint) (t : Text) : pieces separator t ≠ [] := by
  cases t with
  | nil => simp [pieces]
  | cons c rest =>
    unfold pieces
    split
    · simp
    · split <;> simp

theorem join_pieces (separator : CodePoint) (t : Text) :
    join [separator] (pieces separator t) = t := by
  induction t with
  | nil => rfl
  | cons c rest ih =>
    unfold pieces
    split
    · next h =>
      subst h
      cases hp : pieces c rest with
      | nil => exact absurd hp (pieces_ne_nil c rest)
      | cons p ps =>
        rw [hp] at ih
        simpa [join, List.intercalate, List.intersperse] using ih
    · cases hp : pieces separator rest with
      | nil => exact absurd hp (pieces_ne_nil separator rest)
      | cons p ps =>
        rw [hp] at ih
        cases ps with
        | nil => simpa [join, List.intercalate, List.intersperse] using ih
        | cons q qs => simpa [join, List.intercalate, List.intersperse] using ih

theorem before_append_after (mark : CodePoint) (t : Text) (h : mark ∈ t) :
    before mark t ++ mark :: after mark t = t := by
  induction t with
  | nil => simp at h
  | cons c rest ih =>
    by_cases hc : c = mark
    · simp [before, after, hc]
    · have hm : mark ∈ rest := by
        rcases List.mem_cons.1 h with rfl | h
        · exact absurd rfl hc
        · exact h
      have := ih hm
      simp only [before, after, bne_iff_ne, ne_eq, hc, not_false_eq_true, List.takeWhile_cons_of_pos,
        List.dropWhile_cons_of_pos, List.cons_append, List.cons.injEq, true_and] at this ⊢
      exact this

end Text
end OneTimeCode
