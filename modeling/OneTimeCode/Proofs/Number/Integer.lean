import Mathlib.Data.List.TakeWhile
import OneTimeCode.Number.Integer
import OneTimeCode.Proofs.Results

/-!
# Numerals

A numeral is an optional sign and decimal digits of any script, with single underscores between
digits and blanks around. The reader accepts the numerals within the digit limit and no other text,
and gives the number that they spell.
-/
namespace OneTimeCode.Integer
open Text

/-- The text consists of digits with these values, and of single underscores between digits. -/
inductive Groups : Text → List Nat → Prop
  | last {c : CodePoint} {d : Nat} (h : decimalDigit? c = some d) : Groups [c] [d]
  | next {c : CodePoint} {d : Nat} {rest : Text} {digits : List Nat}
      (h : decimalDigit? c = some d) (hrest : Groups rest digits) :
      Groups (c :: rest) (d :: digits)
  | apart {c : CodePoint} {d : Nat} {rest : Text} {digits : List Nat}
      (h : decimalDigit? c = some d) (hrest : Groups rest digits) :
      Groups (c :: .char '_' :: rest) (d :: digits)

def signs : List Text := ["", "+", "-"]

/-- The text is a numeral within the digit limit, for the number `n`. -/
def Spells (t : Text) (n : Int) : Prop :=
  ∃ sign body digits, trimBy isNumberBlank t = sign ++ body ∧ sign ∈ signs ∧ Groups body digits ∧
    digits.length ≤ digitLimit ∧ n = signed (decide (sign = "-")) (ofDigits digits)

theorem isDecimalDigit_of_eq_some {c : CodePoint} {d : Nat} (h : decimalDigit? c = some d) :
    isDecimalDigit c = true := by
  rw [isDecimalDigit, h]
  rfl

namespace Groups
variable {t : Text} {digits : List Nat}

theorem exists_cons (h : Groups t digits) :
    ∃ c rest, t = c :: rest ∧ isDecimalDigit c = true := by
  cases h with
  | last h => exact ⟨_, _, rfl, isDecimalDigit_of_eq_some h⟩
  | next h => exact ⟨_, _, rfl, isDecimalDigit_of_eq_some h⟩
  | apart h => exact ⟨_, _, rfl, isDecimalDigit_of_eq_some h⟩

theorem forall_mem (h : Groups t digits) : ∀ c ∈ t, isDecimalDigit c ∨ c = '_' := by
  induction h with
  | last h => exact List.forall_mem_singleton.2 (.inl (isDecimalDigit_of_eq_some h))
  | next h _ ih => exact List.forall_mem_cons.2 ⟨.inl (isDecimalDigit_of_eq_some h), ih⟩
  | apart h _ ih =>
    exact List.forall_mem_cons.2 ⟨.inl (isDecimalDigit_of_eq_some h),
      List.forall_mem_cons.2 ⟨.inr rfl, ih⟩⟩

theorem ne_cons (h : Groups t digits) (c : CodePoint) (hc : isDecimalDigit c = false)
    (rest : Text) : t ≠ c :: rest := by
  obtain ⟨d, others, rfl, hd⟩ := h.exists_cons
  intro he
  rw [(List.cons_eq_cons.1 he).1, hc] at hd
  cases hd

end Groups

theorem groupedDigits?_cons {c : CodePoint} {rest : Text} (hne : rest ≠ [])
    (hu : ∀ others, rest ≠ .char '_' :: others) : groupedDigits? (c :: rest) =
      (decimalDigit? c).bind fun d => (groupedDigits? rest).bind fun ds => some (d :: ds) := by
  rw [groupedDigits?]
  · rfl
  · exact hne
  · exact hu

theorem groupedDigits?_eq_some_iff {t : Text} {digits : List Nat} :
    groupedDigits? t = some digits ↔ Groups t digits := by
  constructor
  · intro h
    induction t using groupedDigits?.induct generalizing digits with
    | case1 => cases h
    | case2 c =>
      obtain ⟨d, hd, rfl⟩ := Option.map_eq_some_iff.1 h
      exact .last hd
    | case3 c rest ih =>
      obtain ⟨d, hd, h⟩ := Option.bind_eq_some_iff.1 h
      obtain ⟨ds, hds, h⟩ := Option.bind_eq_some_iff.1 h
      cases h
      exact .apart hd (ih hds)
    | case4 c rest hne hu ih =>
      rw [groupedDigits?_cons hne hu] at h
      obtain ⟨d, hd, h⟩ := Option.bind_eq_some_iff.1 h
      obtain ⟨ds, hds, h⟩ := Option.bind_eq_some_iff.1 h
      cases h
      exact .next hd (ih hds)
  · intro h
    induction h with
    | last h => rw [groupedDigits?, h]; rfl
    | next h hrest ih =>
      obtain ⟨c, others, he, -⟩ := hrest.exists_cons
      rw [groupedDigits?_cons (he ▸ List.cons_ne_nil c others) (hrest.ne_cons '_' (by decide)),
        h, ih]
      rfl
    | apart h _ ih => rw [groupedDigits?, h, ih]; rfl

/-! ## Signs -/

theorem exists_sign (t : Text) :
    ∃ sign ∈ signs, t = sign ++ (splitSign t).2 ∧ (splitSign t).1 = decide (sign = "-") := by
  unfold splitSign
  split
  · exact ⟨"-", by decide, rfl, rfl⟩
  · exact ⟨"+", by decide, rfl, rfl⟩
  · exact ⟨"", by decide, rfl, rfl⟩

theorem splitSign_append {sign body : Text} {digits : List Nat} (hs : sign ∈ signs)
    (h : Groups body digits) : splitSign (sign ++ body) = (decide (sign = "-"), body) := by
  simp only [signs, List.mem_cons, List.not_mem_nil, or_false] at hs
  rcases hs with rfl | rfl | rfl
  · change splitSign body = (false, body)
    unfold splitSign
    split
    · next rest => exact absurd rfl (h.ne_cons _ (by decide) rest)
    · next rest => exact absurd rfl (h.ne_cons _ (by decide) rest)
    · rfl
  · rfl
  · rfl

/-! ## The reader -/

theorem read_eq_ok_iff {t : Text} {n : Int} : read t = .ok n ↔ Spells t n := by
  constructor
  · intro h
    obtain ⟨sign, hsign, hbody, hnegative⟩ := exists_sign (trimBy isNumberBlank t)
    simp only [read] at h
    split at h
    · cases h
    · next digits hdigits =>
      split at h
      · cases h
      · next hlimit =>
        split at h
        · cases h
        · next hlength =>
          -- No character is left behind the digits.
          have hall := (List.takeWhile_prefix _).eq_of_length_le (Nat.not_lt.1 hlength)
          rw [hall] at hdigits
          cases h
          exact ⟨sign, _, digits, hbody, hsign, groupedDigits?_eq_some_iff.1 hdigits,
            Nat.not_lt.1 hlimit, by rw [hnegative]⟩
  · rintro ⟨sign, body, digits, ht, hsign, hgroups, hlimit, rfl⟩
    have hall : (body.takeWhile fun c => isDecimalDigit c || c = '_') = body := by
      rw [List.takeWhile_eq_self_iff]
      simpa using hgroups.forall_mem
    rw [read, ht, splitSign_append hsign hgroups]
    simp only [hall, groupedDigits?_eq_some_iff.2 hgroups, if_neg (Nat.not_lt.2 hlimit),
      lt_irrefl, if_false]

example : (read " -1_000 ").toOption = some (-1000) := by decide

theorem exists_read_eq_error_iff {t : Text} :
    (∃ error, read t = .error error) ↔ ¬ ∃ n, Spells t n := by
  simp only [exists_eq_error_iff, read_eq_ok_iff]

end OneTimeCode.Integer
