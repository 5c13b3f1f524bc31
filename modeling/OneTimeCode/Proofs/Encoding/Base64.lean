import OneTimeCode.Encoding.Base64

/-!
# Base64 and back

Every list of bytes comes back when what it was encoded to is decoded. A digit is never the padding
character, so no group of four digits is taken for the end.
-/
namespace OneTimeCode.Base64
variable {p q r s : Nat}

theorem digit_ne_padding {n : Nat} (h : n < 64) : digit n ≠ .char '=' := by
  intro he
  have hv := value?_digit h
  rw [he] at hv
  exact absurd hv (by simp [value?])

/-- A whole group of digits is three bytes, whatever follows. -/
theorem decode?_group (hp : p < 64) (hq : q < 64) (hr : r < 64) (hs : s < 64) (rest : Text) :
    decode? (digit p :: digit q :: digit r :: digit s :: rest) =
      (decode? rest).map fun others =>
        (p * 4 + q / 16) :: (q % 16 * 16 + r / 4) :: (r % 4 * 64 + s) :: others := by
  rw [decode?]
  · simp only [value?_digit, hp, hq, hr, hs]
    cases decode? rest <;> rfl
  · intro h _ _
    exact digit_ne_padding hr h
  · intro h _
    exact digit_ne_padding hs h

theorem decode?_last_one (hp : p < 64) (hq : q < 64) :
    decode? [digit p, digit q, '=', '='] = some [p * 4 + q / 16] := by
  simp [decode?, value?_digit, hp, hq]

theorem decode?_last_two (hp : p < 64) (hq : q < 64) (hr : r < 64) :
    decode? [digit p, digit q, digit r, '='] = some [p * 4 + q / 16, q % 16 * 16 + r / 4] := by
  rw [decode?]
  · simp [value?_digit, hp, hq, hr]
  · intro h
    exact digit_ne_padding hr h

theorem decode?_encode {bytes : List Nat} (h : ∀ b ∈ bytes, b < 256) :
    decode? (encode bytes) = some bytes := by
  fun_induction encode bytes with
  | case1 => rfl
  | case2 a =>
    have ha := h a (by simp)
    rw [decode?_last_one (by omega) (by omega)]
    simp only [Option.some.injEq, List.cons.injEq, and_true]
    omega
  | case3 a b =>
    have ha := h a (by simp)
    have hb := h b (by simp)
    rw [decode?_last_two (by omega) (by omega) (by omega)]
    simp only [Option.some.injEq, List.cons.injEq, and_true]
    omega
  | case4 a b c rest ih =>
    have ha := h a (by simp)
    have hb := h b (by simp)
    have hc := h c (by simp)
    rw [decode?_group (by omega) (by omega) (by omega) (by omega),
      ih fun d hd => h d (by simp [hd])]
    simp only [Option.map_some, Option.some.injEq, List.cons.injEq, and_true]
    omega

end OneTimeCode.Base64
