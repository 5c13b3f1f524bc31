import OneTimeCode.Encoding.Utf8

/-!
# UTF-8 and back

Every text of characters can be encoded, and decoding the bytes gives that text again. A text that
holds a half cannot be encoded.
-/
namespace OneTimeCode.Utf8

def IsEncodable (t : Text) : Prop := ∀ c ∈ t, c.isHalf = false

instance (t : Text) : Decidable (IsEncodable t) :=
  inferInstanceAs (Decidable (∀ c ∈ t, c.isHalf = false))

theorem encode_of_isEncodable {t : Text} (h : IsEncodable t) :
    encode t = .ok (t.flatMap encodePoint) := by
  rw [encode, obstacle?_eq_none_iff.2 h]

theorem encode_eq_ok_iff {t : Text} {bytes : List Nat} :
    encode t = .ok bytes ↔ IsEncodable t ∧ bytes = t.flatMap encodePoint := by
  constructor
  · intro h
    cases ho : obstacle? t with
    | some fault =>
      rw [encode, ho] at h
      cases h
    | none =>
      have hs := obstacle?_eq_none_iff.1 ho
      rw [encode_of_isEncodable hs] at h
      cases h
      exact ⟨hs, rfl⟩
  · rintro ⟨hs, rfl⟩
    exact encode_of_isEncodable hs

theorem encode_of_not_isEncodable {t : Text} (h : ¬ IsEncodable t) :
    ∃ fault, encode t = .error fault := by
  cases ho : obstacle? t with
  | none => exact absurd (obstacle?_eq_none_iff.1 ho) h
  | some fault => exact ⟨fault, by rw [encode, ho]⟩

theorem continuation_mem (n : Nat) : 0x80 ≤ continuation n ∧ continuation n < 0xC0 := by
  unfold continuation
  omega

theorem continuation_sub (n : Nat) : continuation n - 0x80 = n % 64 := by
  unfold continuation
  omega

/-- A continuation byte in the middle of a character adds six bits to its value. -/
theorem decodeFrom_continuation (owed value least n : Nat) (rest : List Nat) :
    decodeFrom (owed + 2) value least (continuation n :: rest) =
      decodeFrom (owed + 1) (value * 64 + n % 64) least rest := by
  rw [decodeFrom, if_neg (by omega), if_pos (by simpa using continuation_mem n)]
  simp [continuation_sub]

theorem decodeFrom_last (c : Char) {value least n : Nat} (hv : value * 64 + n % 64 = c.toNat)
    (hl : least ≤ c.toNat) (rest : List Nat) :
    decodeFrom 1 value least (continuation n :: rest) = (decodeFrom 0 0 0 rest).map (↑c :: ·) := by
  have hc : c.toNat.isValidChar := c.valid
  rw [decodeFrom, if_neg (by omega), if_pos (by simpa using continuation_mem n)]
  simp [continuation_sub, hv, hl, hc, Char.ofNat_toNat]

theorem decodeFrom_char (c : Char) (rest : List Nat) :
    decodeFrom 0 0 0 (encodePoint c ++ rest) = (decodeFrom 0 0 0 rest).map (↑c :: ·) := by
  have hlt : c.toNat < 0x110000 := toNat_lt c
  unfold encodePoint
  dsimp only
  rw [CodePoint.toNat_char]
  split
  · next h =>
    rw [List.singleton_append, decodeFrom, if_pos rfl, if_pos h, Char.ofNat_toNat]
  split
  · simp only [List.cons_append, List.nil_append]
    rw [decodeFrom, if_pos rfl, if_neg (by omega), if_neg (by omega), if_pos (by omega),
      decodeFrom_last c (by omega) (by omega)]
  split
  · simp only [List.cons_append, List.nil_append]
    rw [decodeFrom, if_pos rfl, if_neg (by omega), if_neg (by omega), if_neg (by omega),
      if_pos (by omega), decodeFrom_continuation, decodeFrom_last c (by omega) (by omega)]
  · simp only [List.cons_append, List.nil_append]
    rw [decodeFrom, if_pos rfl, if_neg (by omega), if_neg (by omega), if_neg (by omega),
      if_neg (by omega), if_pos (by omega), decodeFrom_continuation, decodeFrom_continuation,
      decodeFrom_last c (by omega) (by omega)]

theorem decode?_flatMap_encodePoint {t : Text} (h : IsEncodable t) :
    decode? (t.flatMap encodePoint) = some t := by
  induction t with
  | nil => rfl
  | cons c rest ih =>
    cases c with
    | half offset => exact absurd (h (.half offset) (by simp)) (by simp [CodePoint.isHalf])
    | char c =>
      have hr : decode? (rest.flatMap encodePoint) = some rest := ih fun d hd => h d (by simp [hd])
      unfold decode? at hr ⊢
      rw [List.flatMap_cons, decodeFrom_char, hr]
      rfl

theorem decode?_encode {t : Text} {bytes : List Nat} (h : encode t = .ok bytes) :
    decode? bytes = some t := by
  obtain ⟨hs, rfl⟩ := encode_eq_ok_iff.1 h
  exact decode?_flatMap_encodePoint hs

end OneTimeCode.Utf8
