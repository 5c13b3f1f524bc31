import OneTimeCode.Encoding.Percent
import OneTimeCode.Proofs.Encoding.Utf8
import OneTimeCode.Proofs.Results

/-!
# Percent-encoding and back

The encoded segment of a text decodes to that text. It consists of escapes and unreserved
characters only, so it holds none of the marks that structure a URL or a form.
-/
namespace OneTimeCode.Percent
open Text

def IsSafe (c : CodePoint) : Prop := c = '%' ∨ c.satisfies isUnreserved = true

theorem isSafe_upperHexDigit {n : Nat} (h : n < 16) : IsSafe (upperHexDigit n) :=
  .inr ((by decide : ∀ k : Fin 16, (upperHexDigit k).satisfies isUnreserved = true) ⟨n, h⟩)

theorem isSafe_of_mem_encodeByte {b : Nat} (hb : b < 256) {c : CodePoint}
    (h : c ∈ encodeByte b) : IsSafe c := by
  unfold encodeByte at h
  split at h
  · next hu =>
    rw [List.mem_singleton] at h
    subst h
    exact .inr (by simpa [CodePoint.satisfies] using (Bool.and_eq_true_iff.1 hu).2)
  · simp only [escape, List.mem_cons, List.not_mem_nil, or_false] at h
    rcases h with rfl | rfl | rfl
    · exact .inl rfl
    · exact isSafe_upperHexDigit (by omega)
    · exact isSafe_upperHexDigit (by omega)

theorem encode_eq_ok_iff {t segment : Text} : encode t = .ok segment ↔
    ∃ bytes, Utf8.encode t = .ok bytes ∧ segment = bytes.flatMap encodeByte :=
  map_eq_ok_iff

theorem isSafe_of_mem_encode {t segment : Text} (h : encode t = .ok segment) {c : CodePoint}
    (hc : c ∈ segment) : IsSafe c := by
  obtain ⟨bytes, hu, rfl⟩ := encode_eq_ok_iff.1 h
  obtain ⟨b, hb, hcb⟩ := List.mem_flatMap.1 hc
  exact isSafe_of_mem_encodeByte (Utf8.encode_lt hu b hb) hcb

theorem not_mem_encode {t segment : Text} (h : encode t = .ok segment) {mark : CodePoint}
    (hm : ¬ IsSafe mark) : mark ∉ segment :=
  fun hc => hm (isSafe_of_mem_encode h hc)

theorem not_isSafe_slash : ¬ IsSafe '/' := by
  unfold IsSafe
  decide

/-- Unreserved characters and escapes one after the other. -/
inductive IsSegment : Text → Prop
  | nil : IsSegment []
  | unreserved {c : Char} {rest : Text} : isUnreserved c = true → IsSegment rest →
    IsSegment (.char c :: rest)
  | escape (high low : Fin 16) {rest : Text} : IsSegment rest →
    IsSegment ('%' :: upperHexDigit high :: upperHexDigit low :: rest)

theorem IsSegment.encodeByte_append {b : Nat} (hb : b < 256) {rest : Text} (h : IsSegment rest) :
    IsSegment (encodeByte b ++ rest) := by
  unfold encodeByte
  split
  · next hu => exact .unreserved (Bool.and_eq_true_iff.1 hu).2 h
  · exact .escape ⟨b / 16, by omega⟩ ⟨b % 16, by omega⟩ h

theorem isSegment_flatMap_encodeByte {bytes : List Nat} (h : ∀ b ∈ bytes, b < 256) :
    IsSegment (bytes.flatMap encodeByte) := by
  induction bytes with
  | nil => exact .nil
  | cons b rest ih =>
    rw [List.flatMap_cons]
    exact (ih fun d hd => h d (by simp [hd])).encodeByte_append (h b (by simp))

theorem isSegment_encode {t segment : Text} (h : encode t = .ok segment) : IsSegment segment := by
  obtain ⟨bytes, hu, rfl⟩ := encode_eq_ok_iff.1 h
  exact isSegment_flatMap_encodeByte (Utf8.encode_lt hu)

theorem bytes?_escape {b : Nat} (hb : b < 256) (rest : Text) :
    bytes? (escape b ++ rest) = (bytes? rest).map (b :: ·) := by
  have hh := hexValue?_upperHexDigit (show b / 16 < 16 by omega)
  have hl := hexValue?_upperHexDigit (show b % 16 < 16 by omega)
  have hsum : 16 * (b / 16) + b % 16 = b := Nat.div_add_mod b 16
  simp only [escape, List.cons_append, List.nil_append, bytes?, hh, hl]
  cases bytes? rest <;> simp [hsum]

theorem bytes?_ascii {c : CodePoint} (hp : c ≠ '%') (hc : c.toNat < 0x80) (rest : Text) :
    bytes? (c :: rest) = (bytes? rest).map (c.toNat :: ·) := by
  rw [bytes?.eq_3 c rest (fun a b _ he _ => hp he), if_neg (by simp [hp]; omega)]

theorem bytes?_encodeByte {b : Nat} (hb : b < 256) (rest : Text) :
    bytes? (encodeByte b ++ rest) = (bytes? rest).map (b :: ·) := by
  unfold encodeByte
  split
  · next hu =>
    rw [Bool.and_eq_true_iff, decide_eq_true_eq] at hu
    have hn : (CodePoint.char (Char.ofNat b)).toNat = b :=
      (by decide : ∀ k : Fin 0x80, (CodePoint.char (Char.ofNat k)).toNat = k.val) ⟨b, hu.1⟩
    have hp : (CodePoint.char (Char.ofNat b)) ≠ '%' := by
      intro he
      rw [CodePoint.char.injEq] at he
      rw [he] at hu
      exact absurd hu.2 (by decide)
    rw [List.singleton_append, bytes?_ascii hp (by omega), hn]
  · exact bytes?_escape hb rest

theorem bytes?_flatMap_encodeByte {bytes : List Nat} (h : ∀ b ∈ bytes, b < 256) :
    bytes? (bytes.flatMap encodeByte) = some bytes := by
  induction bytes with
  | nil => rfl
  | cons b rest ih =>
    have hr := ih fun d hd => h d (by simp [hd])
    rw [List.flatMap_cons, bytes?_encodeByte (h b (by simp)), hr]
    rfl

theorem encode_of_isEncodable {t : Text} (h : Utf8.IsEncodable t) :
    ∃ segment, encode t = .ok segment :=
  ⟨_, by rw [encode, Utf8.encode_of_isEncodable h]; rfl⟩

theorem encode_of_not_isEncodable {t : Text} (h : ¬ Utf8.IsEncodable t) :
    ∃ fault, encode t = .error fault := by
  obtain ⟨fault, hf⟩ := Utf8.encode_of_not_isEncodable h
  exact ⟨fault, by rw [encode, hf]; rfl⟩

theorem decode?_encode {t segment : Text} (h : encode t = .ok segment) :
    decode? segment = some t := by
  obtain ⟨bytes, hu, rfl⟩ := encode_eq_ok_iff.1 h
  rw [decode?, bytes?_flatMap_encodeByte (Utf8.encode_lt hu), Option.bind_some,
    Utf8.decode?_encode hu]

example : encode "50%/é" = .ok "50%25%2F%C3%A9" := rfl

theorem encode_injective {t other segment : Text} (h : encode t = .ok segment)
    (ho : encode other = .ok segment) : t = other :=
  Option.some.inj ((decode?_encode h).symm.trans (decode?_encode ho))

end OneTimeCode.Percent
