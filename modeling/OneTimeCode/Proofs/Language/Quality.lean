import OneTimeCode.Language.Header
import OneTimeCode.Proofs.Number.Rounding

/-!
# The weight of an entry

A weight is written as a number from zero to one with at most three decimals, which stands for a
whole count of thousandths. The numbers that weights are kept as are in the order of their counts.
-/
namespace OneTimeCode
open Text

def CodePoint.digit (c : CodePoint) : Nat := c.toNat - '0'.toNat

/-- The weight of a count of thousandths is the number nearest to the exact ratio. -/
def Weight.ofThousandths (n : Nat) (h : n ≤ 1000) : Weight where
  value := Binary64.ofRatio false n 1000
  inUnitInterval := Binary64.inUnitInterval_ofRatio (by decide) h

theorem Weight.value_ofThousandths {n : Nat} (h : n ≤ 1000) :
    (Weight.ofThousandths n h).value = Binary64.ofRatio false n 1000 := by
  simp only [Weight.ofThousandths]

theorem Weight.eq_of_value {a b : Weight} (h : a.value = b.value) : a = b := by
  cases a
  cases b
  cases h
  rfl

namespace Header

/-- The value of digits of which the first counts `place`. -/
def worth (place : Nat) : Text → Nat
  | [] => 0
  | c :: rest => c.digit * place + worth (place / 10) rest

/-- A number from zero to one with up to three decimals, and how many thousandths it is. -/
inductive IsNumber : Text → Nat → Prop
  | zero : IsNumber ['0'] 0
  | one : IsNumber ['1'] 1000
  | fraction {decimals : Text} (short : decimals.length ≤ 3)
      (digits : ∀ c ∈ decimals, c.satisfies Char.isDigit = true) :
      IsNumber ('0' :: '.' :: decimals) (worth 100 decimals)
  | full {count : Nat} (short : count ≤ 3) :
      IsNumber ('1' :: '.' :: List.replicate count '0') 1000

/-- What a parameter says: nothing, which is full weight, or `q=` in either case and a number. -/
inductive Bears : Text → Nat → Prop
  | nothing : Bears [] 1000
  | number {letter : Char} {number : Text} {n : Nat} (quality : letter = 'q' ∨ letter = 'Q')
      (spelled : IsNumber number n) : Bears (letter :: '=' :: number) n

/-! ## Reading a weight -/

theorem digit_bounds {c : CodePoint} (h : c.satisfies Char.isDigit = true) :
    '0'.toNat ≤ c.toNat ∧ c.toNat ≤ '9'.toNat := by
  cases c with
  | half offset => cases h
  | char c =>
    rw [CodePoint.satisfies, Char.isDigit, Bool.and_eq_true, decide_eq_true_eq,
      decide_eq_true_eq] at h
    exact h

theorem digit_le {c : CodePoint} (h : c.satisfies Char.isDigit = true) : c.digit ≤ 9 :=
  Nat.sub_le_sub_right (digit_bounds h).2 _

theorem eq_zero_of_digit {c : CodePoint} (h : c.satisfies Char.isDigit = true)
    (hz : c.digit = 0) : c = '0' :=
  CodePoint.toNat_injective (Nat.le_antisymm (Nat.sub_eq_zero_iff_le.1 hz) (digit_bounds h).1)

/-- Of at most three decimals the first counts hundreds of thousandths. -/
theorem ofDigits_padRight {t : Text} (h : t.length ≤ 3) :
    Integer.ofDigits ((padRight '0' 3 t).map (·.toNat - '0'.toNat)) = worth 100 t := by
  match t, h with
  | [], _ => rfl
  | [a], _ =>
    show 10 * (10 * (10 * 0 + a.digit) + 0) + 0 = a.digit * 100 + 0
    omega
  | [a, b], _ =>
    show 10 * (10 * (10 * 0 + a.digit) + b.digit) + 0 = a.digit * 100 + (b.digit * 10 + 0)
    omega
  | [a, b, c], _ =>
    show 10 * (10 * (10 * 0 + a.digit) + b.digit) + c.digit =
      a.digit * 100 + (b.digit * 10 + (c.digit * 1 + 0))
    omega

theorem decimals?_eq_some_iff {t : Text} {n : Nat} : decimals? t = some n ↔
    t.length ≤ 3 ∧ (∀ c ∈ t, c.satisfies Char.isDigit = true) ∧ worth 100 t = n := by
  rw [decimals?, Option.ite_none_right_eq_some, List.all_eq_true, Option.some.injEq, and_assoc]
  refine and_congr_right fun hl => ?_
  rw [ofDigits_padRight hl]

theorem worth_le {t : Text} (hd : ∀ c ∈ t, c.satisfies Char.isDigit = true) (place : Nat) :
    worth place t ≤ 10 * place := by
  induction t generalizing place with
  | nil => exact Nat.zero_le _
  | cons c rest ih =>
    have hrest := ih (fun d hm => hd d (List.mem_cons_of_mem c hm)) (place / 10)
    have hplace : 10 * (place / 10) ≤ place := Nat.mul_div_le place 10
    have hfirst : c.digit * place ≤ 9 * place :=
      Nat.mul_le_mul_right place (digit_le (hd c List.mem_cons_self))
    rw [worth]
    omega

theorem worth_zeros (place count : Nat) : worth place (List.replicate count '0') = 0 := by
  induction count generalizing place with
  | zero => rfl
  | succ count ih =>
    rw [List.replicate_succ, worth, ih]
    exact Nat.zero_mul place

theorem eq_zeros_of_worth {t : Text} (hl : t.length ≤ 3)
    (hd : ∀ c ∈ t, c.satisfies Char.isDigit = true) (hz : worth 100 t = 0) :
    t = List.replicate t.length (CodePoint.char '0') := by
  have hdigits : ∀ c ∈ t, c.digit = 0 := by
    match t, hl with
    | [], _ => simp
    | [a], _ =>
      change a.digit * 100 + 0 = 0 at hz
      simp only [List.mem_singleton, forall_eq]
      omega
    | [a, b], _ =>
      change a.digit * 100 + (b.digit * 10 + 0) = 0 at hz
      simp only [List.mem_cons, List.not_mem_nil, or_false, forall_eq_or_imp, forall_eq]
      omega
    | [a, b, c], _ =>
      change a.digit * 100 + (b.digit * 10 + (c.digit * 1 + 0)) = 0 at hz
      simp only [List.mem_cons, List.not_mem_nil, or_false, forall_eq_or_imp, forall_eq]
      omega
  rw [List.eq_replicate_iff]
  exact ⟨rfl, fun c hm => eq_zero_of_digit (hd c hm) (hdigits c hm)⟩

theorem isDigit_of_mem_zeros {c : CodePoint} {count : Nat}
    (h : c ∈ List.replicate count (CodePoint.char '0')) : c.satisfies Char.isDigit = true := by
  rw [List.eq_of_mem_replicate h]
  rfl

theorem thousandths?_eq_some_iff {t : Text} {n : Nat} :
    thousandths? t = some n ↔ IsNumber t n := by
  constructor
  · intro h
    cases t with
    | nil => cases h
    | cons first rest =>
      simp only [thousandths?, List.drop_succ_cons, List.drop_zero, List.head?_cons,
        Option.bind_eq_bind] at h
      split at h
      · rw [Option.bind_some] at h
        split at h
        · next hfirst =>
          cases hfirst
          cases h
          exact .zero
        · next hfirst =>
          cases hfirst
          cases h
          exact .one
        · cases h
      · obtain ⟨fraction, hdecimals, hn⟩ := Option.bind_eq_some_iff.1 h
        obtain ⟨short, digits, rfl⟩ := decimals?_eq_some_iff.1 hdecimals
        split at hn
        · next hfirst =>
          cases hfirst
          cases hn
          exact .fraction short digits
        · next hfirst =>
          cases hfirst
          obtain ⟨hz, hfull⟩ := Option.ite_none_right_eq_some.1 hn
          cases hfull
          rw [eq_zeros_of_worth short digits hz]
          exact .full short
        · cases hn
      · cases h
  · intro h
    cases h with
    | zero => rfl
    | one => rfl
    | fraction short digits =>
      have hd := decimals?_eq_some_iff.2 ⟨short, digits, rfl⟩
      simp [thousandths?, hd]
    | full short =>
      have hd := decimals?_eq_some_iff.2 ⟨(List.length_replicate ..).trans_le short,
        fun c => isDigit_of_mem_zeros, worth_zeros 100 _⟩
      simp [thousandths?, hd]

theorem IsNumber.le {t : Text} {n : Nat} (h : IsNumber t n) : n ≤ 1000 := by
  cases h with
  | zero => exact Nat.zero_le _
  | one => exact Nat.le_refl _
  | fraction short digits => exact worth_le digits 100
  | full short => exact Nat.le_refl _

theorem bears_iff {t : Text} {n : Nat} :
    Bears t n ↔ (t = [] ∧ n = 1000) ∨ quality? t = some n := by
  constructor
  · intro h
    cases h with
    | nothing => exact .inl ⟨rfl, rfl⟩
    | number quality spelled =>
      right
      rcases quality with rfl | rfl <;> exact thousandths?_eq_some_iff.2 spelled
  · rintro (⟨rfl, rfl⟩ | h)
    · exact .nothing
    · unfold quality? at h
      split at h
      · exact .number (.inl rfl) (thousandths?_eq_some_iff.1 h)
      · exact .number (.inr rfl) (thousandths?_eq_some_iff.1 h)
      · cases h

/-! ## The number of a weight -/

theorem weightOfThousandths_eq {n : Nat} (h : n ≤ 1000) :
    weightOfThousandths n = .ofThousandths n h := by
  have hin := Binary64.inUnitInterval_ofRatio (by decide : 0 < 1000) h
  have hread : Weight.of? (Binary64.ofRatio false n 1000) = some (.ofThousandths n h) := dif_pos hin
  rw [weightOfThousandths, hread, Option.getD_some]

theorem full_eq : Weight.full = .ofThousandths 1000 (Nat.le_refl _) := by
  apply Weight.eq_of_value
  rw [Weight.value_ofThousandths]
  decide +kernel

/-- Weights are in the order of their counts of thousandths. -/
theorem le_ofThousandths {less more : Nat} (hl : less ≤ 1000) (hm : more ≤ 1000) :
    (Weight.ofThousandths less hl).le (.ofThousandths more hm) = decide (less ≤ more) := by
  have hfine : 1000 * Binary64.spacing Binary64.stepsPerUnit < Binary64.stepsPerUnit := by
    decide +kernel
  rw [Weight.le, decide_eq_decide, Weight.value_ofThousandths, Weight.value_ofThousandths]
  constructor
  · intro hle
    by_contra hgt
    have hlt := Binary64.magnitude_ofRatio_lt (by decide) hfine (Nat.not_le.1 hgt) hl
    exact absurd hle (Nat.not_le.2 hlt)
  · intro hle
    rcases hle.eq_or_lt with rfl | hlt
    · exact Nat.le_refl _
    · exact (Binary64.magnitude_ofRatio_lt (by decide) hfine hlt hm).le

theorem isZero_ofThousandths {n : Nat} (h : n ≤ 1000) :
    (Weight.ofThousandths n h).isZero = decide (n = 0) := by
  have hzero : Binary64.ofRatio false 0 1000 = .zero := by decide +kernel
  have hle := le_ofThousandths h (Nat.zero_le 1000)
  obtain ⟨steps, -, he, -⟩ := Binary64.exists_ofRatio_eq (by decide : 0 < 1000) h
  rw [Weight.le, Weight.value_ofThousandths, Weight.value_ofThousandths, hzero, he] at hle
  rw [Weight.isZero, Weight.value_ofThousandths, he]
  have hiff : steps = 0 ↔ n = 0 := by
    simpa [Binary64.magnitude, Binary64.zero] using hle
  rw [Binary64.isZero, Bool.beq_eq_decide_eq, decide_eq_decide]
  exact hiff

end Header
end OneTimeCode
