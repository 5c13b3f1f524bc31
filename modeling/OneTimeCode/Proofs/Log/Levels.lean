import OneTimeCode.Log.Setup
import OneTimeCode.Proofs.Named
import OneTimeCode.Proofs.Number.Integer
import OneTimeCode.Proofs.Text.Case
import OneTimeCode.Proofs.Text.Trimming

/-!
# Texts that name a level

A text names a level by a number in decimal digits of any script or by a word, each letter of it in
some case. Digits that are not all decimal, or are too many, cannot be read. Every other text leaves
the choice to the fallback.
-/
namespace OneTimeCode.Log
open Text Integer

/-- The cases of a letter: the capital, the small letter, and a letter outside ASCII that has the
capital for its upper case. -/
def casesOf (capital : CodePoint) : List CodePoint :=
  capital :: capital.map Char.toLower ::
    if capital = 'I' then [.ofNat 0x131] else if capital = 'S' then [.ofNat 0x17F] else []

def IsSpelling (word t : Text) : Prop :=
  List.Forall₂ (fun capital c => c ∈ casesOf capital) word t

instance (word t : Text) : Decidable (IsSpelling word t) :=
  inferInstanceAs (Decidable (List.Forall₂ _ word t))

def Figures (t : Text) (digits : List Nat) : Prop :=
  List.Forall₂ (fun c d => decimalDigit? c = some d) t digits

example : ∀ d < 10, decimalDigit? (Char.ofNat (0x30 + d)) = some d := by decide

/-- The text names the level, by its number or by a word for it. -/
inductive Names (t : Text) (level : Int) : Prop
  | number {digits : List Nat} (hne : t ≠ []) (h : Figures t digits)
    (hlevel : level = ofDigits digits)
  | word {name : Text} (hm : (name, level) ∈ levelNames) (h : IsSpelling name t)

/-- The text consists of digits, but no number can be read from it. -/
structure IsUnreadable (t : Text) : Prop where
  ne_nil : t ≠ []
  digits : ∀ c ∈ t, isDigit c = true
  fault : (∃ c ∈ t, isDecimalDigit c = false) ∨ digitLimit < t.length

/-! ## Digits -/

theorem not_isBlank_of_isDigit {c : CodePoint} (h : isDigit c = true) : isBlank c = false := by
  have hdecimal : ∀ z ∈ decimalZeros, ∀ r ∈ blankRanges, z + 10 ≤ r.1 ∨ r.2 < z := by decide
  have hshaped : ∀ s ∈ shapedDigitRanges, ∀ r ∈ blankRanges, s.2 < r.1 ∨ r.2 < s.1 := by decide
  simp only [isBlank, inRanges, List.any_eq_false, Bool.and_eq_true, decide_eq_true_eq]
  rintro r hr ⟨hlow, hhigh⟩
  rw [isDigit, Bool.or_eq_true, isDecimalDigit, decimalDigit?, Option.isSome_map,
    List.find?_isSome, inRanges, List.any_eq_true] at h
  simp only [Bool.and_eq_true, decide_eq_true_eq] at h
  rcases h with ⟨z, hz, hin⟩ | ⟨s, hs, hin⟩
  · have := hdecimal z hz r hr
    omega
  · have := hshaped s hs r hr
    omega

theorem isDigit_of_isDecimalDigit {c : CodePoint} (h : isDecimalDigit c = true) :
    isDigit c = true := by
  rw [isDigit, h, Bool.true_or]

section
variable {t : Text} {digits : List Nat}

theorem trimBy_isNumberBlank_of_digits (h : ∀ c ∈ t, isDigit c = true) :
    trimBy isNumberBlank t = t := by
  have hkept : ∀ c ∈ t, isNumberBlank c = false := by
    intro c hc
    rw [isNumberBlank, not_isBlank_of_isDigit (h c hc), Bool.false_and]
  have hfront : t.dropWhile isNumberBlank = t := by
    cases t with
    | nil => rfl
    | cons c rest => exact List.dropWhile_cons_of_neg (by simp [hkept c List.mem_cons_self])
  rw [trimBy, hfront, dropTrailing_eq_self_iff]
  rintro ⟨front, c, rfl, hc⟩
  rw [hkept c (by simp)] at hc
  cases hc

/-- Where all characters are digits, none stands between the digits. -/
theorem groups_iff_of_digits (h : ∀ c ∈ t, isDigit c = true) :
    Groups t digits ↔ t ≠ [] ∧ Figures t digits := by
  constructor
  · intro hgroups
    induction hgroups with
    | last hd => exact ⟨List.cons_ne_nil _ _, .cons hd .nil⟩
    | next hd _ ih =>
      exact ⟨List.cons_ne_nil _ _, .cons hd (ih (List.forall_mem_cons.1 h).2).2⟩
    | apart =>
      have hmark : isDigit (.char '_') = true := h _ (List.mem_cons_of_mem _ List.mem_cons_self)
      exact absurd hmark (by decide)
  · rintro ⟨hne, hall⟩
    induction hall with
    | nil => exact absurd rfl hne
    | cons hd hrest ih =>
      cases hrest with
      | nil => exact .last hd
      | cons => exact .next hd (ih (List.forall_mem_cons.1 h).2 (List.cons_ne_nil _ _))

theorem exists_figures_iff : (∃ digits, Figures t digits) ↔ ∀ c ∈ t, isDecimalDigit c = true := by
  induction t with
  | nil => simp [Figures]
  | cons c rest ih =>
    rw [List.forall_mem_cons, ← ih, isDecimalDigit, Option.isSome_iff_exists]
    constructor
    · rintro ⟨_, _ | ⟨hd, hrest⟩⟩
      exact ⟨⟨_, hd⟩, _, hrest⟩
    · rintro ⟨⟨d, hd⟩, digits, hrest⟩
      exact ⟨d :: digits, .cons hd hrest⟩

/-- Among digits only, a numeral is a number of decimal digits within the limit. -/
theorem spells_iff_of_digits {n : Int} (h : ∀ c ∈ t, isDigit c = true) :
    Spells t n ↔ t.length ≤ digitLimit ∧
      ∃ digits, t ≠ [] ∧ Figures t digits ∧ n = ofDigits digits := by
  constructor
  · rintro ⟨sign, body, digits, ht, hsign, hgroups, hlimit, rfl⟩
    rw [trimBy_isNumberBlank_of_digits h] at ht
    subst ht
    simp only [signs, List.mem_cons, List.not_mem_nil, or_false] at hsign
    rcases hsign with rfl | rfl | rfl
    · obtain ⟨hne, hall⟩ := (groups_iff_of_digits h).1 hgroups
      exact ⟨hall.length_eq ▸ hlimit, digits, hne, hall, rfl⟩
    · exact absurd (h '+' List.mem_cons_self) (by decide)
    · exact absurd (h '-' List.mem_cons_self) (by decide)
  · rintro ⟨hlimit, digits, hne, hall, rfl⟩
    exact ⟨"", t, digits, trimBy_isNumberBlank_of_digits h, by decide,
      (groups_iff_of_digits h).2 ⟨hne, hall⟩, hall.length_eq ▸ hlimit, rfl⟩

/-- Digits are unreadable exactly if they spell no number. -/
theorem isUnreadable_iff_of_digits (hne : t ≠ []) (h : ∀ c ∈ t, isDigit c = true) :
    IsUnreadable t ↔ ¬ ∃ n, Spells t n := by
  have hspells : (∃ n, Spells t n) ↔
      t.length ≤ digitLimit ∧ ∀ c ∈ t, isDecimalDigit c = true := by
    rw [← exists_figures_iff]
    constructor
    · rintro ⟨n, hn⟩
      obtain ⟨hlimit, digits, -, hall, -⟩ := (spells_iff_of_digits h).1 hn
      exact ⟨hlimit, digits, hall⟩
    · rintro ⟨hlimit, digits, hall⟩
      exact ⟨_, (spells_iff_of_digits h).2 ⟨hlimit, digits, hne, hall, rfl⟩⟩
  rw [hspells, not_and_or, Nat.not_le, or_comm]
  simp only [not_forall, Bool.not_eq_true, exists_prop]
  exact ⟨fun hu => hu.fault, fun hf => ⟨hne, h, hf⟩⟩

end

/-! ## Words -/

theorem mem_casesOf_upperLetter (c : CodePoint) : c ∈ casesOf (upperLetter c) := by
  by_cases hc : c.toNat < 0x80
  · exact CodePoint.forall_ascii (p := fun c => c ∈ casesOf (upperLetter c)) (by decide) hc
  · unfold upperLetter
    split
    · next hi =>
      obtain rfl : c = .ofNat 0x131 := CodePoint.toNat_injective hi
      decide
    · split
      · next hs =>
        obtain rfl : c = .ofNat 0x17F := CodePoint.toNat_injective hs
        decide
      · rw [CodePoint.map_toUpper_of_le (Nat.not_lt.1 hc)]
        exact List.mem_cons_self

def letters : List CodePoint := levelNames.flatMap (·.1)

theorem mem_letters {name : Text} {level : Int} (hm : (name, level) ∈ levelNames)
    {capital : CodePoint} (h : capital ∈ name) : capital ∈ letters :=
  List.mem_flatMap.2 ⟨_, hm, h⟩

theorem upperLetter_of_mem_casesOf : ∀ capital ∈ letters, ∀ c ∈ casesOf capital,
    upperLetter c = capital ∧ isDigit c = false := by decide

theorem map_upperLetter_eq_iff {name t : Text} (h : ∀ capital ∈ name, capital ∈ letters) :
    t.map upperLetter = name ↔ IsSpelling name t := by
  constructor
  · rintro rfl
    rw [IsSpelling, List.forall₂_map_left_iff, List.forall₂_same]
    exact fun c _ => mem_casesOf_upperLetter c
  · intro hall
    induction hall with
    | nil => rfl
    | cons hcase _ ih =>
      rw [List.forall_mem_cons] at h
      rw [List.map_cons, (upperLetter_of_mem_casesOf _ h.1 _ hcase).1, ih h.2]

theorem levelNamed?_eq_some_iff {t : Text} {level : Int} : levelNamed? t = some level ↔
    ∃ name, (name, level) ∈ levelNames ∧ IsSpelling name t := by
  have hnodup : (levelNames.map (·.1)).Nodup := by decide
  rw [levelNamed?, Named.get?_eq_some_iff hnodup]
  constructor
  · intro hm
    exact ⟨_, hm, (map_upperLetter_eq_iff fun _ => mem_letters hm).1 rfl⟩
  · rintro ⟨name, hm, hspelling⟩
    rwa [(map_upperLetter_eq_iff fun _ => mem_letters hm).2 hspelling]

/-! ## Reading a level -/

section
variable {t : Text} {level : Int}

theorem Names.ne_nil (h : Names t level) : t ≠ [] := by
  cases h with
  | number hne => exact hne
  | word hm h =>
    rintro rfl
    rw [IsSpelling, List.forall₂_nil_right_iff] at h
    exact (by decide : ∀ entry ∈ levelNames, entry.1 ≠ []) _ hm h

/-- Digits do not spell a word. -/
theorem names_iff_of_digits (hd : ∀ c ∈ t, isDigit c = true) : Names t level ↔
    ∃ digits, t ≠ [] ∧ Figures t digits ∧ level = ofDigits digits := by
  constructor
  · intro h
    cases h with
    | number hne h hlevel => exact ⟨_, hne, h, hlevel⟩
    | word hm h =>
      cases h with
      | nil => exact absurd rfl (Names.word hm .nil).ne_nil
      | cons hcase =>
        have hletter := mem_letters hm List.mem_cons_self
        have hno := (upperLetter_of_mem_casesOf _ hletter _ hcase).2
        rw [hd _ List.mem_cons_self] at hno
        cases hno
  · rintro ⟨digits, hne, h, hlevel⟩
    exact .number hne h hlevel

/-- A text of other characters names a level by a word only. -/
theorem names_iff_of_not_digits (hd : ¬ ∀ c ∈ t, isDigit c = true) :
    Names t level ↔ levelNamed? t = some level := by
  rw [levelNamed?_eq_some_iff]
  constructor
  · intro h
    cases h with
    | number hne h hlevel =>
      have hdecimal := exists_figures_iff.1 ⟨_, h⟩
      exact absurd (fun c hc => isDigit_of_isDecimalDigit (hdecimal c hc)) hd
    | word hm h => exact ⟨_, hm, h⟩
  · rintro ⟨name, hm, h⟩
    exact .word hm h

/-- A text is read as the level that it names, and as the fallback if it names none, unless it is
unreadable. -/
theorem readLevel_eq_ok_iff {fallback : Int} : readLevel t fallback = .ok level ↔
    ¬ IsUnreadable (trim t) ∧
      (Names (trim t) level ∨ (¬ ∃ n, Names (trim t) n) ∧ level = fallback) := by
  rw [readLevel]
  generalize trim t = name
  by_cases hne : name = []
  · have hn (n : Int) : ¬ Names name n := fun h => h.ne_nil hne
    have hu : ¬ IsUnreadable name := fun h => h.ne_nil hne
    simp [hne ▸ hn, hne ▸ hu, hne, eq_comm]
  · have hempty : name.isEmpty = false := by simpa using hne
    by_cases hd : ∀ c ∈ name, isDigit c = true
    · have hall : name.all isDigit = true := by simpa using hd
      simp only [hempty, hall, if_true, Bool.false_eq_true, if_false, read_eq_ok_iff,
        isUnreadable_iff_of_digits hne hd, not_not, spells_iff_of_digits hd,
        ← names_iff_of_digits hd]
      grind
    · have hall : name.all isDigit = false := by simpa using hd
      have hu : ¬ IsUnreadable name := fun h => hd h.digits
      simp only [hempty, hall, Bool.false_eq_true, if_false, hu, not_false_eq_true, true_and,
        names_iff_of_not_digits hd]
      cases levelNamed? name <;> simp [eq_comm]

/-- A text that can be read names one level at most. -/
theorem Names.unique {other : Int} (hu : ¬ IsUnreadable (trim t)) (h : Names (trim t) level)
    (h' : Names (trim t) other) : level = other := by
  have hread := @readLevel_eq_ok_iff t level 0 |>.2 ⟨hu, .inl h⟩
  rw [readLevel_eq_ok_iff.2 ⟨hu, .inl h'⟩] at hread
  exact (Except.ok.inj hread).symm

theorem exists_readLevel_eq_error_iff {fallback : Int} :
    (∃ error, readLevel t fallback = .error error) ↔ IsUnreadable (trim t) := by
  rw [exists_eq_error_iff, not_iff_comm]
  simp only [readLevel_eq_ok_iff, exists_and_left]
  constructor
  · intro hu
    by_cases hn : ∃ n, Names (trim t) n
    · obtain ⟨n, hn⟩ := hn
      exact ⟨hu, n, .inl hn⟩
    · exact ⟨hu, fallback, .inr ⟨hn, rfl⟩⟩
  · exact fun h => h.1

end

end OneTimeCode.Log
