import OneTimeCode.Proofs.Language.Quality
import OneTimeCode.Proofs.Language.Reading
import OneTimeCode.Proofs.Text.Case
import OneTimeCode.Proofs.Text.Trimming

/-!
# The entries of a header

An entry spells a tag, in any case and with blanks around it, and behind a semicolon a parameter
with its weight. It is read as the range and the weight that it spells.
-/
namespace OneTimeCode
open Text

/-- A language range with its weight as a whole count of thousandths. -/
structure Preference where
  subtags : List Text
  wellFormed : areSubtags subtags = true
  thousandths : Nat
  inUnitInterval : thousandths ≤ 1000

namespace Preference

def tag (p : Preference) : Text := join "-" p.subtags

def range (p : Preference) : LanguageRange where
  subtags := p.subtags
  weight := .ofThousandths p.thousandths p.inUnitInterval
  wellFormed := p.wellFormed

end Preference

namespace Header

/-- The text is `inner` with code points of the class `front` before it and blanks behind it. -/
def IsPadded (front : CodePoint → Bool) (inner t : Text) : Prop :=
  ∃ left right, t = left ++ inner ++ right ∧ (∀ c ∈ left, front c = true) ∧
    ∀ c ∈ right, isBlank c = true

def isSpace (c : CodePoint) : Bool := c = ' '

/-- An entry spells a range and its weight, with `gap` between a semicolon and the parameter. -/
inductive Spells (gap : CodePoint → Bool) : Text → Preference → Prop
  | bare {front tag : Text} {p : Preference} (padded : IsPadded isBlank tag front)
      (letters : tag.map (CodePoint.map Char.toLower) = p.tag) (full : p.thousandths = 1000) :
      Spells gap front p
  | weighted {front tag back word : Text} {p : Preference} (padded : IsPadded isBlank tag front)
      (letters : tag.map (CodePoint.map Char.toLower) = p.tag) (apart : IsPadded gap word back)
      (bears : Bears word p.thousandths) : Spells gap (front ++ .char ';' :: back) p

/-! ## The characters of a tag -/

def isTagMark (c : CodePoint) : Bool :=
  c.satisfies fun c => c.isAlphanum || c = '*' || c = '-'

theorem isTagMark_of_isSubtag {p : Char → Bool} (hp : ∀ c, p c = true → c.isAlphanum = true)
    {subtag : Text} (h : isSubtag p subtag = true) {c : CodePoint} (hc : c ∈ subtag) :
    isTagMark c = true := by
  rw [isSubtag, Bool.or_eq_true, decide_eq_true_eq] at h
  rcases h with rfl | h
  · rw [List.mem_singleton.1 hc]
    rfl
  · rw [Bool.and_eq_true, List.all_eq_true] at h
    have hall := h.2 c hc
    cases c with
    | half offset => cases hall
    | char c =>
      have : c.isAlphanum = true := hp c hall
      simp [isTagMark, CodePoint.satisfies, this]

theorem isAlphanum_of_isLower {c : Char} (h : c.isLower = true) : c.isAlphanum = true := by
  change (c.isUpper || c.isLower || c.isDigit) = true
  rw [h, Bool.or_true, Bool.true_or]

theorem isAlphanum_of_isDigit {c : Char} (h : c.isDigit = true) : c.isAlphanum = true := by
  simp [Char.isAlphanum, h]

theorem isTagMark_of_mem_tag {p : Preference} {c : CodePoint} (h : c ∈ p.tag) :
    isTagMark c = true := by
  rcases mem_join h with h | ⟨subtag, hs, hc⟩
  · rw [List.mem_singleton.1 h]
    rfl
  · have hw := p.wellFormed
    cases he : p.subtags with
    | nil =>
      rw [he] at hs
      cases hs
    | cons first rest =>
      rw [he, areSubtags, Bool.and_eq_true, List.all_eq_true] at hw
      rw [he] at hs
      rcases List.mem_cons.1 hs with rfl | hs
      · exact isTagMark_of_isSubtag (fun c => isAlphanum_of_isLower) hw.1 hc
      · refine isTagMark_of_isSubtag (fun c hl => ?_) (hw.2 subtag hs) hc
        rw [Bool.or_eq_true] at hl
        exact hl.elim isAlphanum_of_isLower isAlphanum_of_isDigit

theorem tag_ne_nil (p : Preference) : p.tag ≠ [] := by
  intro h
  have hp : pieces '-' p.tag = p.subtags := p.range.pieces_text
  have hw := p.wellFormed
  rw [← hp, h] at hw
  cases hw

theorem toNat_lt_of_isAlphanum {c : Char} (h : c.isAlphanum = true) : c.toNat < 0x80 := by
  change (decide (_ ∧ c.val ≤ 'Z'.val) || (decide _ && decide (c.val ≤ 'z'.val)) ||
    (decide _ && decide (c.val ≤ '9'.val))) = true at h
  simp only [Bool.or_eq_true, Bool.and_eq_true, decide_eq_true_eq] at h
  rcases h with (⟨-, h⟩ | ⟨-, h⟩) | ⟨-, h⟩ <;> exact Nat.lt_of_le_of_lt h (by decide)

theorem toNat_lt_of_isTagMark {c : CodePoint} (h : isTagMark c = true) : c.toNat < 0x80 := by
  cases c with
  | half offset => cases h
  | char c =>
    simp only [isTagMark, CodePoint.satisfies, Bool.or_eq_true, decide_eq_true_eq] at h
    rcases h with (h | rfl) | rfl
    · exact toNat_lt_of_isAlphanum h
    · decide
    · decide

theorem toNat_lt_of_mem_tag {p : Preference} {c : CodePoint} (h : c ∈ p.tag) : c.toNat < 0x80 :=
  toNat_lt_of_isTagMark (isTagMark_of_mem_tag h)

/-- No mark of a tag is blank or separates entries or parameters. -/
theorem apart_of_isTagMark {c : CodePoint} (h : isTagMark c = true) :
    isBlank c = false ∧ c ≠ ',' ∧ c ≠ ';' :=
  CodePoint.forall_ascii (p := fun c => isTagMark c = true → isBlank c = false ∧ c ≠ ',' ∧ c ≠ ';')
    (by decide +kernel) (toNat_lt_of_isTagMark h) h

theorem isTagMark_of_map {c : CodePoint} (h : isTagMark (c.map Char.toLower) = true) :
    isTagMark c = true := by
  by_cases hc : c.toNat < 0x80
  · exact CodePoint.forall_ascii
      (p := fun c => isTagMark (c.map Char.toLower) = true → isTagMark c = true)
      (by decide +kernel) hc h
  · rwa [CodePoint.map_toLower_of_le (Nat.not_lt.1 hc)] at h

theorem isTagMark_of_letters {tag : Text} {p : Preference}
    (h : tag.map (CodePoint.map Char.toLower) = p.tag) {c : CodePoint} (hc : c ∈ tag) :
    isTagMark c = true :=
  isTagMark_of_map (isTagMark_of_mem_tag (h ▸ List.mem_map_of_mem hc))

/-! ## The characters of a parameter -/

theorem apart_of_digit {c : CodePoint} (h : c.satisfies Char.isDigit = true) :
    isBlank c = false ∧ c ≠ ',' := by
  have hmark : isTagMark c = true := by
    cases c with
    | half offset => cases h
    | char c =>
      have hd : c.isAlphanum = true := isAlphanum_of_isDigit h
      simp [isTagMark, CodePoint.satisfies, hd]
  exact ⟨(apart_of_isTagMark hmark).1, (apart_of_isTagMark hmark).2.1⟩

theorem IsNumber.apart {t : Text} {n : Nat} (h : IsNumber t n) {c : CodePoint} (hc : c ∈ t) :
    isBlank c = false ∧ c ≠ ',' := by
  cases h with
  | zero =>
    rw [List.mem_singleton.1 hc]
    decide
  | one =>
    rw [List.mem_singleton.1 hc]
    decide
  | fraction short digits =>
    rw [List.mem_cons, List.mem_cons] at hc
    rcases hc with rfl | rfl | hc
    · decide
    · decide
    · exact apart_of_digit (digits c hc)
  | full short =>
    rw [List.mem_cons, List.mem_cons] at hc
    rcases hc with rfl | rfl | hc
    · decide
    · decide
    · exact apart_of_digit (isDigit_of_mem_zeros hc)

theorem Bears.apart {word : Text} {n : Nat} (h : Bears word n) {c : CodePoint} (hc : c ∈ word) :
    isBlank c = false ∧ c ≠ ',' := by
  cases h with
  | nothing => cases hc
  | number quality spelled =>
    rw [List.mem_cons, List.mem_cons] at hc
    rcases hc with rfl | rfl | hc
    · rcases quality with rfl | rfl <;> decide
    · decide
    · exact spelled.apart hc

theorem Bears.full {n : Nat} (h : Bears [] n) : n = 1000 := by
  cases h
  rfl

theorem Bears.le {word : Text} {n : Nat} (h : Bears word n) : n ≤ 1000 := by
  cases h with
  | nothing => exact Nat.le_refl _
  | number quality spelled => exact spelled.le

/-! ## Entries in two halves -/

section
variable {tag front : Text} {p : Preference} (padded : IsPadded isBlank tag front)
  (letters : tag.map (CodePoint.map Char.toLower) = p.tag)
include padded letters

theorem trim_of_letters : trim front = tag := by
  obtain ⟨left, right, rfl, hl, hr⟩ := padded
  exact trim_padded hl hr fun c hc => (apart_of_isTagMark (isTagMark_of_letters letters hc)).1

theorem not_mem_of_letters (mark : CodePoint) (hb : isBlank mark = false)
    (hm : isTagMark mark = false) : mark ∉ front := by
  obtain ⟨left, right, rfl, hl, hr⟩ := padded
  rw [List.mem_append, List.mem_append]
  rintro ((hc | hc) | hc)
  · rw [hl _ hc] at hb
    cases hb
  · rw [isTagMark_of_letters letters hc] at hm
    cases hm
  · rw [hr _ hc] at hb
    cases hb

end

theorem isPadded_trim (t : Text) : IsPadded isBlank (trim t) t := exists_eq_trim_padded t

theorem spells_iff {gap : CodePoint → Bool} {entry : Text} {p : Preference} :
    Spells gap entry p ↔
      (trim (before ';' entry)).map (CodePoint.map Char.toLower) = p.tag ∧
        ∃ word, IsPadded gap word (after ';' entry) ∧ Bears word p.thousandths := by
  constructor
  · intro h
    cases h with
    | bare padded letters full =>
      have hnot := not_mem_of_letters padded letters ';' rfl rfl
      rw [before_of_not_mem hnot, after_of_not_mem hnot, trim_of_letters padded letters, full]
      exact ⟨letters, [], ⟨[], [], rfl, by simp, by simp⟩, .nothing⟩
    | weighted padded letters apart bears =>
      have hnot := not_mem_of_letters padded letters ';' rfl rfl
      rw [before_append hnot, after_append hnot, trim_of_letters padded letters]
      exact ⟨letters, _, apart, bears⟩
  · rintro ⟨letters, word, apart, bears⟩
    by_cases hm : (CodePoint.char ';') ∈ entry
    · rw [← before_append_after _ entry hm]
      exact .weighted (isPadded_trim _) letters apart bears
    · rw [before_of_not_mem hm] at letters
      rw [after_of_not_mem hm] at apart
      obtain ⟨left, right, he, -⟩ := apart
      simp only [List.nil_eq, List.append_eq_nil_iff] at he
      rw [he.1.2] at bears
      exact .bare (isPadded_trim _) letters bears.full

/-! ## Reading an entry -/

/-- Spaces are not part of a parameter. -/
def parameter (entry : Text) : Text :=
  (after ';' entry).filter fun (c : CodePoint) => c != ' '

theorem readEntry_eq (entry : Text) : readEntry entry =
    if parameter entry = [] then LanguageRange.ofText (trim (before ';' entry)) .full
    else match quality? (parameter entry) with
      | some n => LanguageRange.ofText (trim (before ';' entry)) (weightOfThousandths n)
      | none => .error (.malformedWeight entry) := by
  simp only [readEntry, List.isEmpty_iff]
  rfl

theorem readEntry_of_bears {entry : Text} {n : Nat} (h : Bears (parameter entry) n) :
    readEntry entry = LanguageRange.ofText (trim (before ';' entry)) (.ofThousandths n h.le) := by
  rcases bears_iff.1 h with ⟨he, rfl⟩ | hq
  · rw [readEntry_eq, if_pos he, full_eq]
  · have hne : parameter entry ≠ [] := by
      intro he
      rw [he] at hq
      cases hq
    simp only [readEntry_eq, if_neg hne, hq, weightOfThousandths_eq h.le]

/-- A parameter that bears no weight is refused whatever the tag is. -/
theorem readEntry_of_not_bears {entry : Text} (h : ∀ n, ¬ Bears (parameter entry) n) :
    readEntry entry = .error (.malformedWeight entry) := by
  have hne : parameter entry ≠ [] := fun he => h 1000 (bears_iff.2 (.inl ⟨he, rfl⟩))
  have hq : quality? (parameter entry) = none := by
    rw [Option.eq_none_iff_forall_ne_some]
    exact fun n hq => h n (bears_iff.2 (.inr hq))
  simp only [readEntry_eq, if_neg hne, hq]

/-- An entry is read as a preference if its tag is lowered to that of the preference and its
parameter bears the weight. -/
theorem readEntry_eq_ok_iff {entry : Text} {range : LanguageRange} :
    readEntry entry = .ok range ↔ ∃ p : Preference, p.range = range ∧
      lower (trim (before ';' entry)) = p.tag ∧ Bears (parameter entry) p.thousandths := by
  constructor
  · intro h
    by_cases hbears : ∃ n, Bears (parameter entry) n
    · obtain ⟨n, hn⟩ := hbears
      rw [readEntry_of_bears hn, LanguageRange.ofText_eq_ok_iff, trim_trim] at h
      obtain ⟨subtags, weight, wellFormed⟩ := range
      obtain ⟨htext, rfl⟩ := h
      exact ⟨⟨subtags, wellFormed, n, hn.le⟩, rfl, htext.symm, hn⟩
    · rw [readEntry_of_not_bears (not_exists.1 hbears)] at h
      cases h
  · rintro ⟨p, rfl, htag, hn⟩
    rw [readEntry_of_bears hn, LanguageRange.ofText_eq_ok_iff, trim_trim]
    exact ⟨htag.symm, rfl⟩

theorem filter_of_space_not_mem {t : Text} (h : (CodePoint.char ' ') ∉ t) :
    t.filter (fun (c : CodePoint) => c != ' ') = t := by
  rw [List.filter_eq_self]
  intro c hc
  rw [bne_iff_ne]
  exact ne_of_mem_of_not_mem hc h

/-- The spaces in front of a word and the blanks behind it are not part of a parameter. -/
theorem filter_dropTrailing_of_isPadded {word t : Text} (hpadded : IsPadded isSpace word t)
    (h : ∀ c ∈ word, isBlank c = false) :
    (dropTrailing isBlank t).filter (fun (c : CodePoint) => c != ' ') = word := by
  obtain ⟨left, right, rfl, hl, hr⟩ := hpadded
  have hleft : left.filter (fun (c : CodePoint) => c != ' ') = [] := by
    rw [List.filter_eq_nil_iff]
    intro c hc
    simpa [isSpace] using hl c hc
  rw [dropTrailing_append hr]
  by_cases hne : word = []
  · have hblank : ∀ c ∈ left, isBlank c = true := by
      intro c hc
      rw [show c = ' ' by simpa [isSpace] using hl c hc]
      rfl
    rw [hne, List.append_nil, dropTrailing_of_all hblank, List.filter_nil]
  · rw [dropTrailing_append_of_all_not h left hne, List.filter_append, hleft, List.nil_append,
      filter_of_space_not_mem fun hm => absurd (h _ hm) (by decide)]

theorem readEntry_of_spells {part : Text} {p : Preference} (h : Spells isSpace part p) :
    readEntry (trim part) = .ok p.range := by
  obtain ⟨letters, word, hpadded, hbears⟩ := spells_iff.1 h
  have hword : parameter (trim part) = word := by
    rw [parameter, after_trim rfl]
    exact filter_dropTrailing_of_isPadded hpadded fun c hc => (hbears.apart hc).1
  have hascii : ∀ c ∈ trim (before ';' part), c.toNat < 0x80 := fun c hc =>
    toNat_lt_of_isTagMark (isTagMark_of_letters letters hc)
  rw [readEntry_eq_ok_iff]
  refine ⟨p, rfl, ?_, hword ▸ hbears⟩
  rw [trim_before_trim rfl, lower_of_ascii hascii, letters]

end Header
end OneTimeCode
