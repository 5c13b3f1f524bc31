import Mathlib.Data.List.Forall2
import OneTimeCode.Platform
import OneTimeCode.Proofs.Text.Case
import OneTimeCode.Proofs.Text.Pieces
import OneTimeCode.Proofs.Text.Trimming

/-!
# Labels of platforms

A client that names its platform may spell it with letters outside ASCII that count as cases of `i`,
`s` and `k`. The Kelvin sign is lowered to the letter `k`, but the lower cases of the other three
are not the letters that they count as. So there are more labels than platforms, though finitely
many, and a label is that of a platform exactly if none of the three occurs in the spelling.
-/
namespace OneTimeCode.Platform
open Text

def IsSpelling (word spelling : Text) : Prop :=
  List.Forall₂ (fun letter c => isCaseOf letter c = true) word spelling

theorem splitWord?_eq_some_iff {word t front rest : Text} :
    splitWord? word t = some (front, rest) ↔ t = front ++ rest ∧ IsSpelling word front := by
  induction word generalizing t front with
  | nil =>
    rw [splitWord?, IsSpelling, List.forall₂_nil_left_iff, Option.some.injEq, Prod.mk.injEq]
    constructor
    · rintro ⟨rfl, rfl⟩
      exact ⟨rfl, rfl⟩
    · rintro ⟨rfl, rfl⟩
      exact ⟨rfl, rfl⟩
  | cons letter word ih =>
    rw [IsSpelling, List.forall₂_cons_left_iff]
    cases t with
    | nil =>
      rw [splitWord?]
      refine iff_of_false (fun h => nomatch h) ?_
      rintro ⟨ht, c, others, -, -, rfl⟩
      cases ht
    | cons c t =>
      rw [splitWord?]
      constructor
      · intro h
        split at h
        · next hc =>
          obtain ⟨⟨others, last⟩, hfound, he⟩ := Option.map_eq_some_iff.1 h
          cases he
          obtain ⟨rfl, hothers⟩ := ih.1 hfound
          exact ⟨rfl, c, others, hc, hothers, rfl⟩
        · cases h
      · rintro ⟨ht, d, others, hd, hothers, rfl⟩
        obtain ⟨rfl, hrest⟩ := List.cons_eq_cons.1 ht
        rw [if_pos hd, ih.2 ⟨hrest, hothers⟩]
        rfl

/-! ## What an agent names -/

/-- The agent names its platform by the spelling: it stands behind `Signal-` and in front of a slash
and a version. -/
def Names (agent spelling : Text) : Prop :=
  ∃ front version, agent = front ++ (spelling ++ .char '/' :: version) ∧
    IsSpelling "signal-" front ∧ (∃ name ∈ names, IsSpelling name spelling) ∧
    isVersionAndRest version = true

theorem IsSpelling.not_mem {word spelling : Text} (h : IsSpelling word spelling) {c : CodePoint}
    (hc : ∀ letter ∈ word, isCaseOf letter c = false) : c ∉ spelling := by
  induction h with
  | nil => exact List.not_mem_nil
  | cons hcase _ ih =>
    rw [List.forall_mem_cons] at hc
    rw [List.mem_cons, not_or]
    refine ⟨?_, ih hc.2⟩
    rintro rfl
    rw [hc.1] at hcase
    cases hcase

theorem slash_not_mem {name spelling : Text} (hn : name ∈ names) (h : IsSpelling name spelling) :
    .char '/' ∉ spelling :=
  h.not_mem ((by decide : ∀ name ∈ names, ∀ letter ∈ name, isCaseOf letter (.char '/') = false)
    name hn)

theorem Names.unique {agent first second : Text} (hf : Names agent first) (hs : Names agent second) :
    first = second := by
  obtain ⟨front, version, rfl, hfront, ⟨name, hname, hspelling⟩, -⟩ := hf
  obtain ⟨front', version', he, hfront', ⟨name', hname', hspelling'⟩, -⟩ := hs
  have hlength : front.length = front'.length := hfront.length_eq.symm.trans hfront'.length_eq
  have hrest := (List.append_inj he hlength).2
  rw [← before_append (slash_not_mem hname hspelling) version, hrest,
    before_append (slash_not_mem hname' hspelling')]

/-- What is found of a platform behind `Signal-`. -/
theorem named?_eq (agent : Text) : named? agent =
    (splitWord? "signal-" agent).bind fun found => names.findSome? fun name =>
      match splitWord? name found.2 with
      | some (spelling, .char '/' :: version) =>
        if isVersionAndRest version then some spelling else none
      | _ => none := rfl

theorem named?_eq_some_iff {agent spelling : Text} :
    named? agent = some spelling ↔ Names agent spelling := by
  have hsound {spelling : Text} (h : named? agent = some spelling) : Names agent spelling := by
    rw [named?_eq] at h
    obtain ⟨⟨front, rest⟩, hfront, hfound⟩ := Option.bind_eq_some_iff.1 h
    obtain ⟨rfl, hsignal⟩ := splitWord?_eq_some_iff.1 hfront
    obtain ⟨name, hname, hmatch⟩ := List.exists_of_findSome?_eq_some hfound
    split at hmatch
    · next found version hsplit =>
      split at hmatch
      · next hversion =>
        cases hmatch
        obtain ⟨hrest, hspelling⟩ := splitWord?_eq_some_iff.1 hsplit
        exact ⟨front, version, congrArg (front ++ ·) hrest, hsignal, ⟨name, hname, hspelling⟩,
          hversion⟩
      · cases hmatch
    · cases hmatch
  refine ⟨hsound, fun h => ?_⟩
  have hsome : (named? agent).isSome = true := by
    obtain ⟨front, version, rfl, hsignal, ⟨name, hname, hspelling⟩, hversion⟩ := h
    have hfront : splitWord? "signal-" (front ++ (spelling ++ .char '/' :: version)) =
        some (front, spelling ++ .char '/' :: version) := splitWord?_eq_some_iff.2 ⟨rfl, hsignal⟩
    have hrest : splitWord? name (spelling ++ .char '/' :: version) =
        some (spelling, .char '/' :: version) := splitWord?_eq_some_iff.2 ⟨rfl, hspelling⟩
    rw [named?_eq, hfront, Option.bind_some, List.findSome?_isSome_iff]
    refine ⟨name, hname, ?_⟩
    simp [hrest, hversion]
  obtain ⟨found, hfound⟩ := Option.isSome_iff_exists.1 hsome
  rw [hfound, h.unique (hsound hfound)]

theorem label_eq (agent : Option Text) {t spelling : Text} (ht : agent = some t)
    (h : Names (trim t) spelling) : label agent = lower spelling := by
  have hnamed : agent.bind (fun t => named? (trim t)) = some spelling := by
    rw [ht]
    exact named?_eq_some_iff.2 h
  simp only [label, hnamed]

theorem label_eq_unrecognized {agent : Option Text}
    (h : ¬ ∃ t spelling, agent = some t ∧ Names (trim t) spelling) : label agent = unrecognized := by
  have hnamed : agent.bind (fun t => named? (trim t)) = none := by
    rw [Option.eq_none_iff_forall_ne_some]
    intro spelling hs
    obtain ⟨t, ht, hn⟩ := Option.bind_eq_some_iff.1 hs
    exact h ⟨t, spelling, ht, named?_eq_some_iff.1 hn⟩
  simp only [label, hnamed]

/-! ## The labels -/

def IsPlain (word : Text) : Prop :=
  ∀ letter ∈ word, letter.toNat < 0x80 ∧ letter.map Char.toLower = letter

theorem isPlain_of_mem_names : ∀ name ∈ names, IsPlain name := by
  unfold IsPlain
  decide

theorem isCaseOf_iff {letter c : CodePoint} : isCaseOf letter c = true ↔
    c.map Char.toLower = letter ∨ c.toNat ∈ foreignPartners letter := by
  rw [isCaseOf, Bool.or_eq_true, decide_eq_true_eq, List.contains_iff_mem]

def letterLabels (letter : CodePoint) : List Text :=
  [letter] :: (foreignPartners letter).map fun n => lowerPoint (.ofNat n)

def spellingLabels : Text → List Text
  | [] => [[]]
  | letter :: word =>
    (letterLabels letter).flatMap fun first => (spellingLabels word).map (first ++ ·)

theorem foreignPartners_bounds (letter : CodePoint) :
    ∀ n ∈ foreignPartners letter, 0x80 ≤ n ∧ n < 0x110000 ∧ n ≠ 0x3A3 := by
  unfold foreignPartners
  split <;> decide

/-- Whatever counts as a case of a letter is lowered on its own. -/
theorem lowerAt_of_isCaseOf {letter c : CodePoint} (hl : letter.toNat < 0x80)
    (h : isCaseOf letter c = true) (seen rest : Text) : lowerAt seen c rest = lowerPoint c := by
  apply lowerAt_of_ne
  rintro rfl
  rcases isCaseOf_iff.1 h with hc | hc
  · rw [CodePoint.map_toLower_of_le (by decide)] at hc
    rw [← hc] at hl
    exact absurd hl (by decide)
  · exact (foreignPartners_bounds letter _ hc).2.2 (by decide)

theorem mem_letterLabels_iff {letter : CodePoint}
    (hl : letter.toNat < 0x80 ∧ letter.map Char.toLower = letter) {l : Text} :
    l ∈ letterLabels letter ↔ ∃ c, isCaseOf letter c = true ∧ lowerPoint c = l := by
  simp only [letterLabels, List.mem_cons, List.mem_map, isCaseOf_iff]
  constructor
  · rintro (rfl | ⟨n, hn, rfl⟩)
    · exact ⟨letter, .inl hl.2, by rw [lowerPoint_of_ascii hl.1, hl.2]⟩
    · obtain ⟨-, hbound, -⟩ := foreignPartners_bounds letter n hn
      exact ⟨.ofNat n, .inr (by rwa [CodePoint.toNat_ofNat hbound]), rfl⟩
  · rintro ⟨c, hc | hc, rfl⟩
    · left
      by_cases hascii : c.toNat < 0x80
      · rw [lowerPoint_of_ascii hascii, hc]
      · rw [CodePoint.map_toLower_of_le (Nat.not_lt.1 hascii)] at hc
        exact absurd (hc ▸ hl.1) hascii
    · right
      obtain ⟨-, hbound, -⟩ := foreignPartners_bounds letter _ hc
      exact ⟨c.toNat, hc, congrArg lowerPoint
        (CodePoint.toNat_injective (CodePoint.toNat_ofNat hbound))⟩

/-- The labels of a word are what its spellings are lowered to. -/
theorem mem_spellingLabels_iff {word : Text} (hw : IsPlain word) {l : Text} (seen : Text) :
    l ∈ spellingLabels word ↔ ∃ spelling, IsSpelling word spelling ∧ lowerFrom seen spelling = l := by
  induction word generalizing seen l with
  | nil =>
    simp only [spellingLabels, List.mem_singleton, IsSpelling, List.forall₂_nil_left_iff,
      exists_eq_left]
    exact eq_comm
  | cons letter word ih =>
    obtain ⟨hl, hword⟩ := List.forall_mem_cons.1 hw
    simp only [spellingLabels, List.mem_flatMap, List.mem_map, IsSpelling,
      List.forall₂_cons_left_iff, mem_letterLabels_iff hl]
    constructor
    · rintro ⟨first, ⟨c, hc, rfl⟩, others, hothers, rfl⟩
      obtain ⟨spelling, hspelling, rfl⟩ := (ih hword (c :: seen)).1 hothers
      refine ⟨c :: spelling, ⟨c, spelling, hc, hspelling, rfl⟩, ?_⟩
      rw [lowerFrom, lowerAt_of_isCaseOf hl.1 hc]
    · rintro ⟨_, ⟨c, spelling, hc, hspelling, rfl⟩, rfl⟩
      refine ⟨_, ⟨c, hc, rfl⟩, _, (ih hword (c :: seen)).2 ⟨spelling, hspelling, rfl⟩, ?_⟩
      rw [lowerFrom, lowerAt_of_isCaseOf hl.1 hc]

def labels : List Text := unrecognized :: names.flatMap spellingLabels

theorem label_mem_labels (agent : Option Text) : label agent ∈ labels := by
  by_cases h : ∃ t spelling, agent = some t ∧ Names (trim t) spelling
  · obtain ⟨t, spelling, ht, hn⟩ := h
    obtain ⟨front, version, -, -, ⟨name, hname, hspelling⟩, -⟩ := id hn
    rw [label_eq agent ht hn]
    exact List.mem_cons_of_mem _ (List.mem_flatMap.2 ⟨name, hname,
      (mem_spellingLabels_iff (isPlain_of_mem_names name hname) []).2 ⟨spelling, hspelling, rfl⟩⟩)
  · rw [label_eq_unrecognized h]
    exact List.mem_cons_self

def agentOf (spelling : Text) : Text := "Signal-" ++ (spelling ++ "/1")

theorem names_trim_agentOf {name spelling : Text} (hn : name ∈ names)
    (h : IsSpelling name spelling) : Names (trim (agentOf spelling)) spelling := by
  have hfirst : isBlank (.char 'S') = false := by decide
  have hlast : isBlank (.char '1') = false := by decide
  have htrim : trim (agentOf spelling) = agentOf spelling := by
    have hends : agentOf spelling =
        .char 'S' :: (("ignal-" : Text) ++ (spelling ++ ("/" : Text))) ++ [.char '1'] := by
      simp [agentOf, ofString]
    rw [hends, List.cons_append, trim_cons hfirst, dropTrailing_append_cons hlast]
    rfl
  have hsignal : IsSpelling "signal-" "Signal-" := by
    repeat' constructor
  rw [htrim]
  exact ⟨"Signal-", "1", rfl, hsignal, ⟨name, hn, h⟩, by decide⟩

theorem exists_label_eq_iff {l : Text} : (∃ agent, label agent = l) ↔ l ∈ labels := by
  constructor
  · rintro ⟨agent, rfl⟩
    exact label_mem_labels agent
  · intro h
    rcases List.mem_cons.1 h with rfl | h
    · exact ⟨none, rfl⟩
    · obtain ⟨name, hname, hl⟩ := List.mem_flatMap.1 h
      obtain ⟨spelling, hspelling, rfl⟩ :=
        (mem_spellingLabels_iff (isPlain_of_mem_names name hname) []).1 hl
      exact ⟨some (agentOf spelling), label_eq _ rfl (names_trim_agentOf hname hspelling)⟩

example : labels.dedup.length = 12 := by decide +kernel

/-! ## The labels of the platforms -/

def platforms : List Text := names ++ [unrecognized]

/-- The letters that count as cases of an ASCII letter and have another lower case: the capital `I`
with a dot, the small `i` without one, and the long `s`. -/
def strangeLetters : List CodePoint := [.ofNat 0x130, .ofNat 0x131, .ofNat 0x17F]

/-- The agent names its platform, and spells it with a strange letter. -/
def IsStrange (agent : Option Text) : Prop :=
  ∃ t spelling, agent = some t ∧ Names (trim t) spelling ∧ ∃ c ∈ spelling, c ∈ strangeLetters

theorem foreignPartners_cases (letter : CodePoint) : ∀ n ∈ foreignPartners letter,
    .ofNat n ∈ strangeLetters ∨ (plainLetter (.ofNat n)).map Char.toLower = letter := by
  unfold foreignPartners
  split
  · decide
  · decide
  · decide
  · exact List.forall_mem_nil _

/-- Every other case of a letter is lowered to it. -/
theorem plainLetter_of_isCaseOf {letter c : CodePoint} (hl : letter.toNat < 0x80)
    (h : isCaseOf letter c = true) (hc : c ∉ strangeLetters) :
    (plainLetter c).map Char.toLower = letter := by
  rcases isCaseOf_iff.1 h with hcase | hcase
  · have hk : c ≠ kelvin := by
      rintro rfl
      rw [← hcase] at hl
      exact absurd hl (by decide)
    rw [plainLetter_of_ne hk, hcase]
  · have hsame : CodePoint.ofNat c.toNat = c :=
      CodePoint.toNat_injective (CodePoint.toNat_ofNat (foreignPartners_bounds letter _ hcase).2.1)
    rcases foreignPartners_cases letter _ hcase with hs | hp
    · exact absurd (hsame ▸ hs) hc
    · rwa [hsame] at hp

theorem lower_of_isSpelling {word spelling : Text} (hw : IsPlain word)
    (h : IsSpelling word spelling) (hs : ∀ c ∈ spelling, c ∉ strangeLetters) :
    lower spelling = word := by
  rw [lower_eq_iff fun letter hm => (hw letter hm).1]
  induction h with
  | nil => rfl
  | cons hcase _ ih =>
    rw [IsPlain, List.forall_mem_cons] at hw
    rw [List.forall_mem_cons] at hs
    rw [List.map_cons, List.map_cons, plainLetter_of_isCaseOf hw.1.1 hcase hs.1, ih hw.2 hs.2]

/-- A strange letter is no ASCII letter in lower case either. -/
theorem lower_ne_of_mem {word spelling : Text} (hw : ∀ letter ∈ word, letter.toNat < 0x80)
    {c : CodePoint} (hm : c ∈ spelling) (hc : c ∈ strangeLetters) : lower spelling ≠ word := by
  have hkept : (plainLetter c).map Char.toLower = c ∧ ¬ c.toNat < 0x80 :=
    (by decide : ∀ d ∈ strangeLetters, (plainLetter d).map Char.toLower = d ∧ ¬ d.toNat < 0x80) c hc
  intro he
  rw [lower_eq_iff hw, List.map_map] at he
  have hmem : c ∈ word := by
    rw [← he]
    exact List.mem_map.2 ⟨c, hm, hkept.1⟩
  exact hkept.2 (hw c hmem)

/-- A client is counted under one of the platforms, or as unrecognized, unless its spelling has a
strange letter. -/
theorem label_mem_platforms_iff (agent : Option Text) :
    label agent ∈ platforms ↔ ¬ IsStrange agent := by
  by_cases h : ∃ t spelling, agent = some t ∧ Names (trim t) spelling
  · obtain ⟨t, spelling, ht, hn⟩ := h
    rw [label_eq agent ht hn]
    constructor
    · rintro hmem ⟨t', spelling', ht', hn', c, hm, hc⟩
      cases ht.symm.trans ht'
      cases hn.unique hn'
      have hascii : ∀ word ∈ platforms, ∀ letter ∈ word, letter.toNat < 0x80 := by decide
      exact lower_ne_of_mem (hascii _ hmem) hm hc rfl
    · intro hnot
      obtain ⟨-, -, -, -, ⟨name, hname, hspelling⟩, -⟩ := id hn
      rw [lower_of_isSpelling (isPlain_of_mem_names name hname) hspelling fun c hm hc =>
        hnot ⟨t, spelling, ht, hn, c, hm, hc⟩]
      exact List.mem_append_left _ hname
  · rw [label_eq_unrecognized h]
    refine iff_of_true (by decide) ?_
    rintro ⟨t, spelling, ht, hn, -⟩
    exact h ⟨t, spelling, ht, hn⟩

end OneTimeCode.Platform
