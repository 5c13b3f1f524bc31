import OneTimeCode.Proofs.Language.Headers

/-!
# Which headers are accepted

The lower case of a tag is taken before its letters are looked at, and the spaces of a parameter are
left out before its number is. So a header is accepted exactly if its entries are well-formed with
the letter `k` for the Kelvin sign and without these spaces. An accepted entry is well-formed as it
stands exactly if it has neither. Every other header is refused for the tag or for the parameter of
one of its entries.
-/
namespace OneTimeCode
open Text

namespace Header

/-- The entry with the letter `k` for the Kelvin sign in its tag, and without the spaces in its
parameter. -/
def tighten (entry : Text) : Text :=
  if (CodePoint.char ';') ∈ entry then
    (before ';' entry).map plainLetter ++ .char ';' :: parameter entry
  else entry.map plainLetter

/-- The tag is written without the Kelvin sign, and the parameter in one piece. -/
structure IsTight (entry : Text) : Prop where
  letters : kelvin ∉ before ';' entry
  contiguous : (CodePoint.char ' ') ∉ trim (after ';' entry)

/-! ## Tightened entries -/

theorem plainLetter_eq_semicolon_iff {c : CodePoint} : plainLetter c = ';' ↔ c = ';' := by
  by_cases hk : c = kelvin
  · subst hk
    decide
  · rw [plainLetter_of_ne hk]

theorem semicolon_not_mem_map {t : Text} (h : (CodePoint.char ';') ∉ t) :
    (CodePoint.char ';') ∉ t.map plainLetter := by
  intro hm
  obtain ⟨c, hc, he⟩ := List.mem_map.1 hm
  exact h (plainLetter_eq_semicolon_iff.1 he ▸ hc)

theorem before_tighten (entry : Text) :
    before ';' (tighten entry) = (before ';' entry).map plainLetter := by
  unfold tighten
  split
  · exact before_append (semicolon_not_mem_map (not_mem_before _ entry)) _
  · next hm => rw [before_of_not_mem hm, before_of_not_mem (semicolon_not_mem_map hm)]

theorem after_tighten (entry : Text) : after ';' (tighten entry) = parameter entry := by
  unfold tighten
  split
  · exact after_append (semicolon_not_mem_map (not_mem_before _ entry)) _
  · next hm =>
    rw [after_of_not_mem (semicolon_not_mem_map hm), parameter, after_of_not_mem hm]
    rfl

theorem isBlank_plainLetter (c : CodePoint) : isBlank (plainLetter c) = isBlank c := by
  by_cases hk : c = kelvin
  · subst hk
    decide
  · rw [plainLetter_of_ne hk]

theorem space_not_mem_parameter (entry : Text) : (CodePoint.char ' ') ∉ parameter entry := by
  intro hm
  simpa using (List.mem_filter.1 hm).2

/-- The parameter of a trimmed entry does not end with a blank. -/
theorem dropTrailing_parameter {entry : Text} (h : trim entry = entry) :
    dropTrailing isBlank (parameter entry) = parameter entry := by
  have hafter : dropTrailing isBlank (after ';' entry) = after ';' entry := by
    rw [← after_trim rfl, h]
  refine dropTrailing_filter hafter fun c hc => ?_
  rw [bne_iff_ne]
  rintro rfl
  exact absurd hc (by decide)

/-- A parameter without spaces and without blanks at its end is itself what it bears. -/
theorem eq_parameter_of_isPadded {entry word : Text} {n : Nat} (h : trim entry = entry)
    (hpadded : IsPadded isSpace word (parameter entry)) (hbears : Bears word n) :
    word = parameter entry := by
  have hfilter := filter_dropTrailing_of_isPadded hpadded fun c hc => (hbears.apart hc).1
  rw [dropTrailing_parameter h, filter_of_space_not_mem (space_not_mem_parameter entry)] at hfilter
  exact hfilter.symm

theorem spells_tighten_iff {entry : Text} (h : trim entry = entry) {p : Preference} :
    Spells isSpace (tighten entry) p ↔
      lower (trim (before ';' entry)) = p.tag ∧ Bears (parameter entry) p.thousandths := by
  rw [spells_iff, before_tighten, after_tighten, trim_map isBlank_plainLetter,
    ← lower_eq_iff fun c => toNat_lt_of_mem_tag]
  refine and_congr_right fun _ => ?_
  constructor
  · rintro ⟨word, hpadded, hbears⟩
    exact eq_parameter_of_isPadded h hpadded hbears ▸ hbears
  · intro hbears
    exact ⟨_, ⟨[], [], by simp, by simp, by simp⟩, hbears⟩

/-- A trimmed entry is read as what it spells once it is tightened. -/
theorem readEntry_eq_ok_iff_spells {entry : Text} (h : trim entry = entry)
    {range : LanguageRange} :
    readEntry entry = .ok range ↔ ∃ p, p.range = range ∧ Spells isSpace (tighten entry) p := by
  simp only [readEntry_eq_ok_iff, spells_tighten_iff h]

/-! ## Tight entries -/

theorem isTight_of_spells {entry : Text} {p : Preference} (h : Spells isBlank entry p) :
    IsTight entry := by
  obtain ⟨letters, word, ⟨left, right, hafter, hl, hr⟩, hbears⟩ := spells_iff.1 h
  constructor
  · exact not_mem_of_letters (isPadded_trim _) letters kelvin (by decide) (by decide)
  · rw [hafter, trim_padded hl hr fun c hc => (hbears.apart hc).1]
    exact fun hm => absurd (hbears.apart hm).1 (by decide)

/-- The blanks around a parameter that bears a weight are spaces, and a parameter in one piece is
what is left when they are trimmed away. -/
theorem trim_after_eq_parameter {entry : Text} {n : Nat} (hbears : Bears (parameter entry) n)
    (h : (CodePoint.char ' ') ∉ trim (after ';' entry)) :
    trim (after ';' entry) = parameter entry := by
  obtain ⟨left, right, he, hl, hr⟩ := exists_eq_trim_padded (after ';' entry)
  have hdrop {part : Text} (hpart : ∀ c ∈ part, isBlank c = true)
      (hin : ∀ c ∈ part, c ∈ after ';' entry) :
      part.filter (fun (c : CodePoint) => c != ' ') = [] := by
    rw [List.filter_eq_nil_iff]
    intro c hc hkept
    have hnot := (hbears.apart (List.mem_filter.2 ⟨hin c hc, hkept⟩)).1
    rw [hpart c hc] at hnot
    cases hnot
  have hleft := hdrop hl fun c hc => by
    rw [he]
    simp [hc]
  have hright := hdrop hr fun c hc => by
    rw [he]
    simp [hc]
  rw [parameter]
  conv_rhs => rw [he]
  rw [List.filter_append, List.filter_append, hleft, hright, filter_of_space_not_mem h,
    List.nil_append, List.append_nil]

/-- An entry that is read is well-formed as it stands exactly if it is tight. -/
theorem spells_iff_isTight {entry : Text} {p : Preference} (h : trim entry = entry)
    (hread : Spells isSpace (tighten entry) p) :
    (∃ q, Spells isBlank entry q) ↔ IsTight entry := by
  constructor
  · rintro ⟨q, hq⟩
    exact isTight_of_spells hq
  · intro htight
    obtain ⟨htag, hbears⟩ := (spells_tighten_iff h).1 hread
    refine ⟨p, spells_iff.2 ⟨?_, parameter entry, ?_, hbears⟩⟩
    · have hplain : kelvin ∉ trim (before ';' entry) :=
        fun hm => htight.letters (mem_of_mem_trim hm)
      rwa [lower_eq_iff fun c => toNat_lt_of_mem_tag, map_plainLetter hplain] at htag
    · rw [← trim_after_eq_parameter hbears htight.contiguous]
      exact isPadded_trim _

/-! ## Accepted headers -/

theorem trim_of_mem_entries {header entry : Text} (h : entry ∈ entries header) :
    trim entry = entry := by
  obtain ⟨piece, -, rfl⟩ := List.mem_map.1 (List.mem_of_mem_filter h)
  exact trim_trim piece

theorem readEntry_error {entry : Text} {error : RangeError} (h : readEntry entry = .error error) :
    error = .malformedRange (.text (trim (before ';' entry))) ∨ error = .malformedWeight entry := by
  by_cases hbears : ∃ n, Bears (parameter entry) n
  · obtain ⟨n, hn⟩ := hbears
    rw [readEntry_of_bears hn] at h
    exact .inl (LanguageRange.ofText_eq_error h)
  · rw [readEntry_of_not_bears (not_exists.1 hbears)] at h
    cases h
    exact .inr rfl

theorem read_eq_ok_iff {header : Text} {ranges : List LanguageRange} :
    read header = .ok ranges ↔ ∃ given,
      List.Forall₂ (fun entry p => Spells isSpace (tighten entry) p) (entries header) given ∧
        ranges = byWeight (given.map Preference.range) := by
  have hstep (entry : Text) (hm : entry ∈ entries header) (range : LanguageRange) :
      readEntry entry = .ok range ↔ ∃ p, p.range = range ∧ Spells isSpace (tighten entry) p :=
    readEntry_eq_ok_iff_spells (trim_of_mem_entries hm)
  rw [read, bind_eq_ok_iff]
  simp only [mapM_eq_ok_iff_map hstep]
  constructor
  · rintro ⟨_, ⟨given, hgiven, rfl⟩, hsorted⟩
    exact ⟨given, hgiven, (Except.ok.inj hsorted).symm⟩
  · rintro ⟨given, hgiven, rfl⟩
    exact ⟨_, ⟨given, hgiven, rfl⟩, rfl⟩

theorem read_of_entries_eq_singleton {header entry : Text} {p : Preference}
    (he : entries header = [entry]) (htag : lower (trim (before ';' entry)) = p.tag)
    (hbears : Bears (parameter entry) p.thousandths) : read header = .ok [p.range] := by
  have hentry : readEntry entry = .ok p.range := readEntry_eq_ok_iff.2 ⟨p, rfl, htag, hbears⟩
  rw [read, he, List.mapM_cons, hentry]
  exact congrArg Except.ok (List.mergeSort_singleton _)

theorem read_eq_error {header : Text} {error : RangeError} (h : read header = .error error) :
    ∃ entry ∈ entries header, readEntry entry = .error error := by
  unfold read at h
  cases hm : (entries header).mapM readEntry with
  | ok found =>
    rw [hm] at h
    cases h
  | error e =>
    rw [hm] at h
    cases h
    obtain ⟨front, entry, back, hsplit, hentry, -⟩ := mapM_eq_error hm
    exact ⟨entry, by rw [hsplit]; simp, hentry⟩

/-- A header is accepted exactly if each entry is well-formed once it is tightened, and then an
entry is well-formed as it stands exactly if it is tight. A header that is not accepted is refused
for a malformed tag or parameter of one of its entries. -/
theorem read_accepts_iff (header : Text) :
    (∀ ranges, read header = .ok ranges ↔ ∃ given,
      List.Forall₂ (fun entry p => Spells isSpace (tighten entry) p) (entries header) given ∧
        ranges = byWeight (given.map Preference.range)) ∧
    (∀ ranges, read header = .ok ranges →
      ∀ entry ∈ entries header, (∃ p, Spells isBlank entry p) ↔ IsTight entry) ∧
    ∀ error, read header = .error error → ∃ entry ∈ entries header,
      error = .malformedRange (.text (trim (before ';' entry))) ∨
        error = .malformedWeight entry := by
  refine ⟨fun ranges => read_eq_ok_iff, ?_, ?_⟩
  · intro ranges h entry hm
    obtain ⟨given, hgiven, -⟩ := read_eq_ok_iff.1 h
    obtain ⟨p, hp⟩ := exists_of_forall₂ hgiven hm
    exact spells_iff_isTight (trim_of_mem_entries hm) hp
  · intro error h
    obtain ⟨entry, hm, hentry⟩ := read_eq_error h
    exact ⟨entry, hm, readEntry_error hentry⟩

/-- With blanks around its tags and parameters but none inside, a header is accepted and each of
its entries is well-formed. -/
theorem accepts_with_blanks_around :
    let header : Text := "EN\t; q=0.5 ,, *"
    ∃ ranges, read header = .ok ranges ∧ ∀ entry ∈ entries header, ∃ p, Spells isBlank entry p := by
  intro header
  have hentries : entries header = ["EN\t; q=0.5", "*"] := by decide +kernel
  have htight : ∀ entry ∈ entries header, IsTight entry := by
    rw [hentries]
    refine List.forall_mem_cons.2 ⟨⟨by decide +kernel, by decide +kernel⟩, ?_⟩
    exact List.forall_mem_singleton.2 ⟨by decide +kernel, by decide +kernel⟩
  have hspelled : List.Forall₂ (fun entry p => Spells isSpace (tighten entry) p) (entries header)
      [⟨["en"], by decide, 500, by decide⟩, ⟨["*"], by decide, 1000, by decide⟩] := by
    rw [hentries]
    refine .cons ((spells_tighten_iff (by decide +kernel)).2 ⟨by decide +kernel, ?_⟩)
      (.cons ((spells_tighten_iff (by decide +kernel)).2 ⟨by decide +kernel, ?_⟩) .nil)
    · exact bears_iff.2 (.inr (by decide +kernel))
    · exact bears_iff.2 (.inl ⟨by decide +kernel, rfl⟩)
  obtain ⟨hok, hwell, -⟩ := read_accepts_iff header
  have hread := (hok _).2 ⟨_, hspelled, rfl⟩
  exact ⟨_, hread, fun entry hm => (hwell _ hread entry hm).2 (htight entry hm)⟩

/-- The Kelvin sign is accepted as a tag, and a number with a space inside as a weight, although
neither entry is well-formed. -/
theorem accepts_kelvin_and_inner_space :
    let kelvinHeader : Text := [kelvin]
    let spacedHeader : Text := "en;q=0 .5"
    (read kelvinHeader = .ok [Preference.range ⟨["k"], by decide, 1000, by decide⟩] ∧
      kelvinHeader ∈ entries kelvinHeader ∧ ¬ ∃ p, Spells isBlank kelvinHeader p) ∧
    read spacedHeader = .ok [Preference.range ⟨["en"], by decide, 500, by decide⟩] ∧
      spacedHeader ∈ entries spacedHeader ∧ ¬ ∃ p, Spells isBlank spacedHeader p := by
  intro kelvinHeader spacedHeader
  have hkelvin : entries kelvinHeader = [kelvinHeader] := by decide +kernel
  have hspaced : entries spacedHeader = [spacedHeader] := by decide +kernel
  refine ⟨⟨?_, by rw [hkelvin]; simp, ?_⟩, ?_, by rw [hspaced]; simp, ?_⟩
  · exact read_of_entries_eq_singleton hkelvin (by decide +kernel)
      (bears_iff.2 (.inl ⟨by decide +kernel, rfl⟩))
  · rintro ⟨p, hp⟩
    exact (isTight_of_spells hp).letters (by decide +kernel)
  · exact read_of_entries_eq_singleton hspaced (by decide +kernel)
      (bears_iff.2 (.inr (by decide +kernel)))
  · rintro ⟨p, hp⟩
    exact (isTight_of_spells hp).contiguous (by decide +kernel)

end Header
end OneTimeCode
