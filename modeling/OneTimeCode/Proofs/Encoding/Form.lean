import OneTimeCode.Encoding.Form
import OneTimeCode.Proofs.Encoding.Percent
import OneTimeCode.Proofs.Text.Pieces

/-!
# Forms and back

A form body decodes to exactly the fields that it was made of, whatever marks their names and values
hold. There is a body unless some name or value holds a half.
-/
namespace OneTimeCode.Form
open Text

def AreEncodable (fields : Fields) : Prop :=
  ∀ field ∈ fields, Utf8.IsEncodable field.1 ∧ Utf8.IsEncodable field.2

instance (fields : Fields) : Decidable (AreEncodable fields) :=
  inferInstanceAs (Decidable
    (∀ field ∈ fields, Utf8.IsEncodable field.1 ∧ Utf8.IsEncodable field.2))

/-- A plus stands for a space. -/
def unplus (c : CodePoint) : Text := if c = '+' then "%20" else [c]

theorem decodeComponent?_eq (t : Text) :
    decodeComponent? t = Percent.decode? (t.flatMap unplus) := rfl

theorem not_isSafe_plus : ¬ Percent.IsSafe '+' := by
  unfold Percent.IsSafe
  decide

theorem flatMap_unplus_of_isSafe {t : Text} (h : ∀ c ∈ t, Percent.IsSafe c) :
    t.flatMap unplus = t := by
  induction t with
  | nil => rfl
  | cons c rest ih =>
    have hc : c ≠ '+' := by
      intro he
      exact not_isSafe_plus (he ▸ h c (by simp))
    rw [List.flatMap_cons, unplus, if_neg hc, ih fun d hd => h d (by simp [hd])]
    rfl

theorem flatMap_unplus_encodeByte {b : Nat} (hb : b < 256) :
    (encodeByte b).flatMap unplus = Percent.encodeByte b := by
  unfold encodeByte
  split
  · next h =>
    subst h
    decide
  · exact flatMap_unplus_of_isSafe fun c hc => Percent.isSafe_of_mem_encodeByte hb hc

theorem flatMap_unplus {bytes : List Nat} (h : ∀ b ∈ bytes, b < 256) :
    (bytes.flatMap encodeByte).flatMap unplus = bytes.flatMap Percent.encodeByte := by
  induction bytes with
  | nil => rfl
  | cons b rest ih =>
    rw [List.flatMap_cons, List.flatMap_append, flatMap_unplus_encodeByte (h b (by simp)),
      ih fun d hd => h d (by simp [hd]), List.flatMap_cons]

theorem component_eq_ok_iff {t part : Text} : component t = .ok part ↔
    ∃ bytes, Utf8.encode t = .ok bytes ∧ part = bytes.flatMap encodeByte :=
  map_eq_ok_iff

theorem decodeComponent?_component {t part : Text} (h : component t = .ok part) :
    decodeComponent? part = some t := by
  obtain ⟨bytes, hu, rfl⟩ := component_eq_ok_iff.1 h
  have hlt := Utf8.encode_lt hu
  rw [decodeComponent?_eq, flatMap_unplus hlt, Percent.decode?,
    Percent.bytes?_flatMap_encodeByte hlt, Option.bind_some, Utf8.decode?_encode hu]

theorem not_mem_component {t part : Text} (h : component t = .ok part) {mark : CodePoint}
    (hs : ¬ Percent.IsSafe mark) (hp : mark ≠ '+') : mark ∉ part := by
  obtain ⟨bytes, hu, rfl⟩ := component_eq_ok_iff.1 h
  intro hm
  obtain ⟨b, hb, hc⟩ := List.mem_flatMap.1 hm
  unfold encodeByte at hc
  split at hc
  · exact hp (List.mem_singleton.1 hc)
  · exact hs (Percent.isSafe_of_mem_encodeByte (Utf8.encode_lt hu b hb) hc)

theorem equals_not_mem_component {t part : Text} (h : component t = .ok part) :
    ('=' : CodePoint) ∉ part :=
  not_mem_component h (by unfold Percent.IsSafe; decide) (by decide)

theorem ampersand_not_mem_component {t part : Text} (h : component t = .ok part) :
    ('&' : CodePoint) ∉ part :=
  not_mem_component h (by unfold Percent.IsSafe; decide) (by decide)

theorem encodeField_eq_ok_iff {field : Text × Text} {part : Text} :
    encodeField field = .ok part ↔ ∃ name value, component field.1 = .ok name ∧
      component field.2 = .ok value ∧ part = name ++ .char '=' :: value := by
  simp only [encodeField, bind_eq_ok_iff]
  constructor
  · rintro ⟨name, hn, value, hv, hpart⟩
    refine ⟨name, value, hn, hv, ?_⟩
    rw [← Except.ok.inj hpart, List.append_assoc]
    rfl
  · rintro ⟨name, value, hn, hv, rfl⟩
    refine ⟨name, hn, value, hv, ?_⟩
    rw [List.append_assoc]
    rfl

theorem decodeField?_encodeField {field : Text × Text} {part : Text}
    (h : encodeField field = .ok part) : decodeField? part = some field := by
  obtain ⟨name, value, hn, hv, rfl⟩ := encodeField_eq_ok_iff.1 h
  have he := equals_not_mem_component hn
  rw [decodeField?, before_append he, after_append he, decodeComponent?_component hn,
    decodeComponent?_component hv]
  rfl

theorem ampersand_not_mem_encodeField {field : Text × Text} {part : Text}
    (h : encodeField field = .ok part) : ('&' : CodePoint) ∉ part := by
  obtain ⟨name, value, hn, hv, rfl⟩ := encodeField_eq_ok_iff.1 h
  have h1 := ampersand_not_mem_component hn
  have h2 := ampersand_not_mem_component hv
  simp [h1, h2]

theorem encodeField_ne_nil {field : Text × Text} {part : Text}
    (h : encodeField field = .ok part) : part ≠ [] := by
  obtain ⟨name, value, -, -, rfl⟩ := encodeField_eq_ok_iff.1 h
  simp

theorem component_of_isEncodable {t : Text} (h : Utf8.IsEncodable t) :
    ∃ part, component t = .ok part :=
  ⟨_, component_eq_ok_iff.2 ⟨_, Utf8.encode_of_isEncodable h, rfl⟩⟩

theorem isEncodable_of_component {t part : Text} (h : component t = .ok part) :
    Utf8.IsEncodable t := by
  obtain ⟨bytes, hu, -⟩ := component_eq_ok_iff.1 h
  exact (Utf8.encode_eq_ok_iff.1 hu).1

theorem mapM_encodeField {fields : Fields} {parts : List Text}
    (h : fields.mapM encodeField = .ok parts) :
    parts.mapM decodeField? = some fields ∧
      (∀ part ∈ parts, ('&' : CodePoint) ∉ part ∧ part ≠ []) ∧ AreEncodable fields := by
  induction mapM_eq_ok_iff.1 h with
  | nil => exact ⟨rfl, by simp, by simp [AreEncodable]⟩
  | @cons field part rest others hf hrest ih =>
    obtain ⟨hd, ha, he⟩ := ih (mapM_eq_ok_iff.2 hrest)
    obtain ⟨name, value, hn, hv, -⟩ := encodeField_eq_ok_iff.1 hf
    refine ⟨?_, ?_, ?_⟩
    · rw [List.mapM_cons, decodeField?_encodeField hf, hd]
      rfl
    · intro p hm
      rcases List.mem_cons.1 hm with rfl | hm
      · exact ⟨ampersand_not_mem_encodeField hf, encodeField_ne_nil hf⟩
      · exact ha p hm
    · intro f hm
      rcases List.mem_cons.1 hm with rfl | hm
      · exact ⟨isEncodable_of_component hn, isEncodable_of_component hv⟩
      · exact he f hm

theorem mapM_encodeField_of_areEncodable {fields : Fields} (h : AreEncodable fields) :
    ∃ parts, fields.mapM encodeField = .ok parts := by
  induction fields with
  | nil => exact ⟨[], rfl⟩
  | cons field rest ih =>
    have hf := h field (by simp)
    obtain ⟨name, hn⟩ := component_of_isEncodable hf.1
    obtain ⟨value, hv⟩ := component_of_isEncodable hf.2
    obtain ⟨parts, hp⟩ := ih fun f hm => h f (by simp [hm])
    have he : encodeField field = .ok (name ++ .char '=' :: value) :=
      encodeField_eq_ok_iff.2 ⟨name, value, hn, hv, rfl⟩
    exact ⟨_, by rw [List.mapM_cons, he, hp]; rfl⟩

theorem encode_of_areEncodable {fields : Fields} (h : AreEncodable fields) :
    ∃ body, encode fields = .ok body := by
  obtain ⟨parts, hp⟩ := mapM_encodeField_of_areEncodable h
  exact ⟨_, by rw [encode, hp]; rfl⟩

theorem encode_of_not_areEncodable {fields : Fields} (h : ¬ AreEncodable fields) :
    ∃ fault, encode fields = .error fault := by
  cases hp : fields.mapM encodeField with
  | error fault => exact ⟨fault, by rw [encode, hp]; rfl⟩
  | ok parts => exact absurd (mapM_encodeField hp).2.2 h

theorem encode_eq_ok_iff {fields : Fields} {body : Text} : encode fields = .ok body ↔
    ∃ parts, fields.mapM encodeField = .ok parts ∧ body = join "&" parts :=
  map_eq_ok_iff

theorem decode?_encode {fields : Fields} {body : Text} (h : encode fields = .ok body) :
    decode? body = some fields := by
  obtain ⟨parts, hp, rfl⟩ := encode_eq_ok_iff.1 h
  obtain ⟨hd, ha, -⟩ := mapM_encodeField hp
  have hm : (Text.ofString "&" : Text) = [.char '&'] := rfl
  cases fields with
  | nil =>
    cases hp
    rfl
  | cons field rest =>
    have hne : parts ≠ [] := by
      rintro rfl
      simp at hd
    have hpieces := pieces_join hne fun part hpart => (ha part hpart).1
    rw [hm, decode?]
    split
    · next he =>
      -- an empty body would have an empty field for its only piece
      rw [List.isEmpty_iff.1 he] at hpieces
      exact absurd rfl (ha [] (by rw [← hpieces]; simp [pieces])).2
    · rw [hpieces, hd]

end OneTimeCode.Form
