import Mathlib.Data.List.Forall2
import OneTimeCode.Transport.Session
import OneTimeCode.Proofs.Encoding.Form

/-!
# Letters that fare alike

Of a letter a session shows where it goes, and what keeps it from being encoded. Letters that agree
in this are answered and logged alike, whatever else they hold.
-/
namespace OneTimeCode

/-- Both fail in the same way, or both come to something, and that is related. -/
inductive SameFailure {ε α β : Type} (related : α → β → Prop) : Except ε α → Except ε β → Prop where
  | error (e : ε) : SameFailure related (.error e) (.error e)
  | ok {first : α} {second : β} : related first second →
    SameFailure related (.ok first) (.ok second)

namespace SameFailure

variable {ε ε' α β γ δ : Type} {r : α → β → Prop} {s : γ → δ → Prop}
  {first : Except ε α} {second : Except ε β}

theorem map (h : SameFailure r first second) {f : α → γ} {g : β → δ}
    (hfg : ∀ a b, r a b → s (f a) (g b)) : SameFailure s (first.map f) (second.map g) := by
  cases h with
  | error e => exact .error e
  | ok hr => exact .ok (hfg _ _ hr)

theorem mapError (h : SameFailure r first second) (f : ε → ε') :
    SameFailure r (first.mapError f) (second.mapError f) := by
  cases h with
  | error e => exact .error (f e)
  | ok hr => exact .ok hr

theorem bind (h : SameFailure r first second) {f : α → Except ε γ} {g : β → Except ε δ}
    (hfg : ∀ a b, r a b → SameFailure s (f a) (g b)) :
    SameFailure s (first >>= f) (second >>= g) := by
  cases h with
  | error e => exact .error e
  | ok hr => exact hfg _ _ hr

theorem refl {r : α → α → Prop} (hr : ∀ a, r a a) (value : Except ε α) :
    SameFailure r value value := by
  cases value with
  | error e => exact .error e
  | ok a => exact .ok (hr a)

end SameFailure

namespace Form

/-- Whatever the two come to, both are encoded or neither is, for the same reason. -/
abbrev SameFault : Except Unencodable Text → Except Unencodable Text → Prop :=
  SameFailure fun _ _ => True

/-- Two fields that encoding meets alike. -/
def FieldsAlike (first second : Text × Text) : Prop :=
  SameFault (encodeField first) (encodeField second)

theorem fieldsAlike_refl (field : Text × Text) : FieldsAlike field field :=
  .refl (fun _ => trivial) _

theorem fieldsAlike_of_isEncodable {name first second : Text} (hn : Utf8.IsEncodable name)
    (hf : Utf8.IsEncodable first) (hs : Utf8.IsEncodable second) :
    FieldsAlike (name, first) (name, second) := by
  have hencode {value : Text} (hv : Utf8.IsEncodable value) :
      ∃ part, encodeField (name, value) = .ok part := by
    obtain ⟨part, hp⟩ := component_of_isEncodable hn
    obtain ⟨shown, hshown⟩ := component_of_isEncodable hv
    exact ⟨_, encodeField_eq_ok_iff.2 ⟨part, shown, hp, hshown, rfl⟩⟩
  obtain ⟨part, hp⟩ := hencode hf
  obtain ⟨other, ho⟩ := hencode hs
  rw [FieldsAlike, hp, ho]
  exact .ok trivial

/-- Forms whose fields are met alike, one by one, are met alike. -/
theorem sameFault_encode {first second : Fields} (h : List.Forall₂ FieldsAlike first second) :
    SameFault (encode first) (encode second) := by
  have hmap : SameFailure (fun _ _ => True) (first.mapM encodeField)
      (second.mapM encodeField) := by
    induction h with
    | nil => exact .ok trivial
    | cons hnow _ ih =>
      rw [List.mapM_cons, List.mapM_cons]
      apply hnow.bind
      intro part other _
      apply ih.bind
      intro parts others _
      exact .ok trivial
  exact hmap.map fun _ _ _ => trivial

end Form

structure Letter.Alike (first second : Letter) : Prop where
  url : first.url = second.url
  form : Form.SameFault (Form.encode first.form) (Form.encode second.form)

structure Delivery.Alike (first second : Delivery) : Prop where
  answer : first.answer = second.answer
  log : first.log = second.log
  script : first.script = second.script

/-- Attempts show of their post where it goes. -/
theorem Delivery.attempts_alike {first second : Post} (hu : first.url = second.url)
    (total left : Nat) (script : Script) :
    (attempts first total left script).Alike (attempts second total left script) := by
  induction left generalizing script with
  | zero =>
    rw [attempts, attempts, hu]
    exact ⟨rfl, rfl, rfl⟩
  | succ left ih =>
    simp only [attempts, hu]
    cases script.play.1 with
    | response response => exact ⟨rfl, rfl, rfl⟩
    | fault fault reason =>
      cases hf : fault.family with
      | rejection =>
        simp only [hf]
        exact ⟨rfl, rfl, rfl⟩
      | defect kind =>
        simp only [hf]
        exact ⟨rfl, rfl, rfl⟩
      | connectivity =>
        obtain ⟨hanswer, hlog, hscript⟩ := ih script.play.2
        simp only [hf, attemptFailed, hu, hlog]
        exact ⟨hanswer, rfl, hscript⟩

theorem Policy.deliver_alike (policy : Policy) {first second : Letter} (h : first.Alike second)
    (script : Script) : (policy.deliver first script).Alike (policy.deliver second script) := by
  have hpost : SameFailure (fun made other : Post => made.url = other.url) (policy.post first)
      (policy.post second) := h.form.map fun _ _ _ => h.url
  unfold deliver
  generalize policy.post first = made at hpost ⊢
  generalize policy.post second = other at hpost ⊢
  cases hpost with
  | error fault => exact ⟨rfl, rfl, rfl⟩
  | ok hu =>
    simp only [attempt]
    split
    · exact ⟨rfl, rfl, rfl⟩
    · rw [hu]
      exact ⟨rfl, rfl, rfl⟩
    · exact Delivery.attempts_alike hu _ _ script

end OneTimeCode
