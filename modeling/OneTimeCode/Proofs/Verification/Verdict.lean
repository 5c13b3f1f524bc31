import OneTimeCode.Verification.Handling
import OneTimeCode.Proofs.Json.Display
import OneTimeCode.Proofs.Number.Integer

/-!
# What responses say

A response approves a verification, names the identifier of a new one, or overflows: it is a failure
whose status or code is infinite. These are statements about its status, its media type and the
members of its body, and the handling of answers is shown to follow them: a call ends with an error
exactly if the response overflows, and with an approval or an identifier exactly if the response
approves or names it.
-/
namespace OneTimeCode
open Text

/-- The whole number that a value stands for. The fraction of a number is cut off, and a text has to
spell the number; nothing else stands for one. -/
inductive Json.StandsFor : Json → Int → Prop
  | int (n : Int) : StandsFor (.int n) n
  | float (negative : Bool) (steps : Nat) : StandsFor (.float (.finite negative steps))
      (if negative then -(steps / Binary64.stepsPerUnit : Nat)
        else (steps / Binary64.stepsPerUnit : Nat))
  | text {t : Text} {n : Int} (h : Integer.Spells t n) : StandsFor (.text t) n

namespace Response

def Succeeds (response : Response) : Prop := 200 ≤ response.http ∧ response.http < 300

instance (response : Response) : Decidable response.Succeeds :=
  inferInstanceAs (Decidable (_ ∧ _))

/-- The response declares JSON, and its body is an object with these members. -/
structure Lists (response : Response) (members : List (Text × Json)) : Prop where
  declared : ∃ given, response.header? "Content-Type" = some given ∧
    lower (trim (before ';' given)) = jsonType
  body : Json.read? response.body = some (.object members)

def HasMember (response : Response) (name : Text) (value : Json) : Prop :=
  ∃ members, response.Lists members ∧ Named.get? name members = some value

def HasNumber (response : Response) (name : Text) (n : Int) : Prop :=
  ∃ value, response.HasMember name value ∧ value.StandsFor n

structure Approves (response : Response) : Prop where
  succeeds : response.Succeeds
  status : ∃ given, response.HasMember "status" (.text given) ∧ trim given = Reply.approved

/-- The response names the identifier of a new verification: the text of any value but null. -/
structure Names (response : Response) (id : Text) : Prop where
  succeeds : response.Succeeds
  member : ∃ given, response.HasMember "sid" given ∧ given ≠ .null ∧ trim given.display = id
  notBlank : id ≠ []

/-- The failure has an infinite number for its status or code. -/
structure Overflows (response : Response) : Prop where
  fails : ¬ response.Succeeds
  member : ∃ negative, response.HasMember "status" (.float (.infinity negative)) ∨
    response.HasMember "code" (.float (.infinity negative))

theorem isSuccess_iff (response : Response) : response.isSuccess = true ↔ response.Succeeds := by
  simp [isSuccess, Succeeds]

theorem isJson_iff (response : Response) : response.isJson = true ↔
    ∃ given, response.header? "Content-Type" = some given ∧
      lower (trim (before ';' given)) = jsonType := by
  have hempty : lower (trim (before ';' [])) ≠ jsonType := by decide
  unfold isJson mediaType?
  rw [decide_eq_true_eq]
  cases response.header? "Content-Type" with
  | none => simp
  | some given =>
    cases given with
    | nil => simp [hempty]
    | cons c rest => simp

theorem members_eq (response : Response) : ∃ members, response.members.1 = .object members ∧
    ∀ name value, response.HasMember name value ↔ Named.get? name members = some value := by
  have hnone (h : ∀ members, ¬ response.Lists members) (name : Text) (value : Json) :
      response.HasMember name value ↔ Named.get? name [] = some value := by
    constructor
    · rintro ⟨members, hl, -⟩
      exact absurd hl (h members)
    · rintro h
      cases h
  unfold members
  split
  · next hj =>
    have hd := (isJson_iff response).1 hj
    unfold object
    split
    · next hr =>
      refine ⟨[], rfl, hnone fun members hl => ?_⟩
      rw [hl.body] at hr
      cases hr
    · next members hr =>
      refine ⟨members, rfl, fun name value => ⟨?_, fun h => ⟨members, ⟨hd, hr⟩, h⟩⟩⟩
      rintro ⟨others, hl, h⟩
      rw [hl.body] at hr
      cases hr
      exact h
    · next value hne hr =>
      refine ⟨[], rfl, hnone fun members hl => ?_⟩
      rw [hl.body] at hr
      cases hr
      exact hne members rfl
  · next hj =>
    exact ⟨[], rfl, hnone fun members hl => hj ((isJson_iff response).2 hl.declared)⟩

end Response

namespace Reply

theorem textMember_eq_some_iff {name : Text} {members : List (Text × Json)} {t : Text} :
    textMember name (.object members) = some t ↔ ∃ given, Named.get? name members = some given ∧
      given ≠ .null ∧ trim given.display = t ∧ t ≠ [] := by
  rw [textMember, Json.member?_object]
  cases Named.get? name members with
  | none => simp
  | some given =>
    cases given with
    | null => simp
    | _ =>
      simp only [Option.getD_some, Option.some.injEq, exists_eq_left', ne_eq, reduceCtorEq,
        not_false_eq_true, true_and, List.isEmpty_iff]
      split
      · next he =>
        rw [he]
        simp [eq_comm]
      · next he =>
        rw [Option.some.injEq]
        exact ⟨fun h => ⟨h, h ▸ he⟩, fun h => h.1⟩

theorem wholeNumber_eq_error_iff {value : Json} {e : ReplyError} :
    wholeNumber value = .error e ↔ ∃ negative, value = .float (.infinity negative) := by
  cases e
  cases value with
  | float x => cases x <;> simp [wholeNumber, Binary64.wholePart]
  | _ => simp [wholeNumber]

theorem wholeNumber_eq_some_iff {value : Json} {n : Int} :
    wholeNumber value = .ok (some n) ↔ value.StandsFor n := by
  constructor
  · intro h
    cases value with
    | int =>
      cases h
      exact .int n
    | float x =>
      cases x with
      | finite negative steps =>
        cases h
        exact .float negative steps
      | nan => cases h
      | infinity => cases h
    | text t =>
      have hread : (Integer.read t).toOption = some n := Except.ok.inj h
      cases hr : Integer.read t with
      | error e =>
        rw [hr] at hread
        cases hread
      | ok found =>
        rw [hr] at hread
        cases hread
        exact .text (Integer.read_eq_ok_iff.1 hr)
    | null | bool | list | object => cases h
  · intro h
    cases h with
    | int => rfl
    | float => rfl
    | text h => rw [wholeNumber, Integer.read_eq_ok_iff.2 h]; rfl

theorem numberMember_eq_error_iff {name : Text} {members : List (Text × Json)} {e : ReplyError} :
    numberMember name (.object members) = .error e ↔
      ∃ negative, Named.get? name members = some (.float (.infinity negative)) := by
  rw [numberMember, Json.member?_object, wholeNumber_eq_error_iff]
  cases Named.get? name members <;> simp

end Reply

namespace Response

/-- The number that is read from a member, if any is, is the one that the member stands for. -/
theorem numberMember_eq_some_iff {response : Response} {name : Text} {n : Int} :
    Reply.numberMember name response.members.1 = .ok (some n) ↔ response.HasNumber name n := by
  obtain ⟨members, hm, hget⟩ := members_eq response
  simp only [hm, Reply.numberMember, Json.member?_object, HasNumber, hget]
  cases Named.get? name members with
  | none => simp [Reply.wholeNumber]
  | some value => simp [Reply.wholeNumber_eq_some_iff]

theorem reading_reply_of_succeeds {response : Response} (h : response.Succeeds) :
    ∃ id status, response.reading.reply = .ok (.success id status response.http) ∧
      (∀ t, id = some t ↔ response.Names t) ∧
      (status = some Reply.approved ↔ response.Approves) := by
  obtain ⟨members, hm, hget⟩ := members_eq response
  refine ⟨Reply.textMember "sid" (.object members), Reply.textMember "status" (.object members),
    ?_, ?_, ?_⟩
  · show response.replyOf response.members.1 = _
    rw [hm, replyOf, if_pos ((isSuccess_iff response).2 h)]
  · intro t
    rw [Reply.textMember_eq_some_iff]
    constructor
    · rintro ⟨given, hg, hn, ht, hne⟩
      exact ⟨h, ⟨given, (hget _ _).2 hg, hn, ht⟩, hne⟩
    · rintro ⟨-, ⟨given, hg, hn, ht⟩, hne⟩
      exact ⟨given, (hget _ _).1 hg, hn, ht, hne⟩
  · rw [Reply.textMember_eq_some_iff]
    constructor
    · rintro ⟨given, hg, -, ht, -⟩
      -- no value but a text is shown by a word that starts with this letter
      obtain ⟨t, rfl, htrim⟩ := Json.text_of_trim_display ht (by decide)
      exact ⟨h, t, (hget _ _).2 hg, htrim⟩
    · rintro ⟨-, t, hg, ht⟩
      exact ⟨.text t, (hget _ _).1 hg, by simp, ht, by decide⟩

theorem reading_reply_of_fails {response : Response} (h : ¬ response.Succeeds) :
    response.Overflows ∧ response.reading.reply = .error .infiniteNumber ∨
      ¬ response.Overflows ∧ ∃ status code message,
        response.reading.reply = .ok (.failure status code message response.http) ∧
        (∀ n, status = some n ↔ response.HasNumber "status" n) ∧
        ∀ n, code = some n ↔ response.HasNumber "code" n := by
  obtain ⟨members, hm, hget⟩ := members_eq response
  have hr : response.reading.reply = response.replyOf (.object members) := by rw [← hm]; rfl
  rw [hr, replyOf, if_neg fun hs => h ((isSuccess_iff response).1 hs)]
  cases hs : Reply.numberMember "status" (.object members) with
  | error e =>
    obtain ⟨negative, hg⟩ := Reply.numberMember_eq_error_iff.1 hs
    exact .inl ⟨⟨h, negative, .inl ((hget _ _).2 hg)⟩, by cases e; rfl⟩
  | ok status =>
    cases hc : Reply.numberMember "code" (.object members) with
    | error e =>
      obtain ⟨negative, hg⟩ := Reply.numberMember_eq_error_iff.1 hc
      exact .inl ⟨⟨h, negative, .inr ((hget _ _).2 hg)⟩, by cases e; rfl⟩
    | ok code =>
      have hnumber {name : Text} {found : Option Int}
          (h : Reply.numberMember name (.object members) = .ok found) (n : Int) :
          found = some n ↔ response.HasNumber name n := by
        rw [← numberMember_eq_some_iff, hm, h, Except.ok.injEq]
      refine .inr ⟨?_, status, code, _, rfl, hnumber hs, hnumber hc⟩
      rintro ⟨-, negative, hg | hg⟩
      · have he : Reply.numberMember "status" (.object members) = .error .infiniteNumber :=
          Reply.numberMember_eq_error_iff.2 ⟨negative, (hget _ _).1 hg⟩
        rw [hs] at he
        cases he
      · have he : Reply.numberMember "code" (.object members) = .error .infiniteNumber :=
          Reply.numberMember_eq_error_iff.2 ⟨negative, (hget _ _).1 hg⟩
        rw [hc] at he
        cases he

end Response

def Purpose.failed : Purpose → CallResult
  | .code _ => .sent none
  | .approval _ _ => .confirmed false

/-- Whether a result is of the kind that a call waits for. -/
def Purpose.Accepts : Purpose → CallResult → Prop
  | .code _, .sent _ => True
  | .approval _ _, .confirmed _ => True
  | _, _ => False

namespace Purpose

theorem accepts_failed (purpose : Purpose) : purpose.Accepts purpose.failed := by
  cases purpose <;> trivial

theorem handle_error (purpose : Purpose) (error : TransportError) :
    (purpose.handle (.error error)).result = .ok purpose.failed := by
  cases purpose <;> rfl

theorem result_ofResponse {α : Type} (response : Response) (next : Reply → List Effect × α) :
    (Handling.ofResponse response next).result =
      response.reading.reply.map fun r => (next r).2 := by
  unfold Handling.ofResponse
  cases hr : response.reading.reply with
  | error e => simp [hr, Except.map]
  | ok reply => simp [hr, Except.map]

/-- A response that does not overflow gives a result, any other gives an error. -/
theorem handle_response (purpose : Purpose) (response : Response) :
    response.Overflows ∧ (purpose.handle (.ok response)).result = .error .infiniteNumber ∨
      ¬ response.Overflows ∧ ∃ value, purpose.Accepts value ∧
        (purpose.handle (.ok response)).result = .ok value := by
  have hread : response.Overflows ∧ response.reading.reply = .error .infiniteNumber ∨
      ¬ response.Overflows ∧ ∃ reply, response.reading.reply = .ok reply := by
    by_cases hs : response.Succeeds
    · obtain ⟨id, status, hr, -, -⟩ := Response.reading_reply_of_succeeds hs
      exact .inr ⟨fun ho => ho.fails hs, _, hr⟩
    · rcases Response.reading_reply_of_fails hs with h | ⟨ho, status, code, message, hr, -⟩
      · exact .inl h
      · exact .inr ⟨ho, _, hr⟩
  rcases hread with ⟨ho, hr⟩ | ⟨ho, reply, hr⟩
  · left
    cases purpose <;> simp [handle, Handling.ofSend, Handling.ofConfirm, result_ofResponse, hr, ho,
      Except.map]
  · right
    refine ⟨ho, ?_⟩
    cases purpose <;> simp [handle, Handling.ofSend, Handling.ofConfirm, result_ofResponse, hr,
      Except.map, Accepts]

theorem handle_approval_eq_true_iff (agent context : Json) (response : Response) :
    ((approval agent context).handle (.ok response)).result = .ok (.confirmed true) ↔
      response.Approves := by
  show (Except.map CallResult.confirmed (Handling.ofResponse response _).result) = _ ↔ _
  rw [result_ofResponse]
  by_cases hs : response.Succeeds
  · obtain ⟨id, status, hr, -, ha⟩ := Response.reading_reply_of_succeeds hs
    rw [hr, ← ha]
    by_cases happroved : status = some Reply.approved <;>
      simp [Except.map, Reply.isApproved, happroved]
  · have hn : ¬ response.Approves := fun h => hs h.succeeds
    rcases Response.reading_reply_of_fails hs with ⟨-, hr⟩ | ⟨-, status, code, message, hr, -⟩
    · simp [hr, Except.map, hn]
    · simp [hr, Except.map, hn]

theorem handle_code_eq_some_iff (destination : Json) (response : Response) (id : Text) :
    ((code destination).handle (.ok response)).result = .ok (.sent (some id)) ↔
      response.Names id := by
  show (Except.map CallResult.sent (Handling.ofResponse response _).result) = _ ↔ _
  rw [result_ofResponse]
  by_cases hs : response.Succeeds
  · obtain ⟨found, status, hr, hi, -⟩ := Response.reading_reply_of_succeeds hs
    rw [hr, ← hi]
    simp [Except.map]
  · have hn : ¬ response.Names id := fun h => hs h.succeeds
    rcases Response.reading_reply_of_fails hs with ⟨-, hr⟩ | ⟨-, status, code, message, hr, -⟩
    · simp [hr, Except.map, hn]
    · simp [hr, Except.map, hn]

end Purpose
end OneTimeCode
