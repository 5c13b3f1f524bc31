import Mathlib.Data.List.Nodup
import OneTimeCode.Offline

/-!
# The offline provider over a run

Whatever an offline provider was asked, the identifiers that are pending are those that it issued
and that nobody has confirmed since, so each of them is approved once. What it issues is new as long
as its marks differ.
-/
namespace OneTimeCode

structure Exchange where
  call : Call
  answer : Except Mismatch CallResult

namespace Exchange

def Issues (exchange : Exchange) (id : Text) : Prop :=
  (∃ call, exchange.call = .send call) ∧ exchange.answer = .ok (.sent (some id))

def Confirms (exchange : Exchange) (id : Text) : Prop :=
  ∃ call : ConfirmCall, exchange.call = .confirm call ∧ call.id = .text id

theorem issues_issue_iff {call : SendCall} {id other : Text} :
    Issues ⟨.send call, .ok (.sent (some id))⟩ other ↔ other = id := by
  constructor
  · rintro ⟨-, ha⟩
    cases ha
    rfl
  · rintro rfl
    exact ⟨⟨call, rfl⟩, rfl⟩

theorem not_issues_confirm {call : ConfirmCall} {answer : Except Mismatch CallResult} {id : Text} :
    ¬ Issues ⟨.confirm call, answer⟩ id := by
  rintro ⟨⟨send, hc⟩, -⟩
  cases hc

theorem not_confirms_send {call : SendCall} {answer : Except Mismatch CallResult} {id : Text} :
    ¬ Confirms ⟨.send call, answer⟩ id := by
  rintro ⟨confirm, hc, -⟩
  cases hc

theorem confirms_confirm_iff {call : ConfirmCall} {answer : Except Mismatch CallResult}
    {id : Text} : Confirms ⟨.confirm call, answer⟩ id ↔ call.id = .text id := by
  constructor
  · rintro ⟨confirm, hc, hid⟩
    cases hc
    exact hid
  · exact fun hid => ⟨call, rfl, hid⟩

/-- The identifier was issued, and nobody has confirmed it since. -/
def IsOpen (history : List Exchange) (id : Text) : Prop :=
  ∃ earlier issue later, history = earlier ++ issue :: later ∧ issue.Issues id ∧
    ∀ exchange ∈ later, ¬ exchange.Confirms id

theorem not_isOpen_nil (id : Text) : ¬ IsOpen [] id := by
  rintro ⟨earlier, issue, later, h, -⟩
  exact absurd h.symm (by simp)

theorem isOpen_concat (history : List Exchange) (exchange : Exchange) (id : Text) :
    IsOpen (history ++ [exchange]) id ↔
      exchange.Issues id ∨ IsOpen history id ∧ ¬ exchange.Confirms id := by
  constructor
  · rintro ⟨earlier, issue, later, h, hi, hl⟩
    rcases List.eq_nil_or_concat later with rfl | ⟨others, last, rfl⟩
    · obtain ⟨-, hlast⟩ := List.append_inj' h rfl
      cases hlast
      exact .inl hi
    · rw [List.concat_eq_append, ← List.cons_append, ← List.append_assoc] at h
      obtain ⟨rfl, hlast⟩ := List.append_inj' h rfl
      cases hlast
      right
      refine ⟨⟨earlier, issue, others, rfl, hi, fun e he => hl e (by simp [he])⟩, ?_⟩
      exact hl exchange (by simp)
  · rintro (hi | ⟨⟨earlier, issue, later, rfl, hi, hl⟩, hc⟩)
    · exact ⟨history, exchange, [], rfl, hi, by simp⟩
    · refine ⟨earlier, issue, later ++ [exchange], by simp, hi, ?_⟩
      intro e he
      rcases List.mem_append.1 he with he | he
      · exact hl e he
      · rw [List.mem_singleton.1 he]
        exact hc

/-- Whatever is open has been issued. -/
theorem IsOpen.issued {history : List Exchange} {id : Text} (h : IsOpen history id) :
    ∃ exchange ∈ history, exchange.Issues id := by
  obtain ⟨earlier, issue, later, rfl, hi, -⟩ := h
  exact ⟨issue, by simp, hi⟩

end Exchange

namespace Offline
open Exchange

def serve (provider : Offline) : List Call → List Exchange × Offline
  | [] => ([], provider)
  | call :: rest =>
    let (answer, _, next) := provider.call call
    let (history, last) := next.serve rest
    (⟨call, answer⟩ :: history, last)

/-! ## Single calls -/

theorem fails_iff (provider : Offline) (key : Scalar) :
    provider.fails key = true ↔ key ∈ provider.failing ∧ key ≠ .unlimited .nan := by
  simp [fails, and_comm]

theorem send_of_fails {provider : Offline} {destination : Json} {key : Scalar}
    (hk : destination.requireScalar = .ok key) (hf : provider.fails key = true) :
    provider.send destination = (.ok (.sent none), provider) := by
  simp only [send, hk, hf, if_true]

theorem send_of_not_fails {provider : Offline} {destination : Json} {key : Scalar}
    (hk : destination.requireScalar = .ok key) (hf : ¬ provider.fails key = true) :
    provider.send destination =
      (.ok (.sent (some (provider.identifier (provider.issued + 1)))),
        { provider with
          issued := provider.issued + 1
          pending := provider.pending ++ [provider.identifier (provider.issued + 1)] }) := by
  simp only [send, hk, if_neg hf]

theorem send_of_error {provider : Offline} {destination : Json} {reason : Mismatch}
    (hk : destination.requireScalar = .error reason) :
    provider.send destination = (.error reason, provider) := by
  simp only [send, hk]

theorem receipts_send (provider : Offline) (destination : Json) :
    (provider.send destination).2.receipts = provider.receipts := by
  cases hk : destination.requireScalar with
  | error reason => rw [send_of_error hk]
  | ok key =>
    by_cases hf : provider.fails key = true
    · rw [send_of_fails hk hf]
    · rw [send_of_not_fails hk hf]

theorem confirm_text (provider : Offline) (id : Text) : provider.confirm (.text id) =
    (.ok (.confirmed (decide (id ∈ provider.pending))),
      { provider with pending := provider.pending.erase id }) := by
  unfold confirm
  by_cases hm : id ∈ provider.pending
  · have hne : provider.pending.isEmpty = false := by
      rw [List.isEmpty_eq_false_iff]
      exact List.ne_nil_of_mem hm
    have hnamed : provider.named? (.text id) = some id := by simp [named?, hm]
    simp [hne, hnamed, hm, Json.requireScalar, Json.scalar?]
  · have hnamed : provider.named? (.text id) = none := by simp [named?, hm]
    have hsame : { provider with pending := provider.pending.erase id } = provider := by
      rw [List.erase_of_not_mem hm]
    rw [hsame]
    split
    · simp [hm]
    · simp [hnamed, hm, Json.requireScalar, Json.scalar?]

theorem confirm_of_not_text (provider : Offline) {id : Json} (h : ∀ t, id ≠ .text t) :
    (provider.confirm id).2 = provider ∧ (provider.confirm id).1 ≠ .ok (.confirmed true) := by
  have hnamed : provider.named? id = none := by
    cases id with
    | text t => exact absurd rfl (h t)
    | _ => rfl
  unfold confirm
  split
  · exact ⟨rfl, by simp⟩
  · rw [hnamed]
    split
    · exact ⟨rfl, by simp⟩
    · exact ⟨rfl, by simp⟩
    · next hn => cases hn

/-- Receipts change no answer. -/
theorem send_receive (provider : Offline) (receipt : Receipt) (destination : Json) :
    (provider.receive receipt).send destination =
      ((provider.send destination).1, (provider.send destination).2.receive receipt) := by
  cases hk : destination.requireScalar with
  | error reason => rw [send_of_error hk, send_of_error hk]
  | ok key =>
    by_cases hf : provider.fails key = true
    · rw [send_of_fails hk hf]
      exact send_of_fails hk hf
    · rw [send_of_not_fails hk hf]
      exact send_of_not_fails hk hf

theorem confirm_receive (provider : Offline) (receipt : Receipt) (id : Json) :
    (provider.receive receipt).confirm id =
      ((provider.confirm id).1, (provider.confirm id).2.receive receipt) := by
  have hpending : (provider.receive receipt).pending = provider.pending := rfl
  have hnamed : (provider.receive receipt).named? id = provider.named? id := rfl
  rw [confirm, confirm, hpending, hnamed]
  split
  · rfl
  · cases id.requireScalar with
    | error reason => rfl
    | ok key => cases provider.named? id <;> rfl

theorem call_send (provider : Offline) (call : SendCall) : provider.call (.send call) =
    ((provider.send call.destination).1, .of (.send call),
      (provider.send call.destination).2.receive (.of (.send call))) := by
  simp only [Offline.call, send_receive]

theorem receipts_call_send (provider : Offline) (call : SendCall) :
    (provider.call (.send call)).2.2.receipts =
      provider.receipts ++ [.code call (Receipt.localeFor call.ranges)] := by
  rw [call_send]
  show (provider.send call.destination).2.receipts ++ _ = _
  rw [receipts_send]
  rfl

theorem answer_send_text (provider : Offline) {call : SendCall} {destination : Text}
    (h : call.destination = .text destination) :
    ∃ id, (provider.call (.send call)).1 = .ok (.sent id) := by
  rw [call_send, h]
  by_cases hf : provider.fails (.text destination) = true
  · exact ⟨none, congrArg Prod.fst (send_of_fails rfl hf)⟩
  · exact ⟨_, congrArg Prod.fst (send_of_not_fails rfl (by simpa using hf))⟩

theorem call_confirm (provider : Offline) (call : ConfirmCall) : provider.call (.confirm call) =
    ((provider.confirm call.id).1, .of (.confirm call),
      (provider.confirm call.id).2.receive (.of (.confirm call))) := by
  simp only [Offline.call, confirm_receive]

/-! ## Runs -/

/-- The first marks all differ; they are numbered from one on. -/
def Distinct (mark : Nat → Text) (count : Nat) : Prop :=
  ∀ j ≤ count, ∀ i < j, 0 < i → mark i ≠ mark j

/-- What the state of a provider says about the exchanges that led to it. -/
structure Accounts (failing : List Scalar) (mark : Nat → Text) (history : List Exchange)
    (provider : Offline) : Prop where
  failing : provider.failing = failing
  mark : provider.mark = mark
  pending : ∀ id, id ∈ provider.pending ↔ IsOpen history id
  nodup : provider.pending.Nodup
  issued : ∀ exchange ∈ history, ∀ id, exchange.Issues id →
    ∃ n, 0 < n ∧ n ≤ provider.issued ∧ id = provider.identifier n
  bounded : provider.issued ≤ history.length
  receipts : provider.receipts = history.map fun exchange => Receipt.of exchange.call

theorem accounts_fresh (failing : List Scalar) (mark : Nat → Text) :
    Accounts failing mark [] { failing, mark } where
  failing := rfl
  mark := rfl
  pending id := iff_of_false List.not_mem_nil (not_isOpen_nil id)
  nodup := List.nodup_nil
  issued _ h := absurd h List.not_mem_nil
  bounded := Nat.le_refl 0
  receipts := rfl

section
variable {failing : List Scalar} {mark : Nat → Text} {history : List Exchange} {provider : Offline}

/-- The next identifier is none of those before. -/
theorem Accounts.identifier_fresh (h : Accounts failing mark history provider)
    (hd : Distinct mark (history.length + 1)) {exchange : Exchange} (he : exchange ∈ history) :
    ¬ exchange.Issues (provider.identifier (provider.issued + 1)) := by
  intro hi
  obtain ⟨n, hpos, hle, hsame⟩ := h.issued exchange he _ hi
  have hmark : mark (provider.issued + 1) = mark n := by
    rw [← h.mark]
    exact List.append_cancel_left hsame
  exact hd _ (Nat.succ_le_succ h.bounded) n (Nat.lt_succ_of_le hle) hpos hmark.symm

/-- A call that neither issues nor confirms anything leaves a receipt and nothing else. -/
theorem Accounts.received (h : Accounts failing mark history provider) {exchange : Exchange}
    (hi : ∀ id, ¬ exchange.Issues id) (hc : ∀ id, ¬ exchange.Confirms id) :
    Accounts failing mark (history ++ [exchange])
      (provider.receive (.of exchange.call)) where
  failing := h.failing
  mark := h.mark
  pending id := by
    rw [isOpen_concat, ← h.pending, or_iff_right (hi id), and_iff_left (hc id)]
    exact Iff.rfl
  nodup := h.nodup
  issued := by
    intro e he id hid
    rcases List.mem_append.1 he with he | he
    · exact h.issued e he id hid
    · rw [List.mem_singleton.1 he] at hid
      exact absurd hid (hi id)
  bounded := by
    rw [List.length_append]
    exact Nat.le_add_right_of_le h.bounded
  receipts := by
    rw [List.map_append, ← h.receipts]
    rfl

theorem Accounts.issue (h : Accounts failing mark history provider)
    (hd : Distinct mark (history.length + 1)) (call : SendCall) :
    let id := provider.identifier (provider.issued + 1)
    Accounts failing mark (history ++ [⟨.send call, .ok (.sent (some id))⟩])
      ({ provider with issued := provider.issued + 1, pending := provider.pending ++ [id] }.receive
        (.of (.send call))) := by
  intro id
  constructor
  · exact h.failing
  · exact h.mark
  · intro other
    rw [isOpen_concat, ← h.pending, issues_issue_iff, and_iff_left not_confirms_send]
    show other ∈ provider.pending ++ [id] ↔ _
    rw [List.mem_append, List.mem_singleton]
    exact or_comm
  · apply List.nodup_append.2
    refine ⟨h.nodup, List.nodup_singleton id, ?_⟩
    intro other hother same hsame
    rw [List.mem_singleton.1 hsame]
    rintro rfl
    obtain ⟨e, he, hi⟩ := ((h.pending id).1 hother).issued
    exact h.identifier_fresh hd he hi
  · intro e he other hother
    rcases List.mem_append.1 he with he | he
    · obtain ⟨n, hpos, hle, hsame⟩ := h.issued e he other hother
      exact ⟨n, hpos, Nat.le_succ_of_le hle, hsame⟩
    · rw [List.mem_singleton.1 he, issues_issue_iff] at hother
      exact ⟨provider.issued + 1, Nat.succ_pos _, Nat.le_refl _, hother⟩
  · rw [List.length_append]
    exact Nat.succ_le_succ h.bounded
  · rw [List.map_append, ← h.receipts]
    rfl

theorem Accounts.confirm (h : Accounts failing mark history provider) {call : ConfirmCall}
    {id : Text} (hid : call.id = .text id) (answer : Except Mismatch CallResult) :
    Accounts failing mark (history ++ [⟨.confirm call, answer⟩])
      ({ provider with pending := provider.pending.erase id }.receive (.of (.confirm call))) := by
  constructor
  · exact h.failing
  · exact h.mark
  · intro other
    rw [isOpen_concat, ← h.pending, confirms_confirm_iff, hid, or_iff_right not_issues_confirm]
    show other ∈ provider.pending.erase id ↔ _
    rw [h.nodup.mem_erase_iff, Json.text.injEq, and_comm, ne_comm]
  · exact h.nodup.erase id
  · intro e he other hother
    rcases List.mem_append.1 he with he | he
    · exact h.issued e he other hother
    · rw [List.mem_singleton.1 he] at hother
      exact absurd hother not_issues_confirm
  · rw [List.length_append]
    exact Nat.le_add_right_of_le h.bounded
  · rw [List.map_append, ← h.receipts]
    rfl

theorem Accounts.call (h : Accounts failing mark history provider)
    (hd : Distinct mark (history.length + 1)) (call : Call) :
    Accounts failing mark (history ++ [⟨call, (provider.call call).1⟩])
      (provider.call call).2.2 := by
  cases call with
  | send call =>
    rw [call_send]
    cases hk : call.destination.requireScalar with
    | error reason =>
      rw [send_of_error hk]
      apply h.received _ fun _ => not_confirms_send
      rintro id ⟨-, ha⟩
      cases ha
    | ok key =>
      by_cases hf : provider.fails key = true
      · rw [send_of_fails hk hf]
        apply h.received _ fun _ => not_confirms_send
        rintro id ⟨-, ha⟩
        cases ha
      · rw [send_of_not_fails hk hf]
        exact h.issue hd call
  | confirm call =>
    rw [call_confirm]
    by_cases ht : ∃ t, call.id = .text t
    · obtain ⟨t, ht⟩ := ht
      rw [ht, confirm_text]
      exact h.confirm ht _
    · have hn (t : Text) : call.id ≠ .text t := fun he => ht ⟨t, he⟩
      rw [(provider.confirm_of_not_text hn).1]
      exact h.received (fun _ => not_issues_confirm) fun t => confirms_confirm_iff.not.2 (hn t)

theorem Accounts.serve (h : Accounts failing mark history provider) (calls : List Call)
    (hd : Distinct mark (history.length + calls.length)) :
    Accounts failing mark (history ++ (provider.serve calls).1) (provider.serve calls).2 := by
  induction calls generalizing history provider with
  | nil =>
    rw [Offline.serve, List.append_nil]
    exact h
  | cons call rest ih =>
    have hnow : Distinct mark (history.length + 1) := by
      intro j hj
      apply hd j
      rw [List.length_cons]
      omega
    have hrest : Distinct mark ((history ++ [Exchange.mk call (provider.call call).1]).length +
        rest.length) := by
      rw [List.length_append, List.length_singleton, Nat.add_assoc, Nat.add_comm 1]
      exact hd
    have hlast := ih (h.call hnow call) hrest
    rw [List.append_assoc] at hlast
    exact hlast

end

theorem calls_serve (provider : Offline) (calls : List Call) :
    (provider.serve calls).1.map (·.call) = calls := by
  induction calls generalizing provider with
  | nil => rfl
  | cons call rest ih => exact congrArg (call :: ·) (ih _)

/-- What a provider that fails for some destinations answers next. -/
structure Honours (failing : List Scalar) (history : List Exchange) (provider : Offline) :
    Prop where
  refuses (call : SendCall) (key : Scalar) : call.destination.requireScalar = .ok key →
    key ∈ failing ∧ key ≠ .unlimited .nan →
      (provider.call (.send call)).1 = .ok (.sent none) ∧
        (provider.call (.send call)).2.2.pending = provider.pending
  issues (call : SendCall) (key : Scalar) : call.destination.requireScalar = .ok key →
    ¬ (key ∈ failing ∧ key ≠ .unlimited .nan) → ∃ id : Text,
      (provider.call (.send call)).1 = .ok (.sent (some id)) ∧ ("VE" : Text) <+: id ∧
        (∀ exchange ∈ history, ¬ exchange.Issues id) ∧
        (provider.call (.send call)).2.2.pending = provider.pending ++ [id]
  approves (call : ConfirmCall) (id : Text) : call.id = .text id → ∃ approved,
    (provider.call (.confirm call)).1 = .ok (.confirmed approved) ∧
      (approved = true ↔ IsOpen history id)
  ranges (call : SendCall) (others : List RangeItem) :
    (provider.call (.send { call with ranges := others })).1 = (provider.call (.send call)).1 ∧
      (provider.call (.send { call with ranges := others })).2.2.pending =
        (provider.call (.send call)).2.2.pending

theorem Accounts.honours {failing : List Scalar} {mark : Nat → Text} {history : List Exchange}
    {provider : Offline} (h : Accounts failing mark history provider)
    (hd : Distinct mark (history.length + 1)) : Honours failing history provider where
  refuses call key hk hf := by
    rw [← h.failing, ← fails_iff] at hf
    rw [call_send, send_of_fails hk hf]
    exact ⟨rfl, rfl⟩
  issues call key hk hf := by
    rw [← h.failing, ← fails_iff] at hf
    rw [call_send, send_of_not_fails hk hf]
    exact ⟨_, rfl, List.prefix_append _ _, fun exchange he => h.identifier_fresh hd he, rfl⟩
  approves call id hid := by
    rw [call_confirm, hid, confirm_text]
    exact ⟨_, rfl, decide_eq_true_iff.trans (h.pending id)⟩
  ranges call others := by
    rw [call_send, call_send]
    exact ⟨rfl, rfl⟩

/-- After any calls a provider whose marks differ refuses a code for the destinations that were set
to fail, and issues a new identifier for any other; it approves an identifier exactly if it was
issued and nobody has confirmed it since. Ranges change nothing about this, and there is a receipt
for every call. -/
theorem honours_serve (failing : List Scalar) {mark : Nat → Text} (before : List Call)
    (hd : Distinct mark (before.length + 1)) :
    let served := serve { failing, mark } before
    Honours failing served.1 served.2 ∧ served.1.map (·.call) = before ∧
      served.2.receipts = before.map .of := by
  intro served
  have hcalls : served.1.map (·.call) = before := calls_serve ..
  have hlength : served.1.length = before.length := by rw [← hcalls, List.length_map]
  have haccounts : Accounts failing mark served.1 served.2 := by
    apply (accounts_fresh failing mark).serve before
    intro j hj
    apply hd j
    rw [List.length_nil] at hj
    omega
  refine ⟨haccounts.honours (hlength.symm ▸ hd), hcalls, ?_⟩
  rw [haccounts.receipts, ← hcalls, List.map_map]
  rfl

/-- One destination fails, the other gets an identifier that is confirmed. -/
theorem honours_serve_three :
    Distinct (Text.hex 32) 4 ∧
      let served := serve { failing := [.text "+2"] }
        [.sms (.text "+1") .null (.text "123456") [], .sms (.text "+2") .null (.text "123456") [],
          .confirm ⟨.text "VE00000000000000000000000000000001", .null, .null⟩]
      Honours [.text "+2"] served.1 served.2 ∧ served.1.map (·.answer) =
        [.ok (.sent (some "VE00000000000000000000000000000001")), .ok (.sent none),
          .ok (.confirmed true)] := by
  have hd : Distinct (Text.hex 32) 4 :=
    (by decide +kernel : ∀ j ≤ 4, ∀ i < j, 0 < i → Text.hex 32 i ≠ Text.hex 32 j)
  refine ⟨hd, (honours_serve [.text "+2"] _ hd).1, ?_⟩
  decide +kernel

end Offline
end OneTimeCode
