import Mathlib.Data.Prod.Basic
import OneTimeCode.Counter
import OneTimeCode.Proofs.Text.Order

/-!
# The order of counters

Tags are ordered by name and value, lists of tags like the words of a dictionary, and counters by
name and tags. Of two different counters exactly one precedes the other.
-/
namespace OneTimeCode

theorem isStrictTotalOrder_prodLex {α β : Type} {r : α → α → Prop} {s : β → β → Prop}
    (hr : IsStrictTotalOrder α r) (hs : IsStrictTotalOrder β s) :
    IsStrictTotalOrder (α × β) (Prod.Lex r s) where

namespace Tag

theorem precedes_iff {a b : Tag} : precedes a b = true ↔
    Prod.Lex (fun s t => Text.precedes s t = true) (fun s t => Text.precedes s t = true) a b := by
  simp [precedes, Prod.lex_def]

theorem isStrictTotalOrder : IsStrictTotalOrder Tag (fun a b => precedes a b = true) := by
  simp only [precedes_iff]
  exact isStrictTotalOrder_prodLex Text.isStrictTotalOrder Text.isStrictTotalOrder

theorem listPrecedes_iff {as bs : List Tag} :
    listPrecedes as bs = true ↔ List.Lex (fun a b => precedes a b = true) as bs := by
  induction as generalizing bs with
  | nil => cases bs <;> simp [listPrecedes]
  | cons a as ih =>
    cases bs with
    | nil => simp [listPrecedes]
    | cons b bs => simp [listPrecedes, List.cons_lex_cons_iff, ih]

end Tag

namespace CounterKey

theorem precedes_iff {a b : CounterKey} : precedes a b = true ↔
    Prod.Lex (fun s t => Text.precedes s t = true)
      (List.Lex fun s t => Tag.precedes s t = true) (a.name, a.tags) (b.name, b.tags) := by
  simp [precedes, Prod.lex_def, Tag.listPrecedes_iff]

theorem isStrictTotalOrder :
    IsStrictTotalOrder CounterKey (fun a b => precedes a b = true) := by
  have hinj : Function.Injective fun key : CounterKey => (key.name, key.tags) := by
    rintro ⟨name, tags⟩ ⟨other, others⟩ h
    cases h
    rfl
  have htotal := isStrictTotalOrder_prodLex Text.isStrictTotalOrder
    (isStrictTotalOrder_lex Tag.isStrictTotalOrder)
  simp only [precedes_iff]
  exact hinj.isStrictTotalOrder_onFun (r := Prod.Lex _ (List.Lex _))

end CounterKey
end OneTimeCode
