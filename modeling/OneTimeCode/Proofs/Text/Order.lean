import Mathlib.Data.List.Lex
import OneTimeCode.Text.Basic

/-!
# The order of texts

Code points are ordered by their numbers and texts like the words of a dictionary. Of two different
texts exactly one precedes the other.
-/
namespace OneTimeCode

theorem CodePoint.isStrictTotalOrder :
    IsStrictTotalOrder CodePoint (· < ·) where
  irrefl a := Nat.lt_irrefl a.toNat
  trans _ _ _ := Nat.lt_trans
  trichotomous _ _ hab hba :=
    toNat_injective (Nat.le_antisymm (Nat.not_lt.1 hba) (Nat.not_lt.1 hab))

theorem isStrictTotalOrder_lex {α : Type} {r : α → α → Prop} (h : IsStrictTotalOrder α r) :
    IsStrictTotalOrder (List α) (List.Lex r) where
  irrefl := List.lex_irrefl h.irrefl
  trans _ _ _ := List.lex_trans (fun hab hbc => h.trans _ _ _ hab hbc)
  trichotomous := (List.Lex.trichotomous r).trichotomous

namespace Text

theorem precedes_iff {a b : Text} : precedes a b = true ↔ List.Lex (· < ·) a b := by
  rw [precedes, decide_eq_true_eq]
  rfl

theorem isStrictTotalOrder : IsStrictTotalOrder Text (fun a b => precedes a b = true) := by
  simp only [precedes_iff]
  exact isStrictTotalOrder_lex CodePoint.isStrictTotalOrder

end Text
end OneTimeCode
