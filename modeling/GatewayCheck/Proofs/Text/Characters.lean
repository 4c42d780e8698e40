import Mathlib.Data.Nat.Digits.Defs

/-!
Letters, digits and their numbers.
-/
namespace GatewayCheck.Text

variable {character : Char}

/-- The numbers of the digits. -/
theorem isDigit_iff : character.isDigit = true ↔ 48 ≤ character.toNat ∧ character.toNat ≤ 57 := by
  rw [Char.isDigit, Bool.and_eq_true, decide_eq_true_eq, decide_eq_true_eq]
  exact Iff.rfl

/-- The numbers of the letters and digits. -/
theorem isAlphanum_iff : character.isAlphanum = true ↔
    (65 ≤ character.toNat ∧ character.toNat ≤ 90) ∨ (97 ≤ character.toNat ∧ character.toNat ≤ 122) ∨
      (48 ≤ character.toNat ∧ character.toNat ≤ 57) := by
  show ((decide (_ ∧ _) || (decide _ && decide _)) || character.isDigit) = true ↔ _
  rw [Bool.or_eq_true, Bool.or_eq_true, Bool.and_eq_true, isDigit_iff, or_assoc]
  simp only [decide_eq_true_eq]
  exact Iff.rfl

end GatewayCheck.Text
