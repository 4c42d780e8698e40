import GatewayCheck.Checker
import GatewayCheck.Proofs.Except
import GatewayCheck.Proofs.Schema.Evaluation

/-!
Checkers. The structure of a document is right exactly when its schema accepts it.
-/
namespace GatewayCheck.Checker

variable {checker : Checker} {document : Json}

/-- The structure of a document is right exactly when the schema accepts the document. -/
theorem checkStructure_eq_ok :
    checker.checkStructure document = .ok () ↔ checker.fragment.accepts document = true := by
  rw [Fragment.accepts, ← Schema.Compiled.violations_isEmpty, checkStructure, Fragment.violations]
  cases checker.fragment.compiled.violations document <;> simp

/-- A checker accepts a document exactly when its structure is right and every rule passes. -/
theorem check_eq_ok :
    checker.check document = .ok () ↔ checker.checkStructure document = .ok () ∧
      Rule.checkAll checker.setting document checker.kind.rules = .ok () := by
  rw [check, Except.bind_eq_ok]
  exact ⟨fun ⟨_, structured, passed⟩ => ⟨structured, passed⟩,
    fun ⟨structured, passed⟩ => ⟨(), structured, passed⟩⟩

/-- Once the structure is right, the rules decide. -/
theorem check_of_structure (right : checker.checkStructure document = .ok ()) :
    checker.check document = Rule.checkAll checker.setting document checker.kind.rules := by
  rw [check, right]
  rfl

/-- A document whose structure is not right is rejected for its structure. -/
theorem check_of_refused (wrong : checker.checkStructure document ≠ .ok ()) :
    ∃ first others, checker.check document = .error (.structural first others) := by
  rw [check]
  cases found : checker.fragment.violations document with
  | nil => exact absurd (by rw [checkStructure, found]) wrong
  | cons first others =>
    exact ⟨_, _, by rw [checkStructure, found]; rfl⟩

end GatewayCheck.Checker
