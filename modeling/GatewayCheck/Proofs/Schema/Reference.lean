import GatewayCheck.Schema.Reference

/-!
References with whole addresses. Such a reference leads to the same target from every document.
-/
namespace GatewayCheck.Schema.Target

/-- A text is split at its last separator. -/
theorem splitAtLast_append (separator : Char) (before : List Char) {after : List Char}
    (absent : separator ∉ after) :
    splitAtLast separator (before ++ separator :: after) = some (before, after) := by
  have last : (before ++ separator :: after).reverse.takeWhile (· ≠ separator) =
      after.reverse := by
    have kept : ∀ c ∈ after.reverse, decide (c ≠ separator) = true := by
      intro c listed
      simp only [List.mem_reverse] at listed
      exact decide_eq_true fun same => absent (same ▸ listed)
    rw [List.reverse_append, List.reverse_cons, List.append_assoc,
      List.takeWhile_append_of_pos kept]
    simp
  have shorter : after.reverse.length ≠ (before ++ separator :: after).length := by
    simp
    omega
  have length : (before ++ separator :: after).length - after.reverse.length - 1 =
      before.length := by
    simp
    omega
  simp only [splitAtLast, last, if_neg shorter, length, List.reverse_reverse, List.take_left]

/-- A reference with a whole address leads to a place in the document with that address. -/
theorem ofReference_absolute (base : Option String) {address place : String}
    (scheme : (Format.scheme? address.toList).any Format.isScheme = true)
    (foreign : address ≠ ownAddress) (first : address.toList.head? ≠ some '#')
    (absent : '#' ∉ place.toList) :
    ofReference base (address ++ "#" ++ place) = ⟨some address, place⟩ := by
  have written : (address ++ "#" ++ place).toList = address.toList ++ '#' :: place.toList := by
    simp
  have parts := splitAtLast_append '#' address.toList absent
  have base_free : addressFrom base address.toList = address := by
    rw [addressFrom, if_pos scheme, String.ofList_toList]
  rw [ofReference, written]
  split
  · rename_i rest same
    exfalso
    cases characters : address.toList with
    | nil => simp [characters, Format.scheme?] at scheme
    | cons head tail => simp_all
  · rw [parts, Option.getD_some]
    simp only [base_free, documentAt, if_neg foreign, String.ofList_toList]

end GatewayCheck.Schema.Target
