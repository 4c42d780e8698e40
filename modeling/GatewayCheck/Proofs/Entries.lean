import Mathlib.Data.List.Nodup

/-!
Entries under keys. What is found under a key is an entry, and where no key is repeated every entry
is found under its own.
-/
namespace GatewayCheck.Entries

variable {α β : Type} [BEq α] [LawfulBEq α] {entries : List (α × β)} {key : α} {value : β}

/-- Something is found under the keys of entries. -/
theorem lookup_isSome_iff : (entries.lookup key).isSome ↔ key ∈ entries.map Prod.fst := by
  rw [Option.isSome_iff_ne_none, ne_eq, List.lookup_eq_none_iff]
  simp

/-- What is found is an entry. -/
theorem mem_of_lookup (found : entries.lookup key = some value) : (key, value) ∈ entries := by
  obtain ⟨before, after, rfl, -⟩ := List.lookup_eq_some_iff.1 found
  simp

/-- Entries without repeated keys are found under their keys. -/
theorem lookup_eq_some_iff (once : (entries.map Prod.fst).Nodup) :
    entries.lookup key = some value ↔ (key, value) ∈ entries := by
  refine ⟨mem_of_lookup, fun listed => ?_⟩
  obtain ⟨before, after, rfl⟩ := List.append_of_mem listed
  rw [List.map_append, List.nodup_append] at once
  refine List.lookup_eq_some_iff.2 ⟨before, after, rfl, ?_⟩
  intro entry earlier
  have apart := once.2.2 entry.1 (List.mem_map_of_mem earlier) key List.mem_cons_self
  simpa using Ne.symm apart

end GatewayCheck.Entries
