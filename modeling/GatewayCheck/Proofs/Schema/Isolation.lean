import GatewayCheck.Proofs.Json.References
import GatewayCheck.Proofs.Schema.Linking
import GatewayCheck.Proofs.Schema.Targets

/-!
Schemas that refer to themselves and to one document. Compiling such a schema looks at no other
document, so what stands under the other addresses does not matter.
-/
namespace GatewayCheck.Schema

/-- The target is in the schema itself or in the document with the given address. -/
def Target.IsOwn (address : String) (target : Target) : Prop :=
  target.document = none ∨ target.document = some address

/-- A reference leads into the document with the given address, or into the schema itself, from
both. -/
def IsOwnReference (address reference : String) : Prop :=
  (Target.ofReference none reference).IsOwn address ∧
    (Target.ofReference (some address) reference).IsOwn address

/-- Every reference of a document leads to the document with the given address. -/
def IsSelfContained (address : String) (json : Json) : Prop :=
  ∀ reference ∈ json.everyReference, IsOwnReference address reference

/-- A part of a document that refers to its own address refers to it too. -/
theorem IsSelfContained.mono {address : String} {json part : Json}
    (own : IsSelfContained address json) (inside : part.everyReference ⊆ json.everyReference) :
    IsSelfContained address part :=
  fun reference listed => own reference (inside listed)

/-- A reference to a place in the same document is an own one. -/
theorem isOwnReference_local {address reference : String}
    (marked : reference.toList.head? = some '#') : IsOwnReference address reference := by
  obtain ⟨place, written⟩ := List.head?_eq_some_iff.1 marked
  have same (base : Option String) : (Target.ofReference base reference).document = base := by
    rw [Target.ofReference, written]
    rfl
  exact ⟨.inl (same none), .inr (same (some address))⟩

/-- The schema of schemas refers to itself alone. -/
theorem isSelfContained_metaschema (address : String) : IsSelfContained address metaschema := by
  have marked : ∀ reference ∈ metaschema.everyReference, reference.toList.head? = some '#' := by
    decide +kernel
  exact fun reference listed => isOwnReference_local (marked reference listed)

section Own

variable {address : String} {first second : Documents} {schema : Json}

/-- The references that are written in a document lead to its own address. -/
theorem IsSelfContained.ofReference {json : Json} (own : IsSelfContained address json)
    {target : Target} (base : target.IsOwn address) {reference : String}
    (written : reference ∈ json.references) :
    (Target.ofReference target.document reference).IsOwn address := by
  have both := own reference (Json.references_subset json written)
  rcases base with base | base
  · rw [base]
    exact both.1
  · rw [base]
    exact both.2

/-- Documents that agree at an address agree at every target there. -/
theorem documentOf_congr (same : first address = second address) {target : Target}
    (base : target.IsOwn address) :
    documentOf first schema target = documentOf second schema target := by
  rcases base with base | base
  · rw [documentOf, documentOf, base]
    rfl
  · rw [documentOf, documentOf, base, Option.elim_some, Option.elim_some, same]

/-- What stands at a target refers to its own address. -/
theorem isSelfContained_resolved (own : IsSelfContained address schema)
    (served : ∀ json, first address = some json → IsSelfContained address json) {target : Target}
    (base : target.IsOwn address) {json : Json}
    (here : resolved? first schema target = some json) : IsSelfContained address json := by
  obtain ⟨document, found, place⟩ := Option.bind_eq_some_iff.1 here
  refine IsSelfContained.mono ?_ (Json.textsUnder_atPlace? place)
  rcases documentOf_cases found with ⟨-, rfl⟩ | ⟨-, rfl⟩ | ⟨other, named, here⟩
  · exact own
  · exact isSelfContained_metaschema address
  · rcases base with base | base
    · cases named.symm.trans base
    · obtain rfl := Option.some.inj (named.symm.trans base)
      exact served document here

/-- The targets that are written where an own target leads are own targets again. -/
theorem isOwn_writtenTargets (own : IsSelfContained address schema)
    (served : ∀ json, first address = some json → IsSelfContained address json) {target : Target}
    (base : target.IsOwn address) {document : Json}
    (found : documentOf first schema target = some document) :
    ∀ next ∈ ((document.atPlace? target.place).map (writtenTargets target.document)).getD [],
      next.IsOwn address := by
  intro next listed
  cases place : document.atPlace? target.place with
  | none => simp [place] at listed
  | some json =>
    rw [place, Option.map_some, Option.getD_some] at listed
    obtain ⟨reference, present, rfl⟩ := List.mem_map.1 listed
    have here : resolved? first schema target = some json := by simp [resolved?, found, place]
    exact (isSelfContained_resolved own served base here).ofReference base present

/-- The same schemas are gathered. -/
theorem gather_congr (same : first address = second address)
    (own : IsSelfContained address schema)
    (served : ∀ json, first address = some json → IsSelfContained address json) (fuel : Nat)
    (table : Table) {pending : List Target}
    (bases : ∀ target ∈ pending, target.IsOwn address) :
    gather first schema fuel table pending = gather second schema fuel table pending := by
  induction fuel generalizing table pending with
  | zero => cases pending <;> rfl
  | succ fuel ih =>
    cases pending with
    | nil => rfl
    | cons target rest =>
      have base := bases target List.mem_cons_self
      have later : ∀ next ∈ rest, next.IsOwn address := fun next listed =>
        bases next (List.mem_cons_of_mem _ listed)
      rw [gather, gather, ← documentOf_congr same base]
      split
      · exact ih table later
      · cases here : (documentOf first schema target).bind fun document =>
            document.atPlace? target.place with
        | none => rfl
        | some json =>
          apply ih
          intro next listed
          rcases List.mem_append.1 listed with listed | listed
          · obtain ⟨reference, written, rfl⟩ := targets_read target.document json next listed
            exact (isSelfContained_resolved own served base here).ofReference base written
          · exact later next listed

/-- The same document is missing, or none. -/
theorem firstMissing_congr (same : first address = second address)
    (own : IsSelfContained address schema)
    (served : ∀ json, first address = some json → IsSelfContained address json) (fuel : Nat)
    (seen : List Target) {pending : List Target}
    (bases : ∀ target ∈ pending, target.IsOwn address) :
    firstMissing first schema fuel seen pending = firstMissing second schema fuel seen pending := by
  induction fuel generalizing seen pending with
  | zero => rfl
  | succ fuel ih =>
    cases pending with
    | nil => rfl
    | cons target rest =>
      have base := bases target List.mem_cons_self
      have later : ∀ next ∈ rest, next.IsOwn address := fun next listed =>
        bases next (List.mem_cons_of_mem _ listed)
      rw [firstMissing, firstMissing, ← documentOf_congr same base]
      split
      · exact ih seen later
      · cases found : documentOf first schema target with
        | none => rfl
        | some document =>
          have onward := isOwn_writtenTargets own served base found
          cases whole : target.document with
          | none =>
            rw [whole] at onward
            apply ih
            intro next listed
            exact (List.mem_append.1 listed).elim (onward next) (later next)
          | some other =>
            rw [whole] at onward
            apply ih
            intro next listed
            rcases List.mem_cons.1 listed with rfl | listed
            · exact whole ▸ base
            · exact (List.mem_append.1 listed).elim (onward next) (later next)

/-- Documents that agree at the address to which a schema refers compile it to the same. -/
theorem compile_congr (same : first address = second address)
    (own : IsSelfContained address schema)
    (served : ∀ json, first address = some json → IsSelfContained address json) :
    compile first schema = compile second schema := by
  have start : (⟨none, ""⟩ : Target).IsOwn address := .inl rfl
  have missing := @firstMissing_congr address first second schema same own served mostReferences []
    (writtenTargets none schema) fun target listed => by
      obtain ⟨reference, written, rfl⟩ := List.mem_map.1 listed
      exact own.ofReference start written
  have gathered := @gather_congr address first second schema same own served mostReferences []
    (read none schema).targets fun target listed => by
      obtain ⟨reference, written, rfl⟩ := targets_read none schema target listed
      exact own.ofReference start written
  simp only [compile, link, missing, gathered]

end Own

end GatewayCheck.Schema
