import GatewayCheck.Proofs.Entries
import GatewayCheck.Proofs.Except
import GatewayCheck.Proofs.Schema.Linking

/-!
Reach. Linking ends with a table of exactly the targets that references lead to, each of them once,
so two schemas from which the same targets are reached have tables of the same size.
-/
namespace GatewayCheck.Schema

/-- A target to which references lead, step by step, from one of the given targets. -/
inductive Reached (documents : Documents) (schema : Json) (start : List Target) : Target → Prop
  | start {target : Target} (listed : target ∈ start) : Reached documents schema start target
  | step {target next : Target} {json : Json} (before : Reached documents schema start target)
    (here : resolved? documents schema target = some json)
    (listed : next ∈ (read target.document json).targets) : Reached documents schema start next

/-- From targets of a closed list no others are reached. -/
theorem Reached.mem_of_isClosed {documents : Documents} {schema : Json} {start reach : List Target}
    (closed : IsClosed documents schema reach) (inside : ∀ target ∈ start, target ∈ reach)
    {target : Target} (reached : Reached documents schema start target) : target ∈ reach := by
  induction reached with
  | start listed => exact inside _ listed
  | step before here listed ih =>
    obtain ⟨json, again, each⟩ := closed _ ih
    obtain rfl := Option.some.inj (again.symm.trans here)
    exact each _ listed

/-- What holds, at every moment of gathering, of the table and of the targets that are pending. -/
structure Table.Follows (documents : Documents) (schema : Json) (start : List Target)
    (table : Table) (pending : List Target) : Prop where
  sound : table.Sound documents schema
  covers : table.Covers pending
  started : ∀ target ∈ start, (table.lookup target).isSome ∨ target ∈ pending
  once : (table.map Prod.fst).Nodup
  reached : ∀ target, (table.lookup target).isSome → Reached documents schema start target
  waiting : ∀ target ∈ pending, Reached documents schema start target

section Gathering

variable {documents : Documents} {schema : Json} {start pending : List Target} {table : Table}

/-- Before the first step everything is pending. -/
theorem Table.Follows.initial (documents : Documents) (schema : Json) (start : List Target) :
    Table.Follows documents schema start [] start where
  sound _ _ entry := by cases entry
  covers _ _ entry := by cases entry
  started _ listed := .inr listed
  once := List.nodup_nil
  reached _ present := by cases present
  waiting _ listed := .start listed

/-- A target that is already in the table need not be pending. -/
theorem Table.Follows.skip {target : Target} {rest : List Target}
    (follows : table.Follows documents schema start (target :: rest))
    (present : (table.lookup target).isSome) : table.Follows documents schema start rest where
  sound := follows.sound
  covers := follows.covers.tail present
  started other listed := by
    rcases follows.started other listed with known | waiting
    · exact .inl known
    · rcases List.mem_cons.1 waiting with rfl | waiting
      · exact .inl present
      · exact .inr waiting
  once := follows.once
  reached := follows.reached
  waiting other listed := follows.waiting other (List.mem_cons_of_mem _ listed)

/-- A new target goes into the table, and the targets of its schema become pending. -/
theorem Table.Follows.enter {target : Target} {rest : List Target} {json : Json}
    (follows : table.Follows documents schema start (target :: rest))
    (absent : ¬ (table.lookup target).isSome)
    (here : resolved? documents schema target = some json) :
    Table.Follows documents schema start ((target, read target.document json) :: table)
      ((read target.document json).targets ++ rest) := by
  have own := follows.waiting target List.mem_cons_self
  refine ⟨follows.sound.cons here, follows.covers.cons _, ?_, ?_, ?_, ?_⟩
  · intro other listed
    rcases follows.started other listed with known | waiting
    · exact .inl (lookup_cons_isSome _ known)
    · rcases List.mem_cons.1 waiting with rfl | waiting
      · exact .inl (by rw [List.lookup_cons_self]; rfl)
      · exact .inr (List.mem_append_right _ waiting)
  · rw [Entries.lookup_isSome_iff] at absent
    exact List.nodup_cons.2 ⟨absent, follows.once⟩
  · intro other present
    rcases List.mem_cons.1 (Entries.lookup_isSome_iff.1 present) with rfl | listed
    · exact own
    · exact follows.reached other (Entries.lookup_isSome_iff.2 listed)
  · intro next listed
    rcases List.mem_append.1 listed with listed | listed
    · exact .step own here listed
    · exact follows.waiting next (List.mem_cons_of_mem _ listed)

/-- Gathering ends when nothing is pending. -/
theorem Table.Follows.gather (fuel : Nat) {final : Table}
    (follows : table.Follows documents schema start pending)
    (gathered : gather documents schema fuel table pending = .ok final) :
    final.Follows documents schema start [] := by
  induction fuel generalizing table pending with
  | zero =>
    cases pending with
    | nil =>
      cases gathered
      exact follows
    | cons => cases gathered
  | succ fuel ih =>
    cases pending with
    | nil =>
      cases gathered
      exact follows
    | cons target rest =>
      rw [Schema.gather] at gathered
      split at gathered
      · rename_i present
        exact ih (follows.skip present) gathered
      · rename_i absent
        split at gathered
        · cases gathered
        · rename_i json here
          exact ih (follows.enter absent here) gathered

/-- When nothing is pending the table holds the targets that are reached, and no others. -/
theorem Table.Follows.lookup_isSome (follows : table.Follows documents schema start [])
    {target : Target} :
    (table.lookup target).isSome ↔ Reached documents schema start target := by
  refine ⟨follows.reached target, fun reached => ?_⟩
  induction reached with
  | start listed => simpa using follows.started _ listed
  | step before here listed ih =>
    obtain ⟨found, entry⟩ := Option.isSome_iff_exists.1 ih
    obtain ⟨json, again, rfl⟩ := follows.sound _ _ entry
    obtain rfl := Option.some.inj (again.symm.trans here)
    simpa using follows.covers _ _ entry _ listed

/-- Every target that is reached leads somewhere. -/
theorem Table.Follows.resolves (follows : table.Follows documents schema start [])
    {target : Target} (reached : Reached documents schema start target) :
    ∃ json, resolved? documents schema target = some json ∧
      table.lookup target = some (read target.document json) := by
  obtain ⟨found, entry⟩ := Option.isSome_iff_exists.1 (follows.lookup_isSome.2 reached)
  obtain ⟨json, here, rfl⟩ := follows.sound _ _ entry
  exact ⟨json, here, entry⟩

/-- Tables for the same targets have the same size. -/
theorem Table.Follows.length_eq {otherSchema : Json} {otherStart : List Target} {other : Table}
    (follows : table.Follows documents schema start [])
    (otherFollows : other.Follows documents otherSchema otherStart [])
    (same : ∀ target, Reached documents schema start target ↔
      Reached documents otherSchema otherStart target) : table.length = other.length := by
  have keys : (table.map Prod.fst).Perm (other.map Prod.fst) := by
    refine (List.perm_ext_iff_of_nodup follows.once otherFollows.once).2 fun target => ?_
    rw [← Entries.lookup_isSome_iff, ← Entries.lookup_isSome_iff, follows.lookup_isSome,
      otherFollows.lookup_isSome, same]
  simpa using keys.length_eq

/-- A compiled schema follows the references of its root to the end. -/
theorem follows_of_compile {compiled : Compiled}
    (done : compile documents schema = .ok compiled) :
    compiled.root = read none schema ∧
      compiled.table.Follows documents schema (read none schema).targets [] := by
  rw [compile] at done
  split at done
  · cases done
  · split at done
    · cases done
    · obtain ⟨table, gathered, done⟩ := Except.bind_eq_ok.1 done
      obtain rfl := Except.ok.inj done
      exact ⟨rfl, (Table.Follows.initial documents schema _).gather _ gathered⟩

end Gathering

end GatewayCheck.Schema
