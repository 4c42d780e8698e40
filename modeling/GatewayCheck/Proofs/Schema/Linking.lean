import GatewayCheck.Proofs.Schema.Evaluation

/-!
Linking. The table of a compiled schema holds the schema of every target that is reached, so a
compiled schema accepts what the documents themselves say, and a table that holds no way round in a
circle needs only as many steps as its longest way.
-/
namespace GatewayCheck.Schema

/-- The document at a target. -/
def resolved? (documents : Documents) (schema : Json) (target : Target) : Option Json :=
  (documentOf documents schema target).bind (Json.atPlace? target.place)

/-- A target leads into the schema itself, into the schema of schemas, or into a document that is
served under its address. -/
theorem documentOf_cases {documents : Documents} {schema document : Json} {target : Target}
    (found : documentOf documents schema target = some document) :
    target.document = none ∧ document = schema ∨
      target.document = some metaschemaAddress ∧ document = metaschema ∨
      ∃ address, target.document = some address ∧ documents address = some document := by
  rw [documentOf] at found
  cases named : target.document with
  | none =>
    rw [named] at found
    exact .inl ⟨rfl, (Option.some.inj found).symm⟩
  | some address =>
    rw [named, Option.elim_some] at found
    split at found
    · rename_i published
      exact .inr (.inl ⟨by rw [published], (Option.some.inj found).symm⟩)
    · exact .inr (.inr ⟨address, rfl, found⟩)

/-- Under another address than that of the schema of schemas stands what is served there. -/
theorem documentOf_served {documents : Documents} {schema : Json} {target : Target}
    {address : String} (named : target.document = some address)
    (apart : address ≠ metaschemaAddress) :
    documentOf documents schema target = documents address := by
  rw [documentOf, named, Option.elim_some, if_neg apart]

/-- Acceptance at a target as the documents say it, following at most `steps` references. -/
def meaningAt (documents : Documents) (schema : Json) : (steps : Nat) → Target → Json → Bool
  | 0, _, _ => true
  | steps + 1, target, value =>
    (resolved? documents schema target).all fun json =>
      (read target.document json).accepts (meaningAt documents schema steps) value

/-! ### Tables -/

/-- Every schema of a table is the one at its target. -/
def Table.Sound (documents : Documents) (schema : Json) (table : Table) : Prop :=
  ∀ target found, table.lookup target = some found →
    ∃ json, resolved? documents schema target = some json ∧ found = read target.document json

/-- The targets of every schema of a table are in the table or still pending. -/
def Table.Covers (table : Table) (pending : List Target) : Prop :=
  ∀ target found, table.lookup target = some found → ∀ next ∈ found.targets,
    (table.lookup next).isSome ∨ next ∈ pending

/-- A sound table in which nothing is pending means what the documents say. -/
theorem acceptsAt_eq_meaningAt {documents : Documents} {schema : Json} {table : Table}
    (sound : table.Sound documents schema) (covers : table.Covers []) (steps : Nat)
    {target : Target} (present : (table.lookup target).isSome) (value : Json) :
    acceptsAt table steps target value = meaningAt documents schema steps target value := by
  induction steps generalizing target value with
  | zero => rfl
  | succ steps ih =>
    obtain ⟨found, entry⟩ := Option.isSome_iff_exists.1 present
    obtain ⟨json, at_target, rfl⟩ := sound target found entry
    simp only [acceptsAt, meaningAt, entry, at_target, Option.all_some]
    refine accepts_congr _ value fun next listed value => ih ?_ value
    simpa using covers target _ entry next listed

/-! ### Gathering -/

/-- A new entry hides no other. -/
theorem lookup_cons_isSome {table : Table} {target other : Target} (found : Schema)
    (present : (table.lookup other).isSome) :
    (List.lookup other ((target, found) :: table)).isSome := by
  rw [List.lookup_cons]
  cases other == target
  · exact present
  · rfl

/-- A new sound entry keeps a table sound. -/
theorem Table.Sound.cons {documents : Documents} {schema : Json} {table : Table}
    (sound : table.Sound documents schema) {target : Target} {json : Json}
    (here : resolved? documents schema target = some json) :
    Table.Sound documents schema ((target, read target.document json) :: table) := by
  intro other found entry
  rw [List.lookup_cons] at entry
  by_cases same : other = target
  · subst same
    simp only [beq_self_eq_true, Option.some.injEq] at entry
    exact ⟨json, here, entry.symm⟩
  · have different : (other == target) = false := by simpa using same
    rw [different] at entry
    exact sound other found entry

/-- A table covers a new entry when the targets of its schema are pending. -/
theorem Table.Covers.cons {table : Table} {target : Target} {rest : List Target}
    (covers : table.Covers (target :: rest)) (found : Schema) :
    Table.Covers ((target, found) :: table) (found.targets ++ rest) := by
  intro other schema entry next listed
  rw [List.lookup_cons] at entry
  by_cases same : other = target
  · subst same
    simp only [beq_self_eq_true, Option.some.injEq] at entry
    subst entry
    exact .inr (List.mem_append_left _ listed)
  · have different : (other == target) = false := by simpa using same
    rw [different] at entry
    rcases covers other schema entry next listed with known | waiting
    · exact .inl (lookup_cons_isSome found known)
    · rcases List.mem_cons.1 waiting with rfl | waiting
      · exact .inl (by rw [List.lookup_cons_self]; rfl)
      · exact .inr (List.mem_append_right _ waiting)

/-- A target that is already in a table need not be pending. -/
theorem Table.Covers.tail {table : Table} {target : Target} {rest : List Target}
    (covers : table.Covers (target :: rest)) (present : (table.lookup target).isSome) :
    table.Covers rest := by
  intro other schema entry next listed
  rcases covers other schema entry next listed with known | waiting
  · exact .inl known
  · rcases List.mem_cons.1 waiting with rfl | waiting
    · exact .inl present
    · exact .inr waiting

/-- The number of references at a target. -/
def branching (documents : Documents) (schema : Json) (target : Target) : Nat :=
  ((resolved? documents schema target).map fun json =>
    (read target.document json).targets.length).getD 0

/-- The number of references at a target that is not in a table. -/
def unread (documents : Documents) (schema : Json) (table : Table) (target : Target) : Nat :=
  if (table.lookup target).isSome then 0 else branching documents schema target

/-- The number of references at those targets of a list that are not in a table. -/
def remaining (documents : Documents) (schema : Json) (table : Table) : List Target → Nat
  | [] => 0
  | target :: rest => unread documents schema table target + remaining documents schema table rest

/-- A new entry leaves no more references at a target than there were. -/
theorem unread_cons_le (documents : Documents) (schema : Json) (table : Table)
    (entry : Target × Schema) (target : Target) :
    unread documents schema (entry :: table) target ≤ unread documents schema table target := by
  unfold unread
  by_cases present : (table.lookup target).isSome
  · simp [lookup_cons_isSome entry.2 present]
  · rw [if_neg present]
    split <;> omega

/-- A new entry leaves no more references than there were. -/
theorem remaining_cons_le (documents : Documents) (schema : Json) (table : Table)
    (entry : Target × Schema) (reach : List Target) :
    remaining documents schema (entry :: table) reach ≤
      remaining documents schema table reach := by
  induction reach with
  | nil => exact Nat.le_refl _
  | cons target rest ih =>
    have here := unread_cons_le documents schema table entry target
    simp only [remaining]
    omega

/-- A new entry takes the references at its target away. -/
theorem remaining_cons {documents : Documents} {schema : Json} {table : Table} {target : Target}
    {reach : List Target} (member : target ∈ reach) (absent : table.lookup target = none)
    (found : Schema) :
    remaining documents schema ((target, found) :: table) reach +
        branching documents schema target ≤
      remaining documents schema table reach := by
  induction reach with
  | nil => cases member
  | cons first rest ih =>
    simp only [remaining]
    rcases List.mem_cons.1 member with rfl | later
    · have others := remaining_cons_le documents schema table (target, found) rest
      have gone : unread documents schema ((target, found) :: table) target = 0 := by
        simp [unread, List.lookup_cons_self]
      have present : unread documents schema table target =
          branching documents schema target := by
        simp [unread, absent]
      omega
    · have here := unread_cons_le documents schema table (target, found) first
      have others := ih later
      omega

/-- A bound on the references at each target bounds their number. -/
theorem remaining_le {documents : Documents} {schema : Json} {reach : List Target} {most : Nat}
    (bounded : ∀ target ∈ reach, branching documents schema target ≤ most) (table : Table) :
    remaining documents schema table reach ≤ reach.length * most := by
  induction reach with
  | nil => exact Nat.zero_le _
  | cons target rest ih =>
    have here : unread documents schema table target ≤ most := by
      unfold unread
      split
      · exact Nat.zero_le _
      · exact bounded target List.mem_cons_self
    have later := ih fun next listed => bounded next (List.mem_cons_of_mem _ listed)
    simp only [remaining, List.length_cons, Nat.succ_mul]
    omega

/-- A list of targets that all lead somewhere, and from which only its own targets are reached. -/
def IsClosed (documents : Documents) (schema : Json) (reach : List Target) : Prop :=
  ∀ target ∈ reach, ∃ json, resolved? documents schema target = some json ∧
    ∀ next ∈ (read target.document json).targets, next ∈ reach

/-- With fuel for every reference, gathering ends in a sound table in which nothing is pending. -/
theorem gather_of_isClosed {documents : Documents} {schema : Json} {reach : List Target}
    (closed : IsClosed documents schema reach) (fuel : Nat) {table : Table} {pending : List Target}
    (sound : table.Sound documents schema) (covers : table.Covers pending)
    (inside : ∀ target ∈ pending, target ∈ reach)
    (enough : pending.length + remaining documents schema table reach ≤ fuel) :
    ∃ final, gather documents schema fuel table pending = .ok final ∧
      final.Sound documents schema ∧ final.Covers [] ∧
      (∀ target, (table.lookup target).isSome → (final.lookup target).isSome) ∧
      ∀ target ∈ pending, (final.lookup target).isSome := by
  induction fuel generalizing table pending with
  | zero =>
    obtain rfl : pending = [] := List.length_eq_zero_iff.1 (by omega)
    exact ⟨table, rfl, sound, covers, fun _ present => present, by simp⟩
  | succ fuel ih =>
    cases pending with
    | nil => exact ⟨table, rfl, sound, covers, fun _ present => present, by simp⟩
    | cons target rest =>
      have later : ∀ next ∈ rest, next ∈ reach := fun next listed =>
        inside next (List.mem_cons_of_mem _ listed)
      simp only [List.length_cons] at enough
      rw [gather]
      by_cases present : (table.lookup target).isSome
      · rw [if_pos present]
        obtain ⟨final, gathered, sound, covers, kept, done⟩ :=
          ih sound (covers.tail present) later (by omega)
        refine ⟨final, gathered, sound, covers, kept, ?_⟩
        intro next listed
        rcases List.mem_cons.1 listed with rfl | listed
        · exact kept next present
        · exact done next listed
      · have absent := Option.not_isSome_iff_eq_none.1 present
        obtain ⟨json, here, onward⟩ := closed target (inside target List.mem_cons_self)
        have spent := @remaining_cons documents schema table target reach
          (inside target List.mem_cons_self) absent (read target.document json)
        have branches : branching documents schema target =
            (read target.document json).targets.length := by simp [branching, here]
        have next_inside : ∀ next ∈ (read target.document json).targets ++ rest, next ∈ reach :=
          fun next listed => (List.mem_append.1 listed).elim (onward next) (later next)
        obtain ⟨final, gathered, final_sound, final_covers, kept, done⟩ :=
          ih (sound.cons here) (covers.cons _) next_inside (by
            rw [List.length_append]
            omega)
        refine ⟨final, ?_, final_sound, final_covers,
          fun next known => kept next (lookup_cons_isSome _ known), fun next listed => ?_⟩
        · rw [if_neg present]
          simp only [resolved?] at here
          simp only [here]
          exact gathered
        · rcases List.mem_cons.1 listed with rfl | listed
          · exact kept next (by rw [List.lookup_cons_self]; rfl)
          · exact done next (List.mem_append_right _ listed)

/-- Every table that is gathered is sound. -/
theorem sound_gather {documents : Documents} {schema : Json} (fuel : Nat) {table final : Table}
    {pending : List Target} (sound : table.Sound documents schema)
    (gathered : gather documents schema fuel table pending = .ok final) :
    final.Sound documents schema := by
  induction fuel generalizing table pending with
  | zero =>
    cases pending with
    | nil =>
      cases gathered
      exact sound
    | cons => cases gathered
  | succ fuel ih =>
    cases pending with
    | nil =>
      cases gathered
      exact sound
    | cons target rest =>
      rw [gather] at gathered
      split at gathered
      · exact ih sound gathered
      · split at gathered
        · cases gathered
        · rename_i json here
          exact ih (sound.cons here) gathered

/-- A schema whose targets are all in a closed list links, and then it means what the documents
say. -/
theorem link_of_isClosed {documents : Documents} {schema : Json} {reach : List Target}
    (closed : IsClosed documents schema reach)
    (inside : ∀ target ∈ (read none schema).targets, target ∈ reach)
    (enough : (read none schema).targets.length + remaining documents schema [] reach ≤
      mostReferences) :
    ∃ compiled, link documents schema = .ok compiled ∧ ∀ value,
      compiled.accepts value =
          (read none schema).accepts (meaningAt documents schema (compiled.stepsFor value)) value ∧
        ∀ target ∈ (read none schema).targets, 4 ≤ compiled.stepsFor value := by
  have sound : Table.Sound documents schema [] := fun _ _ entry => by cases entry
  have covers : Table.Covers [] (read none schema).targets := fun _ _ entry => by cases entry
  obtain ⟨final, gathered, sound, covers, -, done⟩ :=
    gather_of_isClosed closed mostReferences sound covers inside enough
  refine ⟨⟨read none schema, final⟩, by simp only [link, gathered]; rfl, fun value => ⟨?_, ?_⟩⟩
  · exact accepts_congr _ value fun target listed value =>
      acceptsAt_eq_meaningAt sound covers _ (done target listed) value
  · intro target listed
    have filled : 1 ≤ final.length := by
      cases final with
      | nil => cases done target listed
      | cons => simp
    have deep : 1 ≤ value.depth := by cases value <;> simp [Json.depth]
    calc 4 = (1 + 1) * (1 + 1) := rfl
      _ ≤ (value.depth + 1) * (final.length + 1) :=
        Nat.mul_le_mul (Nat.succ_le_succ deep) (Nat.succ_le_succ filled)

/-- When every reference leads to a target of lower rank, the rank bounds the steps that matter, and
only the documents at the targets count. -/
theorem meaningAt_stable {documents : Documents} {schema other : Json} {reach : List Target}
    (closed : IsClosed documents schema reach)
    (agree : ∀ target ∈ reach,
      resolved? documents other target = resolved? documents schema target)
    {rank : Target → Nat}
    (descends : ∀ target ∈ reach, ∀ json, resolved? documents schema target = some json →
      ∀ next ∈ (read target.document json).targets, rank next < rank target)
    {first second : Nat} {target : Target} (member : target ∈ reach) (below : rank target < first)
    (beneath : rank target < second) (value : Json) :
    meaningAt documents schema first target value =
      meaningAt documents other second target value := by
  induction first generalizing second target value with
  | zero => omega
  | succ first ih =>
    cases second with
    | zero => omega
    | succ second =>
      obtain ⟨json, here, onward⟩ := closed target member
      simp only [meaningAt, agree target member, here, Option.all_some]
      apply accepts_congr
      intro next listed value
      have lower := descends target member json here next listed
      exact ih (onward next listed) (by omega) (by omega) value

/-! ### Missing documents -/

/-- A target that compiling a schema looks at: it is written in the schema or where such a target
leads, or it is the whole document of such a target. -/
inductive Consulted (documents : Documents) (schema : Json) : Target → Prop
  | written {target : Target} (listed : target ∈ writtenTargets none schema) :
    Consulted documents schema target
  | onward {target next : Target} {json : Json} (before : Consulted documents schema target)
    (here : resolved? documents schema target = some json)
    (listed : next ∈ writtenTargets target.document json) : Consulted documents schema next
  | whole {target : Target} {address : String} (before : Consulted documents schema target)
    (inside : target.document = some address) : Consulted documents schema ⟨some address, ""⟩

section Consulting

variable {documents : Documents} {schema : Json}

/-- What is written where a consulted target leads is consulted. -/
theorem Consulted.found {target : Target} {document : Json}
    (consulted : Consulted documents schema target)
    (found : documentOf documents schema target = some document) :
    ∀ next ∈ ((document.atPlace? target.place).map (writtenTargets target.document)).getD [],
      Consulted documents schema next := by
  intro next listed
  cases place : document.atPlace? target.place with
  | none => simp [place] at listed
  | some json =>
    rw [place, Option.map_some, Option.getD_some] at listed
    exact .onward consulted (by rw [resolved?, found, Option.bind_some, place]) listed

/-- The search for a missing document looks at consulted targets alone. -/
theorem firstMissing_eq_none_of_consulted
    (present : ∀ target, Consulted documents schema target →
      (documentOf documents schema target).isSome)
    (fuel : Nat) (seen : List Target) {pending : List Target}
    (waiting : ∀ target ∈ pending, Consulted documents schema target) :
    firstMissing documents schema fuel seen pending = none := by
  induction fuel generalizing seen pending with
  | zero => rfl
  | succ fuel ih =>
    cases pending with
    | nil => rfl
    | cons target rest =>
      have consulted := waiting target List.mem_cons_self
      have later : ∀ next ∈ rest, Consulted documents schema next := fun next listed =>
        waiting next (List.mem_cons_of_mem _ listed)
      rw [firstMissing]
      split
      · exact ih seen later
      · obtain ⟨document, found⟩ := Option.isSome_iff_exists.1 (present target consulted)
        have written := consulted.found found
        rw [found]
        cases inside : target.document with
        | none =>
          rw [inside] at written
          apply ih (target :: seen)
          intro next listed
          exact (List.mem_append.1 listed).elim (written next) (later next)
        | some address =>
          rw [inside] at written
          apply ih (target :: seen)
          intro next listed
          rcases List.mem_cons.1 listed with rfl | listed
          · exact .whole consulted inside
          · exact (List.mem_append.1 listed).elim (written next) (later next)

/-- No document is missing when every consulted target has one. -/
theorem firstMissing_eq_none
    (present : ∀ target, Consulted documents schema target →
      (documentOf documents schema target).isSome) :
    firstMissing documents schema mostReferences [] (writtenTargets none schema) = none :=
  firstMissing_eq_none_of_consulted present mostReferences [] fun _ listed => .written listed

end Consulting

end GatewayCheck.Schema
