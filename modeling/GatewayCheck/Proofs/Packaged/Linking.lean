import GatewayCheck.Proofs.Packaged.Form
import GatewayCheck.Proofs.Schema.Targets

/-!
Linking of packaged schemas. The places that schemas refer to lead to the definitions of their own
release and never round in a circle, so every packaged schema compiles and means what the
definitions say.
-/
namespace GatewayCheck.Packaged

open Schema

/-- What stands at each place in the document of a release. -/
def placed (release : Release) : List (String × Json) :=
  [("/definitions/desc_def", descDef),
    ("/definitions/host_def", hostDef),
    ("/definitions/id_schema", idSchema),
    ("/definitions/ip_def", ipDef),
    ("/definitions/labels_def", labelsDef),
    ("/definitions/name_def", nameDef),
    ("/definitions/plugins_def", pluginsDef),
    ("/definitions/port_def", portDef),
    ("/definitions/timeout_def", timeoutDef),
    ("/definitions/timestamp_def", timestampDef),
    ("/definitions/upstream_nodes", upstreamNodes release),
    ("/main/upstream", upstream release)]

/-- Every place is filled. -/
theorem placed_places (release : Release) : (placed release).map Prod.fst = places := rfl

/-- References lead to the document of a release by its address. -/
theorem retrieve_address (release : Release) :
    Library.packaged.retrieve release.address = some (document release) := by
  cases release <;> rfl

/-- A target in the document of a release leads there from every schema. -/
theorem documentOf_address (release : Release) (schema : Json) {target : Target}
    (named : target.document = some release.address) :
    documentOf Library.packaged.retrieve schema target = some (document release) := by
  rw [documentOf_served named (by cases release <;> decide), retrieve_address]

/-- What stands at a place is found there. -/
theorem atPlace?_placed (release : Release) :
    ∀ entry ∈ placed release, (document release).atPlace? entry.1 = some entry.2 := by
  have plain : ∀ place ∈ places, place.toList.tail.all Json.isPlain = true := by
    simp only [places, List.forall_mem_cons]
    exact ⟨rfl, rfl, rfl, rfl, rfl, rfl, rfl, rfl, rfl, rfl, rfl, rfl, by simp⟩
  have whole : ∀ place ∈ places, place.toList = '/' :: place.toList.tail := by
    simp only [places, List.forall_mem_cons]
    exact ⟨rfl, rfl, rfl, rfl, rfl, rfl, rfl, rfl, rfl, rfl, rfl, rfl, by simp⟩
  have stands : ∀ entry ∈ placed release,
      (Text.pieces '/' entry.1.toList.tail).foldlM (fun value segment => Json.child? segment value)
        (document release) = some entry.2 := by
    simp only [placed, List.forall_mem_cons]
    exact ⟨rfl, rfl, rfl, rfl, rfl, rfl, rfl, rfl, rfl, rfl, rfl, rfl, by simp⟩
  intro entry listed
  have place : entry.1 ∈ places := placed_places release ▸ List.mem_map_of_mem listed
  exact (Json.atPlace?_plain _ (whole _ place) (plain _ place)).trans (stands entry listed)

/-- The number of definitions between a place and one that refers to no others. -/
def rank (place : String) : Nat :=
  if place = "/main/upstream" then 2 else if place = "/definitions/upstream_nodes" then 1 else 0

/-- No place has a higher rank than that of upstreams. -/
theorem rank_le (place : String) : rank place ≤ 2 := by
  simp only [rank]
  split
  · exact Nat.le_refl 2
  · split <;> decide

/-- A schema refers to the given places and to no others. -/
def RefersTo (release : Release) (schema : Json) (named : List String) : Prop :=
  schema.references = named.map fun place => release.address ++ "#" ++ place

/-- What stands at a place refers to places of lower rank. -/
theorem placed_refersTo (release : Release) : ∀ entry ∈ placed release, ∃ named,
    RefersTo release entry.2 named ∧
      ∀ place ∈ named, place ∈ places ∧ rank place < rank entry.1 := by
  have simple {place : String} {json : Json} (none : json.references = []) : ∃ named,
      RefersTo release json named ∧ ∀ other ∈ named, other ∈ places ∧ rank other < rank place :=
    ⟨[], none, by simp⟩
  simp only [placed, List.forall_mem_cons]
  refine ⟨simple rfl, simple rfl, simple rfl, simple rfl, simple rfl, simple rfl, simple rfl,
    simple rfl, simple rfl, simple rfl,
    ⟨["/definitions/host_def", "/definitions/port_def"], ?_, by decide⟩,
    ⟨["/definitions/timestamp_def", "/definitions/desc_def", "/definitions/id_schema",
      "/definitions/labels_def", "/definitions/name_def", "/definitions/upstream_nodes",
      "/definitions/timeout_def", "/definitions/id_schema", "/definitions/timestamp_def",
      "/definitions/host_def"], ?_, by decide⟩, by simp⟩
  · cases release <;> rfl
  · cases release <;> rfl

/-- The references of a schema that refers to places lead to them. -/
theorem RefersTo.targets {release : Release} {schema : Json} {named : List String}
    (refers : RefersTo release schema named) (inside : ∀ place ∈ named, place ∈ places)
    (base : Option String) {target : Target} (listed : target ∈ (read base schema).targets) :
    ∃ place ∈ named, target = ⟨some release.address, place⟩ := by
  obtain ⟨reference, written, rfl⟩ := targets_read base schema target listed
  rw [refers] at written
  obtain ⟨place, member, rfl⟩ := List.mem_map.1 written
  exact ⟨place, member, ofReference_place base release (inside place member)⟩

/-- Nothing that stands at a place has many targets. -/
theorem placed_branching (release : Release) : ∀ entry ∈ placed release,
    (read (some release.address) entry.2).targets.length ≤ 64 := by
  have simple {json : Json} (none : json.references = []) :
      (read (some release.address) json).targets.length ≤ 64 := by
    rw [targets_eq_nil none]
    exact Nat.zero_le _
  simp only [placed, List.forall_mem_cons]
  refine ⟨simple rfl, simple rfl, simple rfl, simple rfl, simple rfl, simple rfl, simple rfl,
    simple rfl, simple rfl, simple rfl, ?_, ?_, by simp⟩
  · cases release <;> exact Nat.le_of_ble_eq_true rfl
  · cases release <;> exact Nat.le_of_ble_eq_true rfl

/-! ### Meaning -/

/-- The targets of the references to places. -/
def reach (release : Release) : List Target :=
  (placed release).map fun entry => ⟨some release.address, entry.1⟩

/-- The target of a reference to a place is reached. -/
theorem mem_reach (release : Release) {place : String} (listed : place ∈ places) :
    ⟨some release.address, place⟩ ∈ reach release := by
  rw [← placed_places release] at listed
  obtain ⟨entry, present, rfl⟩ := List.mem_map.1 listed
  exact List.mem_map.2 ⟨entry, present, rfl⟩

/-- What stands at a place is the document at its target. -/
theorem resolved?_placed (release : Release) (schema : Json) :
    ∀ entry ∈ placed release, resolved? Library.packaged.retrieve schema
      ⟨some release.address, entry.1⟩ = some entry.2 := by
  intro entry listed
  rw [resolved?, documentOf_address release schema rfl, Option.bind_some]
  exact atPlace?_placed release entry listed

/-- From places only places are reached. -/
theorem isClosed_reach (release : Release) (schema : Json) :
    IsClosed Library.packaged.retrieve schema (reach release) := by
  intro target listed
  obtain ⟨entry, present, rfl⟩ := List.mem_map.1 listed
  refine ⟨entry.2, resolved?_placed release schema entry present, fun next inside => ?_⟩
  obtain ⟨named, refers, each⟩ := placed_refersTo release entry present
  obtain ⟨place, member, rfl⟩ := refers.targets (fun place member => (each place member).1) _ inside
  exact mem_reach release (each place member).1

/-- What the targets of a release accept. -/
def meaning (release : Release) : Target → Json → Bool :=
  meaningAt Library.packaged.retrieve (document release) 3

/-- Steps for the rank of a target suffice, whatever schema the reference is made in. -/
theorem meaningAt_reach (release : Release) (schema : Json) {steps : Nat} {target : Target}
    (member : target ∈ reach release) (enough : rank target.place < steps) (value : Json) :
    meaningAt Library.packaged.retrieve schema steps target value =
      meaning release target value := by
  have least : rank target.place < 3 := Nat.lt_succ_of_le (rank_le _)
  have located : ∀ other, ∀ target ∈ reach release,
      ∃ entry ∈ placed release, target = ⟨some release.address, entry.1⟩ ∧
        resolved? Library.packaged.retrieve other target = some entry.2 := by
    intro other target listed
    obtain ⟨entry, present, rfl⟩ := List.mem_map.1 listed
    exact ⟨entry, present, rfl, resolved?_placed release other entry present⟩
  have agree : ∀ target ∈ reach release,
      resolved? Library.packaged.retrieve (document release) target =
        resolved? Library.packaged.retrieve schema target := by
    intro target listed
    obtain ⟨entry, present, rfl, -⟩ := located schema target listed
    rw [resolved?_placed release _ entry present, resolved?_placed release _ entry present]
  have descends : ∀ target ∈ reach release, ∀ json,
      resolved? Library.packaged.retrieve schema target = some json →
        ∀ next ∈ (read target.document json).targets, rank next.place < rank target.place := by
    intro target listed json here next inside
    obtain ⟨entry, present, rfl, found⟩ := located schema target listed
    obtain rfl := Option.some.inj (here.symm.trans found)
    obtain ⟨named, refers, each⟩ := placed_refersTo release entry present
    obtain ⟨place, listed, rfl⟩ :=
      refers.targets (fun place member => (each place member).1) _ inside
    exact (each place listed).2
  exact meaningAt_stable (isClosed_reach release schema) agree descends member enough least value

/-- A place accepts what the schema that stands there accepts. -/
theorem meaning_placed (release : Release) {place : String} {schema : Json}
    (entry : (place, schema) ∈ placed release) (value : Json) :
    meaning release ⟨some release.address, place⟩ value =
      (read (some release.address) schema).accepts (meaning release) value := by
  have here := resolved?_placed release (document release) _ entry
  obtain ⟨named, refers, each⟩ := placed_refersTo release _ entry
  have inside : ∀ place ∈ named, place ∈ places := fun place member => (each place member).1
  have most := rank_le place
  have step : meaning release ⟨some release.address, place⟩ value =
      (resolved? Library.packaged.retrieve (document release) ⟨some release.address, place⟩).all
        fun json => (read (some release.address) json).accepts
          (meaningAt Library.packaged.retrieve (document release) 2) value := rfl
  rw [step, here, Option.all_some]
  apply accepts_congr
  intro next listed value
  obtain ⟨other, member, rfl⟩ := refers.targets inside _ listed
  have lower : rank other < 2 := Nat.lt_of_lt_of_le (each other member).2 most
  exact meaningAt_reach release _ (mem_reach release (inside other member)) lower value

/-- Few references are made at each place. -/
theorem branching_reach (release : Release) (schema : Json) :
    ∀ target ∈ reach release, branching Library.packaged.retrieve schema target ≤ 64 := by
  intro target listed
  obtain ⟨entry, present, rfl⟩ := List.mem_map.1 listed
  have few := placed_branching release entry present
  simpa [branching, resolved?_placed release schema entry present] using few

/-- The document of a release refers to places. -/
theorem document_refersTo (release : Release) :
    RefersTo release (document release) ["/definitions/host_def", "/definitions/port_def"] := by
  cases release <;> rfl

/-- The target is the document of a release, or a place in it. -/
def IsKnown (release : Release) (target : Target) : Prop :=
  target.document = some release.address ∧ (target.place = "" ∨ target.place ∈ places)

/-- The document of a known target is there. -/
theorem IsKnown.present {release : Release} (schema : Json) {target : Target}
    (known : IsKnown release target) :
    (documentOf Library.packaged.retrieve schema target).isSome := by
  rw [documentOf_address release schema known.1]
  rfl

/-- What a schema refers to is known. -/
theorem RefersTo.isKnown {release : Release} {json : Json} {named : List String}
    (refers : RefersTo release json named) (inside : ∀ place ∈ named, place ∈ places)
    (base : Option String) : ∀ target ∈ writtenTargets base json, IsKnown release target := by
  intro target listed
  obtain ⟨reference, present, rfl⟩ := List.mem_map.1 listed
  rw [refers] at present
  obtain ⟨place, member, same⟩ := List.mem_map.1 present
  rw [← same, ofReference_place base release (inside place member)]
  exact ⟨rfl, .inr (inside place member)⟩

/-- Compiling a schema that refers to places looks at the document of its release alone. -/
theorem RefersTo.consulted {release : Release} {schema : Json} {named : List String}
    (refers : RefersTo release schema named) (inside : ∀ place ∈ named, place ∈ places)
    {target : Target} (consulted : Consulted Library.packaged.retrieve schema target) :
    IsKnown release target := by
  induction consulted with
  | written listed => exact refers.isKnown inside none _ listed
  | @onward target next json before here listed known =>
    obtain ⟨address, place⟩ := target
    obtain ⟨rfl, rfl | within⟩ := known
    · have whole : resolved? Library.packaged.retrieve schema ⟨some release.address, ""⟩ =
          some (document release) := by
        rw [resolved?, documentOf_address release schema rfl, Option.bind_some]
        rfl
      obtain rfl := Option.some.inj (here.symm.trans whole)
      exact (document_refersTo release).isKnown (by decide) _ _ listed
    · rw [← placed_places release] at within
      obtain ⟨entry, present, rfl⟩ := List.mem_map.1 within
      have stands := resolved?_placed release schema entry present
      obtain rfl := Option.some.inj (here.symm.trans stands)
      obtain ⟨named, refers, each⟩ := placed_refersTo release entry present
      exact refers.isKnown (fun place member => (each place member).1) _ _ listed
  | whole before same known => exact ⟨same.symm.trans known.1, .inl rfl⟩

/-- No document is missing for a schema that refers to places. -/
theorem nothing_missing {release : Release} {schema : Json} {named : List String}
    (refers : RefersTo release schema named) (inside : ∀ place ∈ named, place ∈ places) :
    firstMissing Library.packaged.retrieve schema mostReferences []
      (writtenTargets none schema) = none :=
  firstMissing_eq_none fun _ consulted => (refers.consulted inside consulted).present schema

/-- A schema in proper form that refers to places compiles, and it accepts what it accepts by the
definitions. -/
theorem compile_of_refersTo {release : Release} {schema : Json} {named : List String}
    (form : isForm schema = true) (refers : RefersTo release schema named)
    (inside : ∀ place ∈ named, place ∈ places)
    (few : (read none schema).targets.length ≤ 64) :
    ∃ compiled, Schema.compile Library.packaged.retrieve schema = .ok compiled ∧
      ∀ value, compiled.accepts value = (read none schema).accepts (meaning release) value := by
  have reached : ∀ target ∈ (read none schema).targets, target ∈ reach release := by
    intro target listed
    obtain ⟨place, member, rfl⟩ := refers.targets inside _ listed
    exact mem_reach release (inside place member)
  obtain ⟨compiled, linked, same⟩ := link_of_isClosed (isClosed_reach release schema) reached (by
    have bound := remaining_le (branching_reach release schema) []
    have size : (reach release).length = 12 := rfl
    rw [size] at bound
    have large : 1000 ≤ mostReferences := by decide
    omega)
  refine ⟨compiled, ?_, fun value => ?_⟩
  · rw [compile_of_isForm form (nothing_missing refers inside), linked]
  · rw [(same value).1]
    apply accepts_congr
    intro target listed item
    have most := rank_le target.place
    have steps := (same value).2 target listed
    exact meaningAt_reach release schema (reached target listed) (by omega) item

end GatewayCheck.Packaged
