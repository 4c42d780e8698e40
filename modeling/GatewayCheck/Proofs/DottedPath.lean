import GatewayCheck.Proofs.Library
import GatewayCheck.Proofs.Text.Pieces

/-!
Dotted paths. A path denotes the keys that it joins by dots, and the schema to which they lead from
object to object. A library finds at a path exactly what the path denotes, and it reports a path
that denotes nothing as a whole.
-/
namespace GatewayCheck

namespace Json

/-- A path joins keys by dots. There is a key, and no key is empty or holds a dot. -/
structure Joins (path : String) (keys : List String) : Prop where
  present : keys ≠ []
  plain : ∀ key ∈ keys, key ≠ "" ∧ '.' ∉ key.toList
  joined : path = String.intercalate "." keys

/-- Keys lead from a document to a value: each is a key of the object that has been reached. -/
inductive Leads : Json → List String → Json → Prop
  | here (value : Json) : Leads value [] value
  | into {members : List (String × Json)} {key : String} {rest : List String} {inner value : Json}
    (held : members.lookup key = some inner) (onward : Leads inner rest value) :
    Leads (.object members) (key :: rest) value

/-- In a document, a path denotes keys and the schema to which they lead. -/
structure Denotes (document : Json) (path : String) (keys : List String) (schema : Json) :
    Prop where
  joins : Joins path keys
  leads : document.Leads keys schema
  isSchema : schema.IsSchema

variable {path other : String} {keys others : List String} {document value : Json}

/-- A path joins its segments and nothing else, unless one of them is empty. -/
theorem joins_iff : Joins path keys ↔ pathSegments path = keys ∧ ∀ key ∈ keys, key ≠ "" := by
  have dot : String.singleton '.' = "." := rfl
  rw [pathSegments, Text.split_eq_iff, dot]
  constructor
  · rintro ⟨present, plain, joined⟩
    exact ⟨⟨present, fun key listed => (plain key listed).2, joined⟩,
      fun key listed => (plain key listed).1⟩
  · rintro ⟨⟨present, free, joined⟩, filled⟩
    exact ⟨present, fun key listed => ⟨filled key listed, free key listed⟩, joined⟩

/-- Two paths are the same exactly when they join the same keys. -/
theorem Joins.eq_iff (first : Joins path keys) (second : Joins other others) :
    path = other ↔ keys = others := by
  constructor
  · rintro rfl
    rw [← (joins_iff.1 first).1, ← (joins_iff.1 second).1]
  · rintro rfl
    rw [first.joined, second.joined]

/-- A value is reached along keys exactly when they lead to it. -/
theorem step?_eq_some : step? keys document = some value ↔ document.Leads keys value := by
  induction keys generalizing document with
  | nil =>
    constructor
    · rintro ⟨⟩
      exact .here _
    · rintro ⟨⟩
      rfl
  | cons key rest ih =>
    rw [step?, Option.bind_eq_some_iff]
    constructor
    · rintro ⟨inner, held, reached⟩
      cases document with
      | object members => exact .into held (ih.1 reached)
      | null | bool | number | string | array => cases held
    · intro leads
      cases leads with
      | into held onward => exact ⟨_, held, ih.2 onward⟩

/-- A value is found at a path exactly when the path joins keys that lead to it. -/
theorem atPath?_eq_some : document.atPath? path = some value ↔
    ∃ keys, Joins path keys ∧ document.Leads keys value := by
  have gaps : (pathSegments path).any String.isEmpty = true ↔
      ¬∀ key ∈ pathSegments path, key ≠ "" := by
    simp
  rw [atPath?]
  split
  · rename_i gap
    refine iff_of_false nofun ?_
    rintro ⟨_, joins, -⟩
    obtain ⟨rfl, filled⟩ := joins_iff.1 joins
    exact gaps.1 gap filled
  · rename_i whole
    rw [gaps, not_not] at whole
    rw [step?_eq_some]
    constructor
    · intro leads
      exact ⟨_, joins_iff.2 ⟨rfl, whole⟩, leads⟩
    · rintro ⟨_, joins, leads⟩
      obtain ⟨rfl, -⟩ := joins_iff.1 joins
      exact leads

end Json

namespace Library

/-- A document shows a schema at a path exactly when the path denotes it there. -/
theorem shows_iff {document schema : Json} {path : String} :
    Shows document path schema ↔ ∃ keys, document.Denotes path keys schema := by
  rw [Shows, Json.atPath?_eq_some]
  constructor
  · rintro ⟨⟨keys, joins, leads⟩, isSchema⟩
    exact ⟨keys, joins, leads, isSchema⟩
  · rintro ⟨keys, joins, leads, isSchema⟩
    exact ⟨⟨keys, joins, leads⟩, isSchema⟩

/-- A library without a document for a release reports the release, and no other library does. From
the document it takes what the path denotes; a path that denotes nothing is reported as a whole. In
one document, different paths denote different keys. -/
theorem paths_denote_keys (library : Library) (release : Release) (path : String) :
    (∀ name, library.fragment release path = .error (.unsupportedRelease name) ↔
      library.document? release = none ∧ name = release.name) ∧
    ∀ document, library.document? release = some document →
      (∀ schema, library.fragment release path = .ok schema ↔
        ∃ keys, document.Denotes path keys schema) ∧
      (∀ error, library.fragment release path = .error error ↔
        error = .pathNotFound release path ∧ ∀ keys schema, ¬document.Denotes path keys schema) ∧
      ∀ keys schema, document.Denotes path keys schema → ∀ other others found,
        document.Denotes other others found → (path = other ↔ keys = others) := by
  refine ⟨fun name => ?_, fun document held => ⟨fun schema => ?_, fun error => ?_, ?_⟩⟩
  · simp [fragment_eq_error]
  · rw [fragment_eq_ok, ← shows_iff]
    simp [held]
  · have lacks : library.Lacks release path ↔
        ∀ keys schema, ¬document.Denotes path keys schema := by
      rw [Lacks, forall_comm]
      simp [held, shows_iff]
    rw [fragment_eq_error, lacks]
    simp [held, and_comm]
  · intro keys schema denotes other others found distinct
    exact denotes.joins.eq_iff distinct.joins

/-- In the packaged documents a path denotes the schema of the client addresses of a route. Paths
denote nothing that have an empty key, go through a list or end in a text, and they are reported. -/
theorem packaged_paths_denote_keys :
    (∃ schema, (Packaged.document .v3_13).Denotes "main.route.properties.remote_addr"
      ["main", "route", "properties", "remote_addr"] schema) ∧
    ∀ path ∈ ["", ".main.route", "main.route.", "main..route", "main.route.anyOf.0",
        "main.route.type"],
      packaged.fragment .v3_13 path = .error (.pathNotFound .v3_13 path) ∧
        ∀ keys schema, ¬(Packaged.document .v3_13).Denotes path keys schema := by
  have held : packaged.document? .v3_13 = some (Packaged.document .v3_13) := rfl
  constructor
  · obtain ⟨-, each⟩ := paths_denote_keys packaged .v3_13 "main.route.properties.remote_addr"
    obtain ⟨found, -⟩ := each _ held
    obtain ⟨keys, denotes⟩ := (found (Packaged.reference .v3_13 "/definitions/ip_def")).1 rfl
    have own : Json.Joins "main.route.properties.remote_addr"
        ["main", "route", "properties", "remote_addr"] :=
      ⟨nofun, by decide, by decide⟩
    obtain rfl := (denotes.joins.eq_iff own).1 rfl
    exact ⟨_, denotes⟩
  · intro path listed
    obtain ⟨-, each⟩ := paths_denote_keys packaged .v3_13 path
    obtain ⟨-, failed, -⟩ := each _ held
    have reported : packaged.fragment .v3_13 path = .error (.pathNotFound .v3_13 path) := by
      simp only [List.mem_cons, List.not_mem_nil, or_false] at listed
      rcases listed with rfl | rfl | rfl | rfl | rfl | rfl <;> rfl
    exact ⟨reported, ((failed _).1 reported).2⟩

end Library

end GatewayCheck
