import GatewayCheck.Registry
import GatewayCheck.Proofs.Except

/-!
What a library answers for a path. A part of a document is compiled, or the library says why not:
the release has no document, the path leads to no schema, or the schema has a defect.
-/
namespace GatewayCheck

/-- The values that can be schemas. -/
inductive Json.IsSchema : Json → Prop
  | object (members : List (String × Json)) : IsSchema (.object members)
  | bool (value : Bool) : IsSchema (.bool value)

/-- The schema that is compiled for a sink, or for none. -/
def Json.closedFor (schema : Json) (sink? : Option Sink) : Json :=
  sink?.elim schema fun sink => sink.close schema

namespace Library

variable {library : Library} {release : Release} {path : String} {schema : Json}
  {sink? : Option Sink} {error : SetupError}

/-- The releases of a library are those for which it has a document. -/
theorem mem_releases :
    release ∈ library.releases ↔ ∃ document, library.document? release = some document := by
  simp [releases, contains, Release.mem_all, Option.isSome_iff_exists]

/-- The releases of a library are in the order of publication, and none is repeated. -/
theorem releases_ascending (library : Library) :
    library.releases.Pairwise fun older newer => older.rank < newer.rank := by
  have all : Release.all.Pairwise fun older newer => older.rank < newer.rank := by decide
  exact all.filter _

/-- A document has a schema at a path. -/
def Shows (document : Json) (path : String) (schema : Json) : Prop :=
  document.atPath? path = some schema ∧ schema.IsSchema

/-- The library has a document for the release, but no schema at the path. -/
def Lacks (library : Library) (release : Release) (path : String) : Prop :=
  ∃ document, library.document? release = some document ∧ ∀ schema, ¬ Shows document path schema

/-- A library has no document for a release, or no schema at a path, or a schema there. -/
theorem fragment_cases (library : Library) (release : Release) (path : String) :
    library.document? release = none ∧
        library.fragment release path = .error (.unsupportedRelease release.name) ∨
      library.Lacks release path ∧
        library.fragment release path = .error (.pathNotFound release path) ∨
      ∃ document schema, library.document? release = some document ∧ Shows document path schema ∧
        library.fragment release path = .ok schema := by
  rw [fragment, document]
  cases held : library.document? release with
  | none => exact .inl ⟨rfl, rfl⟩
  | some document =>
    right
    simp only [Option.elim_some, bind, Except.bind]
    have lacking (none : ∀ schema, ¬ Shows document path schema) : library.Lacks release path :=
      ⟨document, held, none⟩
    cases located : document.atPath? path with
    | none =>
      refine .inl ⟨lacking fun schema shown => ?_, rfl⟩
      rw [Shows, located] at shown
      cases shown.1
    | some value =>
      have only {schema : Json} (shown : Shows document path schema) :
          schema.IsSchema ∧ value = schema :=
        ⟨shown.2, Option.some.inj (located.symm.trans shown.1)⟩
      cases value with
      | object | bool =>
        exact .inr ⟨document, _, rfl, ⟨located, by constructor⟩, rfl⟩
      | null | number | string | array =>
        refine .inl ⟨lacking fun schema shown => ?_, rfl⟩
        obtain ⟨is, rfl⟩ := only shown
        cases is

/-- The part at a path is the schema that the document shows there. -/
theorem fragment_eq_ok : library.fragment release path = .ok schema ↔
    ∃ document, library.document? release = some document ∧ Shows document path schema := by
  constructor
  · intro found
    rcases library.fragment_cases release path with ⟨-, failed⟩ | ⟨-, failed⟩ |
      ⟨document, other, held, shown, same⟩
    · rw [failed] at found; cases found
    · rw [failed] at found; cases found
    · obtain rfl := Except.ok.inj (same.symm.trans found)
      exact ⟨document, held, shown⟩
  · rintro ⟨document, held, shown⟩
    rcases library.fragment_cases release path with ⟨absent, -⟩ | ⟨⟨other, again, none⟩, -⟩ |
      ⟨other, found, again, same, located⟩
    · rw [held] at absent; cases absent
    · obtain rfl := Option.some.inj (held.symm.trans again)
      exact absurd shown (none schema)
    · obtain rfl := Option.some.inj (held.symm.trans again)
      rw [located, Option.some.inj (same.1.symm.trans shown.1)]

/-- There is no part at a path when the release has no document, or the document no schema. -/
theorem fragment_eq_error : library.fragment release path = .error error ↔
    library.document? release = none ∧ error = .unsupportedRelease release.name ∨
      library.Lacks release path ∧ error = .pathNotFound release path := by
  rcases library.fragment_cases release path with ⟨absent, failed⟩ | ⟨lacks, failed⟩ |
    ⟨document, found, held, shown, located⟩
  · have present : ¬ library.Lacks release path := by
      rintro ⟨document, held, -⟩
      rw [absent] at held
      cases held
    simp [failed, absent, present, eq_comm]
  · have present : library.document? release ≠ none := by
      obtain ⟨document, held, -⟩ := lacks
      simp [held]
    simp [failed, lacks, present, eq_comm]
  · have present : ¬ library.Lacks release path := by
      rintro ⟨other, again, none⟩
      obtain rfl := Option.some.inj (held.symm.trans again)
      exact none found shown
    simp [located, held, present]

/-- Compiling succeeds when the schema of the document does, closed for the sink. -/
theorem compile_eq_ok {fragment : Fragment} :
    library.compile release path sink? = .ok fragment ↔
      ∃ schema compiled, library.fragment release path = .ok schema ∧
        Schema.compile library.retrieve (schema.closedFor sink?) = .ok compiled ∧
        fragment = ⟨release, path, sink?, schema.closedFor sink?, compiled⟩ := by
  rw [compile, Except.bind_eq_ok]
  refine exists_congr fun schema => ?_
  simp only [Json.closedFor]
  cases Schema.compile library.retrieve (sink?.elim schema fun sink => sink.close schema) with
  | error defect => simp [throw, throwThe, MonadExceptOf.throw]
  | ok compiled =>
    simp only [pure, Except.pure, Except.ok.injEq, exists_eq_left', exists_and_left]
    exact and_congr_right fun _ => eq_comm

/-- Compiling fails when there is no part at the path, or its schema has a defect. -/
theorem compile_eq_error :
    library.compile release path sink? = .error error ↔
      library.fragment release path = .error error ∨
      ∃ schema defect, library.fragment release path = .ok schema ∧
        Schema.compile library.retrieve (schema.closedFor sink?) = .error defect ∧
        error = .notCompiled release path defect := by
  rw [compile, Except.bind_eq_error]
  refine or_congr_right (exists_congr fun schema => ?_)
  simp only [Json.closedFor]
  cases Schema.compile library.retrieve (sink?.elim schema fun sink => sink.close schema) with
  | ok compiled => simp [pure, Except.pure]
  | error defect =>
    simp only [throw, throwThe, MonadExceptOf.throw, Except.error.injEq, exists_eq_left',
      exists_and_left]
    exact and_congr_right fun _ => eq_comm

/-- The part of a document at a path has a defect, for a sink or unchanged. -/
def HasDefect (library : Library) (release : Release) (path : String)
    (sink? : Option Sink) (defect : Schema.Defect) : Prop :=
  ∃ schema, library.fragment release path = .ok schema ∧
    Schema.compile library.retrieve (schema.closedFor sink?) = .error defect

/-- A part has a defect exactly when compiling it fails with the defect. -/
theorem compile_eq_notCompiled {defect : Schema.Defect} :
    library.compile release path sink? = .error (.notCompiled release path defect) ↔
      library.HasDefect release path sink? defect := by
  rw [compile_eq_error]
  constructor
  · rintro (failed | ⟨schema, other, found, failed, same⟩)
    · rcases fragment_eq_error.1 failed with ⟨-, same⟩ | ⟨-, same⟩ <;> cases same
    · obtain ⟨-, -, rfl⟩ := SetupError.notCompiled.inj same
      exact ⟨schema, found, failed⟩
  · rintro ⟨schema, found, failed⟩
    exact .inr ⟨schema, defect, found, failed, rfl⟩

end Library

end GatewayCheck
