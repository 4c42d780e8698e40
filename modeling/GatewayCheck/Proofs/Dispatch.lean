import GatewayCheck.Checker
import GatewayCheck.Proofs.Registry

/-!
Checkers at paths. A checker at a path is the checker for the strict sink of the kind that the path
names, and where there is none the first of four reasons says why.
-/
namespace GatewayCheck

/-- The path of a kind names the kind. -/
theorem Resource.ofPath?_path (kind : Resource) : ofPath? kind.path = some kind := by
  cases kind <;> decide +kernel

namespace Checker

variable {library : Library} {registry : Registry} {release : Release} {path : String}

/-- Why there is no checker at a path. The reasons exclude each other: each holds only where those
before it do not. -/
inductive Undispatched (library : Library) (release : Release) (path : String) : SetupError → Prop
  | release (absent : library.document? release = none) :
    Undispatched library release path (.unsupportedRelease release.name)
  | path (lacks : library.Lacks release path) :
    Undispatched library release path (.pathNotFound release path)
  | kind {schema : Json} (found : library.fragment release path = .ok schema)
    (unnamed : Resource.ofPath? path = none) :
    Undispatched library release path (.unknownResource path)
  | schema {kind : Resource} {defect : Schema.Defect} (named : Resource.ofPath? path = some kind)
    (has : library.HasDefect release path (some .runtime) defect) :
    Undispatched library release path (.notCompiled release path defect)

/-- Making a checker with another limit makes the same checker with this limit. -/
theorem make_with_limit {kind : Resource} {sink : Sink} (limit other : ReportLimit) :
    make registry release kind path other sink =
      (make registry release kind path limit sink).map fun checker =>
        { checker with limit := other } := by
  rw [make, make]
  cases registry.resolve release kind path sink <;> rfl

/-- A checker that is made has the limit that it is made with. -/
theorem limit_of_make {kind : Resource} {sink : Sink} {limit : ReportLimit} {checker : Checker}
    (made : make registry release kind path limit sink = .ok checker) : checker.limit = limit := by
  have same := @make_with_limit registry release path kind sink limit limit
  rw [made] at same
  exact congrArg Checker.limit (Except.ok.inj same)

section Built

variable {kind : Resource} {limit : ReportLimit} {sink : Sink} {checker : Checker}
  {error : SetupError}

/-- A checker is made of a part that compiles. -/
theorem make_eq_ok (built : Registry.build library = .ok registry) :
    make registry release kind path limit sink = .ok checker ↔
      ∃ fragment, library.compile release path (some sink) = .ok fragment ∧
        ⟨kind, fragment, ⟨registry, release⟩, limit⟩ = checker := by
  rw [make, Registry.resolve_of_build built, Except.bind_eq_ok]
  simp only [pure, Except.pure, Except.ok.injEq]

/-- There is no checker of a part that does not compile. -/
theorem make_eq_error (built : Registry.build library = .ok registry) :
    make registry release kind path limit sink = .error error ↔
      library.compile release path (some sink) = .error error := by
  rw [make, Registry.resolve_of_build built, Except.bind_eq_error]
  simp [pure, Except.pure]

/-- At a path to a schema that names a kind, the checker is that of the kind for the strict sink. -/
theorem atPath_eq_make {schema : Json}
    (found : registry.library.fragment release path = .ok schema)
    (named : Resource.ofPath? path = some kind) :
    atPath registry release path = make registry release kind path .fallback .runtime := by
  simp only [atPath, found, named]
  rfl

/-- A checker at a path is that of the kind that the path names, for the strict sink. -/
theorem atPath_eq_ok (built : Registry.build library = .ok registry) :
    atPath registry release path = .ok checker ↔
      ∃ kind, Resource.ofPath? path = some kind ∧
        make registry release kind path .fallback .runtime = .ok checker := by
  constructor
  · intro made
    obtain ⟨schema, found, rest⟩ := Except.bind_eq_ok.1 made
    split at rest
    · cases rest
    · rename_i kind named
      exact ⟨kind, named, rest⟩
  · rintro ⟨kind, named, made⟩
    obtain ⟨fragment, compiled, -⟩ := (make_eq_ok built).1 made
    obtain ⟨schema, -, found, -⟩ := Library.compile_eq_ok.1 compiled
    rw [← Registry.library_of_build built] at found
    rwa [atPath_eq_make found named]

/-- Where there is no checker at a path, the first reason that holds says why. -/
theorem atPath_eq_error (built : Registry.build library = .ok registry) :
    atPath registry release path = .error error ↔ Undispatched library release path error := by
  have library_eq := Registry.library_of_build built
  constructor
  · intro failed
    rcases Except.bind_eq_error.1 failed with missing | ⟨schema, found, failed⟩
    · rw [library_eq] at missing
      rcases Library.fragment_eq_error.1 missing with ⟨absent, rfl⟩ | ⟨lacks, rfl⟩
      · exact .release absent
      · exact .path lacks
    · rw [library_eq] at found
      split at failed
      · rename_i unnamed
        cases failed
        exact .kind found unnamed
      · rename_i kind named
        rcases Library.compile_eq_error.1 ((make_eq_error built).1 failed) with
          missing | ⟨schema, defect, found, defective, rfl⟩
        · rw [found] at missing
          cases missing
        · exact .schema named ⟨schema, found, defective⟩
  · have missing (absent : library.fragment release path = .error error) :
        atPath registry release path = .error error := by
      rw [atPath, library_eq, absent]
      rfl
    intro reason
    cases reason with
    | release absent => exact missing (Library.fragment_eq_error.2 (.inl ⟨absent, rfl⟩))
    | path lacks => exact missing (Library.fragment_eq_error.2 (.inr ⟨lacks, rfl⟩))
    | kind found unnamed =>
      rw [atPath, library_eq, found, unnamed]
      rfl
    | schema named has =>
      have ⟨schema, found, _⟩ := has
      rw [← library_eq] at found
      rw [atPath_eq_make found named, make_eq_error built]
      exact Library.compile_eq_notCompiled.2 has

end Built

end Checker

end GatewayCheck
