import GatewayCheck.Proofs.Dispatch
import GatewayCheck.Proofs.Packaged.Inline
import GatewayCheck.Proofs.Json.Ways

/-!
Checkers at paths. In the packaged documents the paths that name a kind are those of the kinds and
those of the upstreams inside other documents. A checker at the path of a kind is the strict checker
of that kind; one at the path of an inline upstream is as lenient as the checker for drafts.
-/
namespace GatewayCheck.Packaged

open Schema

variable {registry : Registry} {release : Release} {path : String}

/-- The paths of the schemas for upstreams inside other documents. -/
def inlinePaths : List String :=
  ["main.route.properties.upstream", "main.service.properties.upstream",
    "main.stream_route.properties.upstream"]

/-- The paths that name a kind in the packaged documents. -/
def dispatchedPaths : List String := Resource.all.map Resource.path ++ inlinePaths

/-! ### Paths -/

/-- A key is the name of a kind. -/
def isKindName (key : String) : Bool := (Resource.ofName? key).isSome

/-- The ways that end in the name of a kind are those of the listed paths. -/
theorem ways_dispatched (release : Release) :
    ∀ way ∈ (document release).waysTo isKindName,
      ∃ path ∈ dispatchedPaths, way = Json.pathSegments path := by
  cases release <;> decide +kernel

/-- The path of an inline upstream names the kind of upstreams. -/
theorem ofPath?_inline : ∀ path ∈ inlinePaths, Resource.ofPath? path = some .upstream := by
  decide +kernel

/-- The segments of a path to a schema lead there step by step. -/
theorem step?_of_fragment {schema : Json}
    (found : Library.packaged.fragment release path = .ok schema) :
    Json.step? (Json.pathSegments path) (document release) = some schema := by
  obtain ⟨whole, held, rest⟩ := Except.bind_eq_ok.1 found
  obtain rfl := Except.ok.inj held
  split at rest
  · rename_i members located
    obtain rfl := Except.ok.inj rest
    exact Json.step?_of_atPath? located
  · rename_i value located
    obtain rfl := Except.ok.inj rest
    exact Json.step?_of_atPath? located
  · cases rest

/-- A path to a schema that names a kind is one of the listed paths. -/
theorem path_dispatched {schema : Json} {kind : Resource}
    (found : Library.packaged.fragment release path = .ok schema)
    (named : Resource.ofPath? path = some kind) : path ∈ dispatchedPaths := by
  obtain ⟨last, ends, name⟩ := Option.bind_eq_some_iff.1 named
  have kindName : isKindName last = true := Option.isSome_iff_exists.2 ⟨kind, name⟩
  obtain ⟨other, listed, same⟩ :=
    ways_dispatched release _ (Json.mem_waysTo (step?_of_fragment found) ends kindName)
  rwa [Text.split_injective same]

/-- A listed path is that of a kind or that of an inline upstream. -/
theorem mem_dispatchedPaths :
    path ∈ dispatchedPaths ↔ (∃ kind : Resource, path = kind.path) ∨ path ∈ inlinePaths := by
  rw [dispatchedPaths, List.mem_append, List.mem_map]
  refine or_congr_left ⟨?_, ?_⟩
  · rintro ⟨kind, -, rfl⟩
    exact ⟨kind, rfl⟩
  · rintro ⟨kind, rfl⟩
    exact ⟨kind, Resource.mem_all kind, rfl⟩

/-! ### Checkers -/

/-- At a path that leads to a schema and names a kind, the checker is the strict one for the kind and
the path. -/
theorem atPath_eq_make (library : registry.library = Library.packaged) {schema : Json}
    {kind : Resource} (found : Library.packaged.fragment release path = .ok schema)
    (named : Resource.ofPath? path = some kind) :
    Checker.atPath registry release path =
      Checker.make registry release kind path .fallback .runtime :=
  Checker.atPath_eq_make (by rwa [library]) named

/-- The schema at the path of an inline upstream is a reference to that of upstreams. -/
theorem fragment_inline (release : Release) : ∀ path ∈ inlinePaths,
    Library.packaged.fragment release path = .ok (reference release "/main/upstream") := by
  simp only [inlinePaths, List.forall_mem_cons]
  exact ⟨rfl, rfl, rfl, by simp⟩

/-- The checker at the path of an inline upstream finds what the checker of upstreams for drafts
finds. -/
theorem make_inline (built : Registry.build Library.packaged = .ok registry) (release : Release)
    (listed : path ∈ inlinePaths) : ∃ checker lenient,
      Checker.make registry release .upstream path .fallback .runtime = .ok checker ∧
        Checker.make registry release .upstream Resource.upstream.path .fallback .draft =
          .ok lenient ∧
        checker.kind = .upstream ∧
        (∀ document, checker.check document = .ok () ↔ lenient.check document = .ok ()) ∧
        ∀ document, Checker.Agree checker lenient document := by
  obtain ⟨lenient, made, own, setting, structured⟩ :=
    make_kind built release .upstream .fallback .draft
  have refers : RefersTo release (reference release "/main/upstream") ["/main/upstream"] := rfl
  have known : ∀ place ∈ ["/main/upstream"], place ∈ places := by decide
  obtain ⟨compiled, done, same⟩ :=
    compile_of_refersTo (isForm_reference release (by decide)) refers known
      (Nat.le_of_ble_eq_true rfl)
  let fragment : Fragment :=
    ⟨release, path, some .runtime, reference release "/main/upstream", compiled⟩
  have resolved : registry.resolve release .upstream path .runtime = .ok fragment := by
    rw [Registry.resolve_of_build built, Library.compile, fragment_inline release path listed]
    simp only [bind, Except.bind, Option.elim_some]
    -- A reference declares no properties, so the strict sink finds nothing to close.
    rw [show Sink.runtime.close (reference release "/main/upstream") =
      reference release "/main/upstream" from rfl, done]
    rfl
  let checker : Checker := ⟨.upstream, fragment, ⟨registry, release⟩, .fallback⟩
  have structural (document : Json) : checker.checkStructure document = .ok () ↔
      lenient.checkStructure document = .ok () := by
    rw [structured, accepts_close (schemaOf_isOpen release .upstream),
      Checker.checkStructure_eq_ok, Fragment.accepts, same, accepts_upstream_reference]
    exact (and_iff_left fun strict => by cases strict).symm
  refine ⟨checker, lenient, ?_, made, rfl, fun document => ?_,
    fun document => ⟨structural document, ?_⟩⟩
  · simp only [Checker.make, resolved]
    rfl
  · rw [Checker.check_eq_ok, Checker.check_eq_ok, structural, own, setting]
  · intro field violation
    rw [Checker.check_eq_semantic, Checker.check_eq_semantic, structural, own, setting]

/-- What a checker at a path can be: the strict checker of a kind at the path of the kind, or a
checker of inline upstreams that finds what the checker of upstreams for drafts finds. -/
inductive Dispatched (registry : Registry) (release : Release) (path : String)
    (checker : Checker) : Prop
  | kind (located : path = checker.kind.path)
    (strict : Checker.make registry release checker.kind checker.kind.path .fallback .runtime =
      .ok checker)
  | inline (located : path ∈ inlinePaths) (kind : checker.kind = .upstream) (lenient : Checker)
    (draft : Checker.make registry release .upstream Resource.upstream.path .fallback .draft =
      .ok lenient)
    (accepted : ∀ document, checker.check document = .ok () ↔ lenient.check document = .ok ())
    (agree : ∀ document, Checker.Agree checker lenient document)

/-- There is a checker at every listed path. -/
theorem atPath_dispatched (built : Registry.build Library.packaged = .ok registry)
    (release : Release) (listed : path ∈ dispatchedPaths) : ∃ checker,
      Checker.atPath registry release path = .ok checker ∧
        Dispatched registry release path checker := by
  have library := Registry.library_of_build built
  rcases mem_dispatchedPaths.1 listed with ⟨kind, rfl⟩ | listed
  · obtain ⟨checker, made, own, -⟩ := make_kind built release kind .fallback .runtime
    rw [atPath_eq_make library (fragment_schemaOf release kind) (Resource.ofPath?_path kind)]
    exact ⟨checker, made, .kind (by rw [own]) (by rwa [own])⟩
  · obtain ⟨checker, lenient, made, draft, own, accepted, agree⟩ :=
      make_inline built release listed
    rw [atPath_eq_make library (fragment_inline release path listed) (ofPath?_inline path listed)]
    exact ⟨checker, made, .inline listed own lenient draft accepted agree⟩

/-- For every release, there is a checker at the paths of kinds and of inline upstreams, and any
other path to a schema is refused because it names no kind. -/
theorem paths_are_dispatched (release : Release) : ∃ registry,
    Registry.build Library.packaged = .ok registry ∧
      (∀ path checker, Checker.atPath registry release path = .ok checker →
        Dispatched registry release path checker) ∧
      (∀ path ∈ dispatchedPaths, ∃ checker, Checker.atPath registry release path = .ok checker) ∧
      ∀ path schema, Library.packaged.fragment release path = .ok schema →
        path ∉ dispatchedPaths →
          Checker.atPath registry release path = .error (.unknownResource path) := by
  obtain ⟨registry, built⟩ := exists_build
  have library := Registry.library_of_build built
  refine ⟨registry, built, fun path checker made => ?_, fun path listed => ?_,
    fun path schema found unlisted => ?_⟩
  · obtain ⟨schema, found, named⟩ := Except.bind_eq_ok.1 made
    rw [library] at found
    cases last : Resource.ofPath? path with
    | none =>
      rw [last] at named
      cases named
    | some kind =>
      obtain ⟨other, again, located⟩ :=
        atPath_dispatched built release (path_dispatched found last)
      obtain rfl := Except.ok.inj (again.symm.trans made)
      exact located
  · obtain ⟨checker, made, -⟩ := atPath_dispatched built release listed
    exact ⟨checker, made⟩
  · simp only [Checker.atPath, library, found]
    cases last : Resource.ofPath? path with
    | none => rfl
    | some kind => exact absurd (path_dispatched found last) unlisted

/-- An upstream with a member that no schema declares. -/
def extendedUpstream : Json :=
  .object [("extra", .bool true), ("nodes", .object [("a:80", .whole 1)])]

/-- The path of the upstream of a route leads to a second schema of upstreams, and what is accepted
there is not accepted at the path of the kind. -/
theorem inline_path_dispatches : ∃ registry checker strict,
    Registry.build Library.packaged = .ok registry ∧
      Checker.atPath registry .v3_2 "main.route.properties.upstream" = .ok checker ∧
      "main.route.properties.upstream" ≠ checker.kind.path ∧
      Checker.make registry .v3_2 checker.kind checker.kind.path .fallback .runtime =
        .ok strict ∧
      checker.check extendedUpstream = .ok () ∧ strict.check extendedUpstream ≠ .ok () := by
  obtain ⟨registry, built⟩ := exists_build
  have listed : "main.route.properties.upstream" ∈ inlinePaths := by decide
  obtain ⟨checker, lenient, made, draft, own, same, -⟩ := make_inline built .v3_2 listed
  obtain ⟨strict, madeStrict, -, -, structured⟩ :=
    make_kind built .v3_2 .upstream .fallback .runtime
  obtain ⟨other, again, ownOther, -, loose⟩ := make_kind built .v3_2 .upstream .fallback .draft
  obtain rfl := Except.ok.inj (again.symm.trans draft)
  refine ⟨registry, checker, strict, built, ?_, ?_, ?_, ?_, ?_⟩
  · rw [atPath_eq_make (Registry.library_of_build built) (fragment_inline .v3_2 _ listed)
      (ofPath?_inline _ listed)]
    exact made
  · rw [own]
    decide
  · rw [own]
    exact madeStrict
  · rw [same, Checker.check_eq_ok, ownOther]
    exact ⟨(loose extendedUpstream).2 (by decide +kernel), rfl⟩
  · intro passed
    have accepted := (structured _).1 (Checker.check_eq_ok.1 passed).1
    have declares := ((accepts_close (schemaOf_isOpen .v3_2 .upstream) .runtime).1 accepted).2 rfl
    have undeclared := declares _ rfl ("extra", .bool true) List.mem_cons_self
    cases undeclared

end GatewayCheck.Packaged
