import GatewayCheck.Proofs.Packaged.Linking
import GatewayCheck.Proofs.Registry
import GatewayCheck.Proofs.Checker
import GatewayCheck.Proofs.Schema.Closing

/-!
The packaged registry. It can be built, every kind resolves for both sinks at its own path, and both
schemas of hash keys resolve.
-/
namespace GatewayCheck.Packaged

open Schema

/-- The schema of a kind refers to places. -/
theorem schemaOf_refersTo (release : Release) (kind : Resource) :
    ∃ named, RefersTo release (schemaOf release kind) named ∧ ∀ place ∈ named, place ∈ places := by
  cases kind with
  | route =>
    exact ⟨["/definitions/timestamp_def", "/definitions/desc_def", "/definitions/host_def",
      "/definitions/host_def", "/definitions/id_schema", "/definitions/labels_def",
      "/definitions/name_def", "/definitions/id_schema", "/definitions/plugins_def",
      "/definitions/ip_def", "/definitions/ip_def", "/definitions/id_schema",
      "/definitions/timeout_def", "/definitions/timestamp_def", "/main/upstream",
      "/definitions/id_schema"], rfl, by decide⟩
  | service =>
    exact ⟨["/definitions/timestamp_def", "/definitions/desc_def", "/definitions/host_def",
      "/definitions/id_schema", "/definitions/labels_def", "/definitions/name_def",
      "/definitions/plugins_def", "/definitions/timestamp_def", "/main/upstream",
      "/definitions/id_schema"], rfl, by decide⟩
  | upstream =>
    obtain ⟨named, refers, each⟩ :=
      placed_refersTo release ("/main/upstream", upstream release) (by simp [placed])
    exact ⟨named, refers, fun place member => (each place member).1⟩
  | ssl =>
    refine ⟨["/definitions/timestamp_def", "/definitions/desc_def", "/definitions/id_schema",
      "/definitions/labels_def", "/definitions/host_def", "/definitions/host_def",
      "/definitions/timestamp_def"], ?_, by decide⟩
    cases release <;> rfl
  | consumer | consumerGroup | pluginConfig =>
    exact ⟨["/definitions/timestamp_def", "/definitions/desc_def", "/definitions/id_schema",
      "/definitions/labels_def", "/definitions/plugins_def", "/definitions/timestamp_def"], rfl,
      by decide⟩
  | globalRule =>
    exact ⟨["/definitions/timestamp_def", "/definitions/id_schema", "/definitions/plugins_def",
      "/definitions/timestamp_def"], rfl, by decide⟩
  | pluginMetadata => exact ⟨[], rfl, by simp⟩
  | streamRoute =>
    refine ⟨["/definitions/timestamp_def", "/definitions/desc_def", "/definitions/id_schema",
      "/definitions/labels_def", "/definitions/plugins_def"] ++
      (if .v3_11 ≤ release then ["/definitions/id_schema"] else []) ++
      ["/definitions/ip_def", "/definitions/ip_def", "/definitions/ip_def",
        "/definitions/port_def", "/definitions/id_schema", "/definitions/host_def",
        "/definitions/timestamp_def", "/main/upstream", "/definitions/id_schema"], ?_, ?_⟩
    · cases release <;> rfl
    · cases release <;> decide

/-- The schema of a kind has few targets, closed or not. -/
theorem close_branching (release : Release) (kind : Resource) (sink : Sink) :
    (read none (sink.close (schemaOf release kind))).targets.length ≤ 64 := by
  cases release <;> cases kind <;> cases sink <;> decide +kernel

/-- The schema of a kind stands at the path of the kind. -/
theorem fragment_schemaOf (release : Release) (kind : Resource) :
    Library.packaged.fragment release kind.path = .ok (schemaOf release kind) := by
  cases kind <;> rfl

/-- Every kind compiles at its own path, and the fragment accepts what the closed schema accepts by
the definitions. -/
theorem compile_kind (release : Release) (kind : Resource) (sink : Sink) :
    ∃ fragment, Library.packaged.compile release kind.path (some sink) = .ok fragment ∧
      ∀ value, fragment.accepts value =
        (read none (sink.close (schemaOf release kind))).accepts (meaning release) value := by
  obtain ⟨named, refers, inside⟩ := schemaOf_refersTo release kind
  have closed : RefersTo release (sink.close (schemaOf release kind)) named :=
    (references_close sink _).trans refers
  obtain ⟨compiled, done, same⟩ := compile_of_refersTo (isForm_close sink
    (isForm_schemaOf release kind)) closed inside (close_branching release kind sink)
  refine ⟨⟨release, kind.path, some sink, sink.close (schemaOf release kind), compiled⟩, ?_, same⟩
  simp only [Library.compile, fragment_schemaOf, bind, Except.bind, Option.elim_some, done]
  rfl

/-- A schema without references compiles unchanged, and its fragment accepts what it accepts. -/
theorem compile_unreferring (release : Release) {path : String} {schema : Json}
    (stands : Library.packaged.fragment release path = .ok schema) (form : isForm schema = true)
    (unreferring : schema.references = []) :
    ∃ fragment, Library.packaged.compile release path none = .ok fragment ∧
      ∀ value, fragment.accepts value = (read none schema).accepts (meaning release) value := by
  have refers : RefersTo release schema [] := unreferring
  obtain ⟨compiled, done, same⟩ := compile_of_refersTo form refers (by simp) (by
    rw [targets_eq_nil unreferring]
    exact Nat.zero_le _)
  refine ⟨⟨release, path, none, schema, compiled⟩, ?_, same⟩
  simp only [Library.compile, stands, bind, Except.bind, Option.elim_none, done]
  rfl

/-- The schemas of hash keys stand at their paths. -/
theorem fragment_keyPaths (release : Release) :
    Library.packaged.fragment release variableKeyPath = .ok upstreamHashVarsSchema ∧
      Library.packaged.fragment release headerKeyPath = .ok upstreamHashHeaderSchema :=
  ⟨rfl, rfl⟩

/-- Both schemas of hash keys compile. -/
theorem compile_keyPath (release : Release) {path : String} (listed : path ∈ keyPaths) :
    ∃ fragment, Library.packaged.compile release path none = .ok fragment := by
  simp only [keyPaths, List.mem_cons, List.not_mem_nil, or_false] at listed
  rcases listed with rfl | rfl
  · obtain ⟨fragment, done, -⟩ :=
      compile_unreferring release (fragment_keyPaths release).1 isForm_keySchemas.1 rfl
    exact ⟨fragment, done⟩
  · obtain ⟨fragment, done, -⟩ :=
      compile_unreferring release (fragment_keyPaths release).2 isForm_keySchemas.2 rfl
    exact ⟨fragment, done⟩

/-- The packaged registry can be built. -/
theorem exists_build : ∃ registry, Registry.build Library.packaged = .ok registry := by
  refine Registry.exists_build_iff.2 fun release _ => ⟨fun kind sink => ?_, fun path listed => ?_⟩
  · obtain ⟨fragment, done, -⟩ := compile_kind release kind sink
    exact ⟨some fragment, Library.compileDefined_of_compile done⟩
  · obtain ⟨fragment, done⟩ := compile_keyPath release listed
    exact ⟨some fragment, Library.compileDefined_of_compile done⟩

/-- The packaged registry resolves every kind at its own path. -/
theorem resolve_kind {registry : Registry} (built : Registry.build Library.packaged = .ok registry)
    (release : Release) (kind : Resource) (sink : Sink) :
    ∃ fragment, registry.resolve release kind kind.path sink = .ok fragment ∧
      ∀ value, fragment.accepts value =
        (read none (sink.close (schemaOf release kind))).accepts (meaning release) value := by
  rw [Registry.resolve_of_build built]
  exact compile_kind release kind sink

/-- The packaged registry resolves both schemas of hash keys. -/
theorem resolve_keyPath {registry : Registry}
    (built : Registry.build Library.packaged = .ok registry) (release : Release) {path : String}
    (listed : path ∈ keyPaths) :
    ∃ fragment, registry.resolveFragment release path = .ok fragment := by
  rw [Registry.resolveFragment_of_build built]
  exact compile_keyPath release listed

/-- The packaged registry makes a checker for every kind, and the structure of a document is right
exactly when the closed schema of the kind accepts it by the definitions. -/
theorem make_kind {registry : Registry} (built : Registry.build Library.packaged = .ok registry)
    (release : Release) (kind : Resource) (limit : ReportLimit) (sink : Sink) :
    ∃ checker, Checker.make registry release kind kind.path limit sink = .ok checker ∧
      checker.kind = kind ∧ checker.setting = ⟨registry, release⟩ ∧
      ∀ document, checker.checkStructure document = .ok () ↔
        (read none (sink.close (schemaOf release kind))).accepts (meaning release) document =
          true := by
  obtain ⟨fragment, resolved, same⟩ := resolve_kind built release kind sink
  refine ⟨⟨kind, fragment, ⟨registry, release⟩, limit⟩, ?_, rfl, rfl, fun document => ?_⟩
  · simp only [Checker.make, resolved]
    rfl
  · rw [← same, Checker.checkStructure_eq_ok]

end GatewayCheck.Packaged
