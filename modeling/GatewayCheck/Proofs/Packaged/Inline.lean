import GatewayCheck.Proofs.Packaged.Protection
import GatewayCheck.Proofs.Packaged.Sinks
import GatewayCheck.Proofs.Schema.Fields

/-!
Upstreams inside other documents. For every release, an upstream is judged by itself as it is judged
inside a service, a stream route or a route, whatever the sink of the document around it.
-/
namespace GatewayCheck

open Schema

/-! ### Verdicts -/

namespace Checker

/-- The verdicts on an upstream by itself and on a document around it: both accept, both reject the
structure, or both find the same broken rule. -/
inductive SameVerdict : Except Rejection Unit → Except Rejection Unit → Prop
  | accepted : SameVerdict (.ok ()) (.ok ())
  | structural (first second : Detail) (others more : List Detail) :
    SameVerdict (.error (.structural first others)) (.error (.structural second more))
  | semantic (violation : RuleViolation) :
    SameVerdict (.error (.semantic "" violation)) (.error (.semantic "upstream" violation))

end Checker

/-! ### Rules -/

/-- A document of a kind around an upstream; a route has an address besides. -/
def Resource.around (kind : Resource) (upstream : Json) : Json :=
  match kind with
  | .route => .object [("upstream", upstream), ("uri", .string "/a")]
  | _ => .object [("upstream", upstream)]

/-- The kinds whose documents have an upstream inside. -/
def Resource.inlineKinds : List Resource := [.service, .streamRoute, .route]

/-- The kinds with an upstream inside are three. -/
theorem Resource.mem_inlineKinds {kind : Resource} :
    kind ∈ inlineKinds ↔ kind = .service ∨ kind = .streamRoute ∨ kind = .route := by
  simp [inlineKinds]

/-- On a document around an upstream, the rules that look at no upstream pass. -/
theorem Rule.check_around (setting : Setting) {kind : Resource}
    (listed : kind ∈ Resource.inlineKinds) (item : Json) :
    ∀ rule ∈ kind.rules, rule.concernsUpstream = false →
      rule.check setting (kind.around item) = .ok () := by
  have concerned {rule : Rule} {result : Prop} (looks : rule.concernsUpstream = true)
      (other : rule.concernsUpstream = false) : result := by
    rw [looks] at other
    cases other
  rcases Resource.mem_inlineKinds.1 listed with rfl | rfl | rfl <;>
    simp only [Resource.rules, List.forall_mem_cons]
  · exact ⟨concerned rfl, concerned rfl, by simp⟩
  · exact ⟨concerned rfl, concerned rfl, fun _ => rfl, by simp⟩
  · exact ⟨fun _ => rfl, concerned rfl, concerned rfl, fun _ => rfl, fun _ => rfl, by simp⟩

/-- The rules of a kind on a document around an upstream are those on the upstream. -/
theorem Rule.checkAll_around (setting : Setting) {kind : Resource}
    (listed : kind ∈ Resource.inlineKinds) {item : Json} {upstream : Upstream}
    (object : ∃ members, item = .object members) (read : item.readUpstream = .ok upstream) :
    checkAll setting (kind.around item) kind.rules =
      (upstream.checkThoroughly setting).mapError (Rejection.ofRule "upstream") := by
  obtain ⟨members, rfl⟩ := object
  have found (document : Json)
      (inside : document.get? "upstream" = some (.object members)) :
      (UpstreamPlace.field "upstream").read document = .ok (some upstream) := by
    simp only [UpstreamPlace.read, UpstreamPlace.value?, inside, read]
  rw [checkAll_filter (check_around setting listed _)]
  rcases Resource.mem_inlineKinds.1 listed with rfl | rfl | rfl <;>
    exact checkAll_upstream (found _ rfl)

namespace Packaged

variable {release : Release} {item : Json}

/-! ### Structure -/

/-- A schema that refers to places is the same from everywhere. -/
theorem RefersTo.read_eq {schema : Json} {named : List String}
    (refers : RefersTo release schema named) (inside : ∀ place ∈ named, place ∈ places)
    (first second : Option String) : read first schema = read second schema := by
  apply read_congr
  intro reference written
  rw [refers] at written
  obtain ⟨place, member, rfl⟩ := List.mem_map.1 written
  rw [ofReference_place first release (inside place member),
    ofReference_place second release (inside place member)]

/-- A reference to the schema of upstreams accepts what the schema accepts by itself. -/
theorem accepts_upstream_reference (release : Release) (item : Json) :
    (read none (reference release "/main/upstream")).accepts (meaning release) item =
      (read none (upstream release)).accepts (meaning release) item := by
  have entry : ("/main/upstream", upstream release) ∈ placed release := by simp [placed]
  obtain ⟨named, refers, inside⟩ := schemaOf_refersTo release .upstream
  rw [accepts_reference entry]
  exact congrArg (fun schema => Schema.accepts (meaning release) schema item)
    (refers.read_eq inside _ none)

/-- A schema of an object that declares an upstream, and asks for nothing else, accepts a document
with an upstream alone exactly when the upstream is accepted. -/
theorem accepts_alone {properties : List (String × Json)}
    (declared : properties.lookup "upstream" = some (reference release "/main/upstream")) :
    (read none (.object [("properties", .object properties), ("type", .string "object")])).accepts
        (meaning release) (.object [("upstream", item)]) = true ↔
      (read none (reference release "/main/upstream")).accepts (meaning release) item = true := by
  rw [accepts_fields_iff ⟨rfl, rfl, rfl, rfl⟩]
  simp only [List.forall_mem_cons, accepts_properties_iff, Json.members]
  constructor
  · rintro ⟨each, -⟩
    exact each.1 _ declared
  · intro accepted
    refine ⟨⟨fun schema found => ?_, by simp⟩, rfl, by simp⟩
    rw [declared] at found
    exact Option.some.inj found ▸ accepted

/-- The schema of a kind accepts a document around an upstream exactly when the schema of upstreams
accepts the upstream. -/
theorem accepts_around (release : Release) {kind : Resource}
    (listed : kind ∈ Resource.inlineKinds) (item : Json) :
    (read none (schemaOf release kind)).accepts (meaning release) (kind.around item) = true ↔
      (read none (upstream release)).accepts (meaning release) item = true := by
  rw [← accepts_upstream_reference]
  rcases Resource.mem_inlineKinds.1 listed with rfl | rfl | rfl
  · exact accepts_alone rfl
  · exact accepts_alone rfl
  · rw [schemaOf, route, accepts_fields_iff ⟨rfl, rfl, rfl, rfl⟩]
    simp only [List.forall_mem_cons, accepts_properties_iff, Resource.around, Json.members]
    constructor
    · rintro ⟨-, declared, -⟩
      exact declared.1 _ rfl
    · intro accepted
      refine ⟨accepts_anyOf_iff.2 ⟨_, List.mem_cons_self, rfl⟩,
        ⟨fun schema found => ?_, fun schema found => ?_, by simp⟩, rfl, by simp⟩
      · exact Option.some.inj found ▸ accepted
      · -- The address of the route is within its limits, whatever the upstream.
        obtain rfl := Option.some.inj found
        rfl

/-- Every key of a document around an upstream is declared. -/
theorem declaresKeys_around (release : Release) {kind : Resource}
    (listed : kind ∈ Resource.inlineKinds) (item : Json) :
    DeclaresKeys (schemaOf release kind) (kind.around item) := by
  intro properties found
  rcases Resource.mem_inlineKinds.1 listed with rfl | rfl | rfl <;>
    obtain rfl := Option.some.inj found <;>
    simp only [Resource.around, Json.members, List.forall_mem_cons]
  · exact ⟨rfl, by simp⟩
  · exact ⟨rfl, by simp⟩
  · exact ⟨rfl, rfl, by simp⟩

/-! ### Judgements -/

/-- Upstreams that the schema accepts break a rule or pass, and what they break is the same by
themselves and inside a document. -/
theorem rules_sameVerdict {setting : Rule.Setting} (resolve : Upstream.KeysResolve setting)
    {kind : Resource} (listed : kind ∈ Resource.inlineKinds)
    (accepted : (read none (upstream release)).accepts (meaning release) item = true) :
    Checker.SameVerdict (Rule.checkAll setting item Resource.upstream.rules)
      (Rule.checkAll setting (kind.around item) kind.rules) := by
  have shaped := upstream_isShaped accepted
  obtain ⟨read, known, -⟩ := Json.readUpstream_of_isShaped shaped
  have own : Rule.checkAll setting item Resource.upstream.rules =
      (read.checkThoroughly setting).mapError (Rejection.ofRule "") := by
    apply Rule.checkAll_upstream
    simp only [UpstreamPlace.read, UpstreamPlace.value?, known]
  have prepared : ∀ rule ∈ Resource.upstream.rules, rule.IsPrepared item := rules_prepared accepted
  rw [Rule.checkAll_around setting listed shaped.object known]
  cases result : read.checkThoroughly setting with
  | ok =>
    rw [own, result]
    exact .accepted
  | error failure =>
    rw [result] at own
    -- The schema leaves nothing that could fail for another reason than a broken rule.
    obtain ⟨field, violation, same, -⟩ :=
      Rule.checkAll_error_of_isPrepared resolve prepared own
    rw [own]
    cases failure with
    | broken violation => exact .semantic violation
    | setup error => cases same

/-- For every release, an upstream is judged by itself for the lenient sink as it is judged inside
a service, a stream route or a route for either sink. -/
theorem inline_upstreams_judged_alike (release : Release) (limit : ReportLimit) :
    ∃ registry standalone, Registry.build Library.packaged = .ok registry ∧
      Checker.make registry release .upstream Resource.upstream.path limit .draft =
        .ok standalone ∧
      ∀ kind ∈ Resource.inlineKinds, ∀ (other : ReportLimit) (sink : Sink), ∃ inline,
        Checker.make registry release kind kind.path other sink = .ok inline ∧
          ∀ item, Checker.SameVerdict (standalone.check item) (inline.check (kind.around item)) := by
  obtain ⟨registry, built⟩ := exists_build
  obtain ⟨standalone, made, own, setting, structured⟩ :=
    make_kind built release .upstream limit .draft
  refine ⟨registry, standalone, built, made, fun kind listed other sink => ?_⟩
  obtain ⟨inline, madeInline, ownInline, settingInline, structuredInline⟩ :=
    make_kind built release kind other sink
  refine ⟨inline, madeInline, fun item => ?_⟩
  have alone : standalone.checkStructure item = .ok () ↔
      (read none (upstream release)).accepts (meaning release) item = true := by
    rw [structured, accepts_close (schemaOf_isOpen release .upstream)]
    exact and_iff_left fun strict => by cases strict
  have inside : inline.checkStructure (kind.around item) = .ok () ↔
      (read none (upstream release)).accepts (meaning release) item = true := by
    rw [structuredInline, accepts_close (schemaOf_isOpen release kind),
      accepts_around release listed]
    exact and_iff_left fun _ => declaresKeys_around release listed item
  by_cases accepted : (read none (upstream release)).accepts (meaning release) item = true
  · have resolve : Upstream.KeysResolve ⟨registry, release⟩ := fun path listed =>
      resolve_keyPath built release listed
    rw [Checker.check_of_structure (alone.2 accepted), Checker.check_of_structure (inside.2 accepted),
      own, ownInline, setting, settingInline]
    exact rules_sameVerdict resolve listed accepted
  · obtain ⟨first, others, refused⟩ := Checker.check_of_refused (mt alone.1 accepted)
    obtain ⟨second, more, refusedInline⟩ := Checker.check_of_refused (mt inside.1 accepted)
    rw [refused, refusedInline]
    exact .structural first second others more

end Packaged

end GatewayCheck
