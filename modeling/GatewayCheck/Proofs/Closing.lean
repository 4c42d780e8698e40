import GatewayCheck.Proofs.Json.References
import GatewayCheck.Proofs.Packaged.Closing
import GatewayCheck.Proofs.Schema.ClosedRoot

/-!
The two sinks agree below the top level. A document whose keys are declared at the top is judged
alike for both sinks, unless a reference leads from the schema back to its own root: the root that
the strict sink closed is met again below the top level there. An identifier inside a schema can be
a second name of its root, and references by such names are not followed here; a schema that is
compiled with identifiers and with a reference to a whole schema therefore counts as one that may
lead back to its root.
-/
namespace GatewayCheck

open Schema

namespace Json

/-- A part of a document: the document itself, or a part of one of its items or members. -/
inductive HasPart : Json → Json → Prop
  | whole (json : Json) : HasPart json json
  | item {items : List Json} {item part : Json} (listed : item ∈ items)
    (inner : HasPart item part) : HasPart (.array items) part
  | member {members : List (String × Json)} {member : String × Json} {part : Json}
    (listed : member ∈ members) (inner : HasPart member.2 part) : HasPart (.object members) part

/-- The items of a part of a document are parts of the document. -/
theorem HasPart.of_item {document part item : Json} (has : document.HasPart part)
    (listed : item ∈ part.items) : document.HasPart item := by
  induction has with
  | whole json =>
    cases json with
    | array items => exact .item listed (.whole item)
    | null | bool | number | string | object => cases listed
  | item here _ ih => exact .item here (ih listed)
  | member here _ ih => exact .member here (ih listed)

/-- The values of the members of a part of a document are parts of the document. -/
theorem HasPart.of_member {document part : Json} {member : String × Json}
    (has : document.HasPart part) (listed : member ∈ part.members) :
    document.HasPart member.2 := by
  induction has with
  | whole json =>
    cases json with
    | object members => exact .member listed (.whole member.2)
    | null | bool | number | string | array => cases listed
  | item here _ ih => exact .item here (ih listed)
  | member here _ ih => exact .member here (ih listed)

/-- The parts of a document, and texts. -/
theorem isHereditary_hasPart (document : Json) :
    IsHereditary fun value => document.HasPart value ∨ ∃ text, value = .string text where
  item value inside item listed := by
    rcases inside with has | ⟨text, rfl⟩
    · exact .inl (has.of_item listed)
    · cases listed
  member value inside member listed := by
    rcases inside with has | ⟨text, rfl⟩
    · exact .inl (has.of_member listed)
    · cases listed
  key text := .inr ⟨text, rfl⟩

end Json

namespace Schema

/-- Identifiers give schemas other names than the addresses of their documents: the schema holds
one, or a document that compiling looks at holds another than its own. Such a name can stand for the
root. -/
def IsRenamed (documents : Documents) (schema : Json) : Prop :=
  schema.everyIdentifier ≠ [] ∨
    ∃ target document, Consulted documents schema target ∧
      documentOf documents schema target = some document ∧
      document.everyIdentifier ≠ (Library.identifier? document).toList

/-- Some reference of a document is to a whole schema or to a name, not to a place. -/
def RefersToWhole (json : Json) : Prop :=
  ∃ reference ∈ json.everyReference,
    (Target.ofReference none reference).place.toList.head? ≠ some '/'

/-- The root of a schema may be met again below the top level: a reference leads back to it, or
identifiers give other names and a reference to a whole schema may mean one of them. -/
def MayLeadBack (documents : Documents) (schema : Json) : Prop :=
  Reached documents schema (read none schema).targets Target.root ∨
    IsRenamed documents schema ∧
      (RefersToWhole schema ∨
        ∃ address document, documents address = some document ∧ RefersToWhole document)

end Schema

namespace SelfReference

/-- A schema of consumers in which a child is a consumer again. -/
def consumer : Json := .object [("properties", .object [("child", .object [("$ref", .string "#")])])]

/-- The document of a release with this schema and no other. -/
def document : Json := .object [("main", .object [("consumer", consumer)])]

/-- The library of this document. -/
def library : Library := .ofDocuments [(.v3_2, document)]

/-- A consumer whose child has a key that is not declared. -/
def family : Json := .object [("child", .object [("extra", .bool true)])]

/-- The schema as it is compiled for a sink: a child leads back to the root, closed or not. -/
def compiled (sink : Sink) : Compiled :=
  ⟨read none (sink.close consumer), [(Target.root, read none (sink.close consumer))]⟩

/-- The reference leads to the root of the schema that is compiled. -/
theorem targets_consumer (sink : Sink) :
    (read none (sink.close consumer)).targets = [Target.root] := by
  cases sink <;> decide +kernel

/-- Compiling the schema looks at its root alone. -/
theorem consulted_consumer {documents : Documents} {sink : Sink} {target : Target}
    (consulted : Consulted documents (sink.close consumer) target) : target = Target.root := by
  have written : writtenTargets none (sink.close consumer) = [Target.root] := by
    rw [writtenTargets, references_close]
    decide +kernel
  induction consulted with
  | written listed =>
    rw [written] at listed
    exact List.mem_singleton.1 listed
  | onward before here listed known =>
    subst known
    obtain rfl := Option.some.inj here
    rw [show Target.root.document = none from rfl, written] at listed
    exact List.mem_singleton.1 listed
  | whole before inside known =>
    subst known
    cases inside

/-- The schema compiles for both sinks, whatever documents there are. -/
theorem compile_consumer (documents : Documents) (sink : Sink) :
    Schema.compile documents (sink.close consumer) = .ok (compiled sink) := by
  have form : isForm (sink.close consumer) = true := isForm_close sink (by decide +kernel)
  have present := @firstMissing_eq_none documents (sink.close consumer) fun target consulted => by
    rw [consulted_consumer consulted]
    rfl
  obtain ⟨fuel, large⟩ : ∃ fuel, mostReferences = fuel + 2 := ⟨mostReferences - 2, rfl⟩
  have own := @resolved?_root documents (sink.close consumer)
  rw [resolved?] at own
  have first : gather documents (sink.close consumer) mostReferences [] [Target.root] =
      .ok [(Target.root, read none (sink.close consumer))] := by
    have again := targets_consumer sink
    rw [← show Target.root.document = none from rfl] at again
    simp [large, gather, own, again]
    rfl
  rw [compile_of_isForm form present, link, targets_consumer, first]
  rfl

/-- The part of the document as it is compiled for a sink. -/
def fragment (sink : Sink) : Fragment :=
  ⟨.v3_2, Resource.consumer.path, some sink, sink.close consumer, compiled sink⟩

/-- The schema is compiled for both sinks. -/
theorem compile_library (sink : Sink) :
    library.compile .v3_2 Resource.consumer.path (some sink) = .ok (fragment sink) :=
  Library.compile_eq_ok.2 ⟨consumer, compiled sink, rfl, compile_consumer _ sink, rfl⟩

/-- A registry over the library can be built. -/
theorem exists_build : ∃ registry, Registry.build library = .ok registry := by
  refine Registry.exists_build_iff.2 fun release contained => ?_
  obtain ⟨held, holds⟩ := Library.mem_releases.1 contained
  cases release with
  | v3_3 | v3_11 | v3_13 => cases holds
  | v3_2 =>
    obtain rfl := Option.some.inj holds
    refine ⟨fun kind sink => ?_, fun path listed =>
      ⟨none, Library.compileDefined_of_absent holds ?_ none⟩⟩
    · by_cases consumes : kind = .consumer
      · subst consumes
        exact ⟨some (fragment sink), Library.compileDefined_of_compile (compile_library sink)⟩
      · refine ⟨none, Library.compileDefined_of_absent holds ?_ (some sink)⟩
        cases kind <;> first | rfl | exact absurd rfl consumes
    · simp only [keyPaths, List.mem_cons, List.not_mem_nil, or_false] at listed
      rcases listed with rfl | rfl <;> rfl

end SelfReference

namespace Packaged

open Schema

/-- The document of a release gives itself its address, and no part of it gives itself another. -/
theorem everyIdentifier_document (release : Release) :
    (document release).everyIdentifier = [release.address] := by
  cases release <;> decide +kernel

/-- The schemas of kinds hold no identifiers. -/
theorem everyIdentifier_schemaOf (release : Release) (kind : Resource) :
    (schemaOf release kind).everyIdentifier = [] := by
  cases release <;> cases kind <;> decide +kernel

/-- No schema of a kind leads back to its root. -/
theorem not_mayLeadBack (release : Release) (kind : Resource) :
    ¬ MayLeadBack Library.packaged.retrieve (schemaOf release kind) := by
  obtain ⟨named, refers, places⟩ := schemaOf_refersTo release kind
  rintro (reached | ⟨plain | ⟨target, other, consulted, found, renamed⟩, -⟩)
  · have inside := reached.mem_of_isClosed (isClosed_reach release _) fun target listed => by
      obtain ⟨place, member, rfl⟩ := refers.targets places none listed
      exact mem_reach release (places place member)
    obtain ⟨entry, -, same⟩ := List.mem_map.1 inside
    cases same
  · exact plain (everyIdentifier_schemaOf release kind)
  · have known := refers.consulted places consulted
    obtain rfl := Option.some.inj (found.symm.trans (documentOf_address release _ known.1))
    exact renamed (everyIdentifier_document release)

end Packaged

/-- A service whose upstream has a key that is not declared there. -/
def looseService : Json :=
  .object [("upstream", .object [
    ("extra", .bool true),
    ("nodes", .object [("127.0.0.1:80", .whole 1)])])]

namespace Registry

variable {library : Library} {registry : Registry} {release : Release} {kind : Resource}
  {path : String} {schema document : Json} {strict lenient : Fragment}

/-- A document whose keys at the top are declared is accepted for both sinks or for neither. Where
the schema may lead back to its root, this holds of the documents whose keys are declared in every
part. -/
theorem only_the_top_level_is_closed (built : build library = .ok registry)
    (found : library.fragment release path = .ok schema)
    (once : (schema.members.map Prod.fst).Nodup)
    (closed : registry.resolve release kind path .runtime = .ok strict)
    (plain : registry.resolve release kind path .draft = .ok lenient)
    (declared : DeclaresKeys schema document)
    (below : MayLeadBack library.retrieve schema →
      ∀ part, document.HasPart part → DeclaresKeys schema part) :
    strict.accepts document = lenient.accepts document := by
  rw [resolve_of_build built] at closed plain
  obtain ⟨own, runtime, again, strictDone, rfl⟩ := Library.compile_eq_ok.1 closed
  obtain rfl := Except.ok.inj (found.symm.trans again)
  obtain ⟨own, draft, again, lenientDone, rfl⟩ := Library.compile_eq_ok.1 plain
  obtain rfl := Except.ok.inj (found.symm.trans again)
  have lenientDone : Schema.compile library.retrieve schema = .ok draft := by
    rw [← Sink.close_draft schema]
    exact lenientDone
  refine compiled_accepts_close .runtime once strictDone lenientDone
    (Json.isHereditary_hasPart document) (fun reached value inside => ?_)
    (.inl (.whole document)) declared
  rcases inside with has | ⟨text, rfl⟩
  · exact below (.inl reached) value has
  · intro properties _ member listed
    cases listed

/-- A service whose upstream has a key that is not declared is judged alike for both sinks. -/
theorem service_is_closed_at_the_top : ∃ registry strict lenient,
    build Library.packaged = .ok registry ∧
      registry.resolve .v3_13 .service Resource.service.path .runtime = .ok strict ∧
      registry.resolve .v3_13 .service Resource.service.path .draft = .ok lenient ∧
      strict.accepts looseService = lenient.accepts looseService := by
  obtain ⟨registry, built⟩ := Packaged.exists_build
  obtain ⟨strict, closed, -⟩ := Packaged.resolve_kind built .v3_13 .service .runtime
  obtain ⟨lenient, plain, -⟩ := Packaged.resolve_kind built .v3_13 .service .draft
  refine ⟨registry, strict, lenient, built, closed, plain,
    only_the_top_level_is_closed built (Packaged.fragment_schemaOf .v3_13 .service)
      (Packaged.schemaOf_isOpen .v3_13 .service).once closed plain ?_ ?_⟩
  · intro properties found member listed
    obtain rfl := List.mem_singleton.1 listed
    obtain rfl := Option.some.inj found
    rfl
  · intro back
    exact absurd back (Packaged.not_mayLeadBack .v3_13 .service)

/-- A consumer whose child has an undeclared key is refused for the strict sink, although the keys
at the top are declared: a reference leads back to the root, which is closed. -/
theorem self_reference_closes_below : ∃ registry strict lenient,
    build SelfReference.library = .ok registry ∧
      SelfReference.library.fragment .v3_2 Resource.consumer.path = .ok SelfReference.consumer ∧
      registry.resolve .v3_2 .consumer Resource.consumer.path .runtime = .ok strict ∧
      registry.resolve .v3_2 .consumer Resource.consumer.path .draft = .ok lenient ∧
      DeclaresKeys SelfReference.consumer SelfReference.family ∧
      strict.accepts SelfReference.family = false ∧ lenient.accepts SelfReference.family = true := by
  obtain ⟨registry, built⟩ := SelfReference.exists_build
  refine ⟨registry, SelfReference.fragment .runtime, SelfReference.fragment .draft, built, rfl,
    ?_, ?_, ?_, by decide +kernel, by decide +kernel⟩
  · rw [resolve_of_build built, SelfReference.compile_library]
  · rw [resolve_of_build built, SelfReference.compile_library]
  · intro properties found member listed
    obtain rfl := List.mem_singleton.1 listed
    obtain rfl := Option.some.inj found
    rfl

/-- Where a child must not be a consumer again, the strict sink is the one that accepts. -/
example : ∀ sink ∈ Sink.all,
    (Schema.compile (fun _ => none) (sink.close (.object [("properties", .object [
      ("child", .object [("not", .object [("$ref", .string "#")])])])]))).toOption.map
        (fun compiled => compiled.accepts SelfReference.family) = some sink.isStrict := by
  decide +kernel

end Registry

end GatewayCheck
