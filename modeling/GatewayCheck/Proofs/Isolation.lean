import GatewayCheck.Proofs.Checker
import GatewayCheck.Proofs.Packaged.Form
import GatewayCheck.Proofs.Registry
import GatewayCheck.Proofs.Rule.Upstream
import GatewayCheck.Proofs.Schema.Isolation

/-!
Isolation of releases. A schema document that refers to its own address is judged by itself, as long
as its address leads to it: then the documents of the other releases do not matter.
-/
namespace GatewayCheck

open Schema

namespace Library

variable {first second : Library} {release : Release} {document : Json}

/-- A part of a document has no other references than the document. -/
theorem fragment_subset {library : Library} {path : String} {schema : Json}
    (holds : library.document? release = some document)
    (found : library.fragment release path = .ok schema) :
    schema.everyReference ⊆ document.everyReference := by
  obtain ⟨whole, held, found⟩ := Except.bind_eq_ok.1 found
  rw [Library.document, holds] at held
  obtain rfl := Except.ok.inj held
  split at found
  · rename_i members place
    obtain rfl := Except.ok.inj found
    exact Json.textsUnder_atPath? place
  · rename_i value place
    obtain rfl := Except.ok.inj found
    exact Json.textsUnder_atPath? place
  · cases found

/-- Libraries with the same document for a release have the same parts of it. -/
theorem fragment_congr (same : first.document? release = second.document? release)
    (path : String) : first.fragment release path = second.fragment release path := by
  simp only [fragment, Library.document, same]

/-- Libraries that serve a document that refers to its own address compile it to the same. -/
theorem compile_congr (firstHolds : first.document? release = some document)
    (secondHolds : second.document? release = some document)
    (own : IsSelfContained (addressOf release document) document)
    (firstServes : first.retrieve (addressOf release document) = some document)
    (secondServes : second.retrieve (addressOf release document) = some document)
    (path : String) (sink? : Option Sink) :
    first.compile release path sink? = second.compile release path sink? := by
  rw [Library.compile, Library.compile,
    fragment_congr (firstHolds.trans secondHolds.symm) path]
  cases found : second.fragment release path with
  | error error => simp only [bind, Except.bind]
  | ok schema =>
    have part := own.mono (fragment_subset secondHolds found)
    have closed : IsSelfContained (addressOf release document)
        (sink?.elim schema fun sink => sink.close schema) := by
      cases sink? with
      | none => exact part
      | some sink => exact part.mono (Json.textsUnder_close sink schema)
    have served : ∀ json, first.retrieve (addressOf release document) = some json →
        IsSelfContained (addressOf release document) json := by
      intro json found
      exact Option.some.inj (firstServes.symm.trans found) ▸ own
    have compiled := Schema.compile_congr (firstServes.trans secondServes.symm) closed served
    simp only [bind, Except.bind, compiled]

/-- A document is served under its address when no newer release has a document there. -/
theorem retrieve_of_newest {library : Library} (holds : library.document? release = some document)
    (newest : ∀ newer other, ¬ newer ≤ release → library.document? newer = some other →
      addressOf newer other ≠ addressOf release document) :
    library.retrieve (addressOf release document) = some document := by
  have sorted : Release.all.reverse.Pairwise fun newer older => ¬ newer ≤ older := by decide
  have listed : release ∈ Release.all.reverse := List.mem_reverse.2 release.mem_all
  rw [retrieve, addressed]
  generalize Release.all.reverse = releases at sorted listed
  induction releases with
  | nil => cases listed
  | cons first rest ih =>
    obtain ⟨newer, sorted⟩ := List.pairwise_cons.1 sorted
    rcases List.mem_cons.1 listed with rfl | later
    · simp only [List.filterMap_cons, holds, Option.map_some, List.lookup_cons_self]
    · cases held : library.document? first with
      | none =>
        simp only [List.filterMap_cons, held, Option.map_none]
        exact ih sorted later
      | some other =>
        have apart := newest first other (newer release later) held
        have missed : (addressOf release document == addressOf first other) = false :=
          beq_false_of_ne apart.symm
        simp only [List.filterMap_cons, held, Option.map_some, List.lookup_cons, missed]
        exact ih sorted later

end Library

namespace Registry

/-- Two registries give the same answers for a release. -/
structure SameFor (release : Release) (first second : Registry) : Prop where
  resolve : ∀ kind path sink,
    first.resolve release kind path sink = second.resolve release kind path sink
  resolveFragment : ∀ path,
    first.resolveFragment release path = second.resolveFragment release path
  structural : ∀ kind path limit sink,
    (Checker.make first release kind path limit sink).map Checker.checkStructure =
      (Checker.make second release kind path limit sink).map Checker.checkStructure
  semantic : ∀ kind document, Rule.checkAll ⟨first, release⟩ document (Resource.rules kind) =
    Rule.checkAll ⟨second, release⟩ document kind.rules
  checked : ∀ kind path limit sink,
    (Checker.make first release kind path limit sink).map Checker.check =
      (Checker.make second release kind path limit sink).map Checker.check

/-- Registries whose libraries compile the same for a release give the same answers for it. -/
theorem sameFor_of_compile {firstLibrary secondLibrary : Library} {first second : Registry}
    {release : Release} (firstBuilt : build firstLibrary = .ok first)
    (secondBuilt : build secondLibrary = .ok second)
    (same : ∀ path sink?,
      firstLibrary.compile release path sink? = secondLibrary.compile release path sink?) :
    SameFor release first second := by
  have resolve (kind : Resource) (path : String) (sink : Sink) :
      first.resolve release kind path sink = second.resolve release kind path sink := by
    rw [resolve_of_build firstBuilt, resolve_of_build secondBuilt, same]
  have resolveFragment (path : String) :
      first.resolveFragment release path = second.resolveFragment release path := by
    rw [resolveFragment_of_build firstBuilt, resolveFragment_of_build secondBuilt, same]
  have semantic (document : Json) (rules : List Rule) :
      Rule.checkAll ⟨first, release⟩ document rules =
        Rule.checkAll ⟨second, release⟩ document rules :=
    Rule.checkAll_congr (Rule.checkHashKey_congr resolveFragment) document rules
  refine ⟨resolve, resolveFragment, fun kind path limit sink => ?_,
    fun kind document => semantic document kind.rules, fun kind path limit sink => ?_⟩
  · simp only [Checker.make, resolve]
    cases second.resolve release kind path sink <;> rfl
  · simp only [Checker.make, resolve]
    cases second.resolve release kind path sink with
    | error error => rfl
    | ok fragment =>
      apply congrArg Except.ok
      funext document
      simp only [Checker.check, semantic]
      rfl

end Registry

/-! ### A document under the address of another -/

namespace Shadowing

/-- The schema of consumers, whose name is defined elsewhere in the document. -/
def consumer : Json :=
  .object [("properties", .object [
    ("username", Packaged.reference .v3_2 "/definitions/name_def")])]

/-- A document in which names are values of a type, with an identifier and other members. -/
def naming (type : ValueType) (identifier? : Option String) (others : List (String × Json)) :
    Json :=
  .object (optionalMember "$id" .string identifier? ++
    ("definitions", .object [("name_def", .object [("type", .string type.name)])]) :: others)

/-- A document that refers to the address of its own release, where names are texts. -/
def older : Json := naming .string none [("main", .object [("consumer", consumer)])]

/-- The library of this document and of one for a newer release, where names are numbers. -/
def libraryWith (newer? : Option (Option String)) : Library :=
  .ofDocuments ((.v3_2, older) ::
    newer?.toList.map fun identifier? => (.v3_13, naming .integer identifier? []))

/-- The target of the only reference. -/
def nameTarget : Target := ⟨some Release.v3_2.address, "/definitions/name_def"⟩

/-- The reference leads to its target from everywhere. -/
theorem ofReference_name (base : Option String) :
    Target.ofReference base (Release.v3_2.address ++ "#" ++ "/definitions/name_def") =
      nameTarget :=
  Packaged.ofReference_place base .v3_2 (by decide)

/-- The definition of names stands at its target. -/
theorem atPlace?_naming (type : ValueType) (identifier? : Option String)
    (others : List (String × Json)) : (naming type identifier? others).atPlace? nameTarget.place =
      some (.object [("type", .string type.name)]) := by
  refine (Json.atPlace?_plain _ rfl rfl).trans ?_
  cases identifier? <;> rfl

/-- The only reference of the schema of consumers is that to names. -/
theorem ofReference_consumer (sink : Sink) {reference : String}
    (written : reference ∈ (sink.close consumer).references) :
    Target.ofReference none reference = nameTarget := by
  have only : consumer.references =
      [Release.v3_2.address ++ "#" ++ "/definitions/name_def"] := rfl
  rw [references_close, only] at written
  obtain rfl := List.mem_singleton.1 written
  exact ofReference_name none

/-- The only target of the schema of consumers is that of names. -/
theorem targets_consumer (sink : Sink) {target : Target}
    (listed : target ∈ (read none (sink.close consumer)).targets) : target = nameTarget := by
  obtain ⟨reference, written, rfl⟩ := targets_read none _ target listed
  exact ofReference_consumer sink written

/-- At the address of the older release stands a document where names are of a type. -/
def ServesNames (documents : Documents) (type : ValueType) : Prop :=
  ∃ identifier? others, documents Release.v3_2.address = some (naming type identifier? others) ∧
    (naming type identifier? others).references = []

/-- Everything under the address of the older release is the document that is served there. -/
theorem documentOf_name {documents : Documents} {document : Json} (schema : Json)
    (served : documents Release.v3_2.address = some document) {target : Target}
    (inside : target.document = nameTarget.document) :
    documentOf documents schema target = some document := by
  rw [documentOf_served inside (by decide), served]

/-- Compiling the schema of consumers looks at the document under the address of the older release
alone, and there at the definition of names and at the whole. -/
theorem consulted_consumer {documents : Documents} {type : ValueType} {sink : Sink}
    (serves : ServesNames documents type) {target : Target}
    (consulted : Consulted documents (sink.close consumer) target) :
    target = nameTarget ∨ target = ⟨nameTarget.document, ""⟩ := by
  obtain ⟨identifier?, others, served, unreferring⟩ := serves
  induction consulted with
  | written listed =>
    obtain ⟨reference, written, rfl⟩ := List.mem_map.1 listed
    exact .inl (ofReference_consumer sink written)
  | @onward target next json before here listed known =>
    have inside : target.document = nameTarget.document := by rcases known with rfl | rfl <;> rfl
    have silent : json.references = [] := by
      rw [resolved?, documentOf_name _ served inside, Option.bind_some] at here
      rcases known with rfl | rfl
      · obtain rfl := Option.some.inj ((atPlace?_naming type identifier? others).symm.trans here)
        rfl
      · obtain rfl := Option.some.inj here
        exact unreferring
    rw [writtenTargets, silent] at listed
    cases listed
  | whole before inside known =>
    rcases known with rfl | rfl <;> exact .inr (by rw [nameTarget, ← inside]; rfl)

/-- No document is missing for the schema of consumers. -/
theorem nothing_missing {documents : Documents} {type : ValueType}
    (serves : ServesNames documents type) (sink : Sink) :
    firstMissing documents (sink.close consumer) mostReferences []
      (writtenTargets none (sink.close consumer)) = none := by
  refine firstMissing_eq_none fun target consulted => ?_
  have inside : target.document = nameTarget.document := by
    rcases consulted_consumer serves consulted with rfl | rfl <;> rfl
  obtain ⟨identifier?, others, served, -⟩ := serves
  rw [documentOf_name _ served inside]
  rfl

/-- The schema of consumers compiles when names are of one type at its address, and then it asks for
this type. -/
theorem compile_consumer {documents : Documents} {type : ValueType}
    (serves : ServesNames documents type) (sink : Sink) :
    ∃ compiled, Schema.compile documents (sink.close consumer) = .ok compiled ∧
      ∀ value, compiled.accepts value =
        (read none (sink.close consumer)).accepts (fun _ item => type.includes item) value := by
  have form : isForm (sink.close consumer) = true := by
    refine isForm_close sink ?_
    have reference := Packaged.isForm_reference .v3_2 (show "/definitions/name_def" ∈ _ by decide)
    simp [consumer, isForm, areForms, areFormsOfObject, areFormsOfMembers, reference]
  have here (schema : Json) : resolved? documents schema nameTarget =
      some (.object [("type", .string type.name)]) := by
    obtain ⟨identifier?, others, served, -⟩ := serves
    rw [resolved?, documentOf_name schema served rfl, Option.bind_some]
    exact atPlace?_naming type identifier? others
  have simple (base : Option String) :
      (read base (.object [("type", .string type.name)])).targets = [] :=
    targets_eq_nil rfl base
  have closed : IsClosed documents (sink.close consumer) [nameTarget] := by
    intro target listed
    obtain rfl := List.mem_singleton.1 listed
    exact ⟨_, here _, fun next inside => by rw [simple] at inside; cases inside⟩
  have inside : ∀ target ∈ (read none (sink.close consumer)).targets, target ∈ [nameTarget] :=
    fun target listed => List.mem_singleton.2 (targets_consumer sink listed)
  have few : (read none (sink.close consumer)).targets.length ≤ 64 := by
    cases sink <;> decide +kernel
  have bound : remaining documents (sink.close consumer) [] [nameTarget] = 0 := by
    simp [remaining, unread, branching, here, simple]
  have present := nothing_missing serves sink
  obtain ⟨compiled, linked, same⟩ := link_of_isClosed closed inside (by
    have large : 64 ≤ mostReferences := by decide
    omega)
  refine ⟨compiled, by rw [compile_of_isForm form present, linked], ?_⟩
  intro value
  rw [(same value).1]
  apply accepts_congr
  intro target listed item
  obtain ⟨steps, enough⟩ : ∃ steps, compiled.stepsFor value = steps + 1 :=
    ⟨compiled.stepsFor value - 1, by have := (same value).2 target listed; omega⟩
  obtain rfl := targets_consumer sink listed
  rw [enough, meaningAt, here, Option.all_some, accepts_typeForm]

/-- The library has the document of the older release. -/
theorem document?_older (newer? : Option (Option String)) :
    (libraryWith newer?).document? .v3_2 = some older := by
  cases newer? <;> rfl

/-- The documents of the library are that of the older release and that of the newer. -/
theorem document?_libraryWith {newer? : Option (Option String)} {release : Release}
    {document : Json} (holds : (libraryWith newer?).document? release = some document) :
    release = .v3_2 ∧ document = older ∨
      ∃ identifier?, document = naming .integer identifier? [] := by
  cases newer? <;> cases release <;> cases holds
  · exact .inl ⟨rfl, rfl⟩
  · exact .inl ⟨rfl, rfl⟩
  · exact .inr ⟨_, rfl⟩

/-- The document refers to its own address alone. -/
theorem isSelfContained_older : IsSelfContained (Library.addressOf .v3_2 older) older := by
  intro reference listed
  have only : older.everyReference = [Release.v3_2.address ++ "#" ++ "/definitions/name_def"] := rfl
  rw [only] at listed
  obtain rfl := List.mem_singleton.1 listed
  exact ⟨.inr (by rw [ofReference_name]; rfl), .inr (by rw [ofReference_name]; rfl)⟩

/-- The schema of consumers compiles in the library, and asks for the type of names that stands at
the address of the older release. -/
theorem compile_libraryWith {newer? : Option (Option String)} {type : ValueType}
    (serves : ServesNames (libraryWith newer?).retrieve type) (sink : Sink) :
    ∃ fragment,
      (libraryWith newer?).compile .v3_2 Resource.consumer.path (some sink) = .ok fragment ∧
      ∀ value, fragment.accepts value =
        (read none (sink.close consumer)).accepts (fun _ item => type.includes item) value := by
  obtain ⟨compiled, done, same⟩ := compile_consumer serves sink
  have stands : (libraryWith newer?).fragment .v3_2 Resource.consumer.path = .ok consumer := by
    simp only [Library.fragment, Library.document, document?_older]
    rfl
  refine ⟨⟨.v3_2, Resource.consumer.path, some sink, sink.close consumer, compiled⟩, ?_, same⟩
  simp only [Library.compile, stands, bind, Except.bind, Option.elim_some, done]
  rfl

/-- A registry over the library can be built. -/
theorem exists_build {newer? : Option (Option String)} {type : ValueType}
    (serves : ServesNames (libraryWith newer?).retrieve type) :
    ∃ registry, Registry.build (libraryWith newer?) = .ok registry := by
  refine Registry.exists_build_iff.2 fun release contained => ?_
  obtain ⟨document, holds⟩ := Library.mem_releases.1 contained
  refine ⟨fun kind sink => ?_, fun path listed => ⟨none, Library.compileDefined_of_absent holds ?_ none⟩⟩
  · rcases document?_libraryWith holds with ⟨rfl, rfl⟩ | ⟨identifier?, rfl⟩
    · by_cases consumes : kind = .consumer
      · subst consumes
        obtain ⟨fragment, done, -⟩ := compile_libraryWith serves sink
        exact ⟨some fragment, Library.compileDefined_of_compile done⟩
      · refine ⟨none, Library.compileDefined_of_absent holds ?_ (some sink)⟩
        cases kind <;> first | rfl | exact absurd rfl consumes
    · refine ⟨none, Library.compileDefined_of_absent holds ?_ (some sink)⟩
      cases identifier? <;> cases kind <;> rfl
  · simp only [keyPaths, List.mem_cons, List.not_mem_nil, or_false] at listed
    rcases document?_libraryWith holds with ⟨rfl, rfl⟩ | ⟨identifier?, rfl⟩
    · rcases listed with rfl | rfl <;> rfl
    · cases identifier? <;> rcases listed with rfl | rfl <;> rfl

end Shadowing

/-! ### Isolation -/

namespace Registry

open Shadowing

/-- Registries over libraries with the same document for a release, which refers to its own address
and to which its address leads, give the same answers for the release. -/
theorem release_is_isolated {firstLibrary secondLibrary : Library} {first second : Registry}
    {release : Release} {document : Json} (firstBuilt : build firstLibrary = .ok first)
    (secondBuilt : build secondLibrary = .ok second)
    (firstHolds : firstLibrary.document? release = some document)
    (secondHolds : secondLibrary.document? release = some document)
    (own : IsSelfContained (Library.addressOf release document) document)
    (firstServes : firstLibrary.retrieve (Library.addressOf release document) = some document)
    (secondServes : secondLibrary.retrieve (Library.addressOf release document) = some document) :
    SameFor release first second :=
  sameFor_of_compile firstBuilt secondBuilt fun path sink? =>
    Library.compile_congr firstHolds secondHolds own firstServes secondServes path sink?

/-- A newer document that keeps to its own address changes nothing for the older release. -/
theorem older_is_isolated : ∃ first second,
    build (libraryWith none) = .ok first ∧ build (libraryWith (some none)) = .ok second ∧
      SameFor .v3_2 first second := by
  have served (newer? : Option (Option String)) (apart : newer? = none ∨ newer? = some none) :
      (libraryWith newer?).retrieve (Library.addressOf .v3_2 older) = some older := by
    refine Library.retrieve_of_newest (document?_older newer?) ?_
    rintro newer other later held
    rcases apart with rfl | rfl <;> cases newer <;> cases held
    · exact absurd (by decide) later
    · exact absurd (by decide) later
    · decide
  have text {newer? : Option (Option String)}
      (here : (libraryWith newer?).retrieve (Library.addressOf .v3_2 older) = some older) :
      ServesNames (libraryWith newer?).retrieve .string := ⟨_, _, here, rfl⟩
  have plain := served none (.inl rfl)
  have joined := served (some none) (.inr rfl)
  obtain ⟨first, firstBuilt⟩ := exists_build (text plain)
  obtain ⟨second, secondBuilt⟩ := exists_build (text joined)
  exact ⟨first, second, firstBuilt, secondBuilt,
    release_is_isolated firstBuilt secondBuilt (document?_older none) (document?_older (some none))
      isSelfContained_older plain joined⟩

/-- A consumer whose name is a text. -/
def bob : Json := .object [("username", .string "bob")]

/-- A newer document under the address of an older one changes what the older release accepts. -/
theorem newer_document_shadows : ∃ first second,
    build (libraryWith none) = .ok first ∧
      build (libraryWith (some (some Release.v3_2.address))) = .ok second ∧
      (libraryWith none).document? .v3_2 = some older ∧
      (libraryWith (some (some Release.v3_2.address))).document? .v3_2 = some older ∧
      IsSelfContained (Library.addressOf .v3_2 older) older ∧
      ∃ accepting rejecting,
        Checker.make first .v3_2 .consumer Resource.consumer.path .fallback .runtime =
          .ok accepting ∧
        Checker.make second .v3_2 .consumer Resource.consumer.path .fallback .runtime =
          .ok rejecting ∧
        accepting.check bob = .ok () ∧ rejecting.check bob ≠ .ok () := by
  have plain : ServesNames (libraryWith none).retrieve .string := ⟨_, _, rfl, rfl⟩
  have shadowed : ServesNames (libraryWith (some (some Release.v3_2.address))).retrieve .integer :=
    ⟨_, _, rfl, rfl⟩
  obtain ⟨first, firstBuilt⟩ := exists_build plain
  obtain ⟨second, secondBuilt⟩ := exists_build shadowed
  obtain ⟨own, firstDone, firstSame⟩ := compile_libraryWith plain .runtime
  obtain ⟨other, secondDone, secondSame⟩ := compile_libraryWith shadowed .runtime
  refine ⟨first, second, firstBuilt, secondBuilt, document?_older _, document?_older _,
    isSelfContained_older, ⟨.consumer, own, ⟨first, .v3_2⟩, .fallback⟩,
    ⟨.consumer, other, ⟨second, .v3_2⟩, .fallback⟩, ?_, ?_, ?_, ?_⟩
  · rw [Checker.make, resolve_of_build firstBuilt, firstDone]
    rfl
  · rw [Checker.make, resolve_of_build secondBuilt, secondDone]
    rfl
  · refine Checker.check_eq_ok.2 ⟨Checker.checkStructure_eq_ok.2 ?_, rfl⟩
    rw [firstSame]
    decide +kernel
  · intro passed
    have accepted := Checker.checkStructure_eq_ok.1 (Checker.check_eq_ok.1 passed).1
    rw [secondSame] at accepted
    revert accepted
    decide +kernel

end Registry

end GatewayCheck
