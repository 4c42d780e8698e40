import GatewayCheck.Proofs.Packaged.Closing
import GatewayCheck.Proofs.Rule.Upstream
import GatewayCheck.Proofs.Schema.Looseness

/-!
Compatibility of releases. What a release accepts, every older release accepts, for every kind but
certificates for the strict sink. The rules do not depend on the release at all.
-/
namespace GatewayCheck

open Schema

/-! ### The order of releases -/

namespace Release

/-- What holds between neighbours, and is kept from release to release, holds of every older and
every newer release. -/
theorem rel_of_le (related : Release → Release → Prop)
    (same : ∀ release, related release release)
    (chain : ∀ {oldest older newer}, related oldest older → related older newer →
      related oldest newer)
    (first : related v3_2 v3_3) (second : related v3_3 v3_11) (third : related v3_11 v3_13)
    {older newer : Release} (ordered : older ≤ newer) : related older newer := by
  have middle := chain second third
  cases older <;> cases newer <;> first
    | exact same _
    | exact absurd ordered (by decide)
    | assumption
    | exact chain first second
    | exact chain first middle

end Release

namespace Packaged

variable {older newer : Release}

/-! ### Schemas -/

/-- Two references lead to the same place in the documents of two releases. -/
def areAlike (newer older : Release) (first second : String) : Bool :=
  places.any fun place =>
    first == newer.address ++ "#" ++ place && second == older.address ++ "#" ++ place

/-- The schemas of an older release are looser than those of a newer one, at every place and for
every kind. -/
structure AreLooser (older newer : Release) : Prop where
  places : ∀ place ∈ places, ((placed newer).lookup place).any fun strict =>
    ((placed older).lookup place).any fun loose => isLooser (areAlike newer older) strict loose
  kinds : ∀ kind ∈ Resource.all,
    isLooser (areAlike newer older) (schemaOf newer kind) (schemaOf older kind)

/-- Between the first releases, upstreams learn to verify certificates. -/
theorem areLooser_v3_2 : AreLooser .v3_2 .v3_3 := by
  constructor <;> decide +kernel

/-- Then certificates learn the protocols, and stream routes the superior of a protocol. -/
theorem areLooser_v3_3 : AreLooser .v3_3 .v3_11 := by
  constructor <;> decide +kernel

/-- Then nodes learn metadata. -/
theorem areLooser_v3_11 : AreLooser .v3_11 .v3_13 := by
  constructor <;> decide +kernel

/-- Alike references are carried over when the places in the documents are. -/
theorem carries_of_places {strict loose : Context}
    (carried : ∀ place ∈ places, ∀ value,
      strict.meaning ⟨some newer.address, place⟩ value = true →
        loose.meaning ⟨some older.address, place⟩ value = true) :
    Carries (areAlike newer older) strict loose := by
  intro first second alike value accepted
  obtain ⟨place, listed, same⟩ := List.any_eq_true.1 alike
  simp only [Bool.and_eq_true, beq_iff_eq] at same
  obtain ⟨rfl, rfl⟩ := same
  rw [ofReference_place _ newer listed] at accepted
  rw [ofReference_place _ older listed]
  exact carried place listed value accepted

/-- What the places of a newer release accept, those of an older one accept, however many
references are followed. -/
theorem meaningAt_contained (looser : AreLooser older newer) (steps : Nat) :
    ∀ place ∈ places, ∀ value,
      meaningAt Library.packaged.retrieve (document newer) steps ⟨some newer.address, place⟩
          value = true →
        meaningAt Library.packaged.retrieve (document older) steps ⟨some older.address, place⟩
          value = true := by
  induction steps with
  | zero =>
    intro place listed value accepted
    rfl
  | succ steps ih =>
    intro place listed value accepted
    -- One reference is followed on both sides; what the schemas there refer to, `ih` carries over.
    have both := looser.places place listed
    simp only [Option.any_eq_true] at both
    obtain ⟨strict, here, loose, there, looser⟩ := both
    obtain ⟨before, after, split, -⟩ := List.lookup_eq_some_iff.1 here
    obtain ⟨front, back, parts, -⟩ := List.lookup_eq_some_iff.1 there
    have strictFound := resolved?_placed newer (document newer) (place, strict) (by simp [split])
    have looseFound := resolved?_placed older (document older) (place, loose) (by simp [parts])
    have contained := @contained_of_isLooser
      ⟨some newer.address, meaningAt Library.packaged.retrieve (document newer) steps⟩
      ⟨some older.address, meaningAt Library.packaged.retrieve (document older) steps⟩
      _ (carries_of_places ih) loose strict looser
    rw [meaningAt, strictFound, Option.all_some] at accepted
    rw [meaningAt, looseFound, Option.all_some]
    exact contained value accepted

/-- What the schema of a kind accepts in a newer release, it accepts in an older one. -/
theorem schemaOf_contained (kind : Resource) (value : Json) (ordered : older ≤ newer)
    (accepted : (read none (schemaOf newer kind)).accepts (meaning newer) value = true) :
    (read none (schemaOf older kind)).accepts (meaning older) value = true := by
  have step {older newer : Release} (looser : AreLooser older newer)
      (accepted : (read none (schemaOf newer kind)).accepts (meaning newer) value = true) :
      (read none (schemaOf older kind)).accepts (meaning older) value = true :=
    @contained_of_isLooser ⟨none, meaning newer⟩ ⟨none, meaning older⟩ _
      (carries_of_places (meaningAt_contained looser 3)) _ _
      (looser.kinds kind (Resource.mem_all kind)) value accepted
  exact Release.rel_of_le
    (fun older newer => (read none (schemaOf newer kind)).accepts (meaning newer) value = true →
      (read none (schemaOf older kind)).accepts (meaning older) value = true)
    (fun _ accepted => accepted) (fun first second accepted => first (second accepted))
    (step areLooser_v3_2) (step areLooser_v3_3) (step areLooser_v3_11) ordered accepted

/-! ### Keys -/

/-- The keys that the schema of a kind declares at the top level. -/
def declaredKeys (release : Release) (kind : Resource) : Option (List String) :=
  ((schemaOf release kind).get? "properties").map fun content => content.members.map Prod.fst

/-- The schema of every kind but certificates declares the keys of the first release. -/
theorem declaredKeys_eq (release : Release) :
    ∀ kind ∈ Resource.all, kind ≠ .ssl → declaredKeys release kind = declaredKeys .v3_2 kind := by
  cases release <;> decide +kernel

/-- A document that declares its keys in one release does so in every other, except for a
certificate. -/
theorem declaresKeys_of_release {first second : Release} {kind : Resource} {value : Json}
    (other : kind ≠ .ssl) (declares : DeclaresKeys (schemaOf first kind) value) :
    DeclaresKeys (schemaOf second kind) value := by
  have listed := Resource.mem_all kind
  have keys : declaredKeys second kind = declaredKeys first kind :=
    (declaredKeys_eq second kind listed other).trans (declaredKeys_eq first kind listed other).symm
  intro properties found member inside
  rw [declaredKeys, found, Option.map_some] at keys
  obtain ⟨content, present, same⟩ := Option.map_eq_some_iff.1 keys.symm
  have declared := declares content present member inside
  rw [Json.get?_isSome_iff] at declared ⊢
  exact same ▸ declared

/-! ### Rules -/

/-- The schema of hash keys at a path is compiled to the same in every release. -/
theorem resolve_keyPath_eq {registry : Registry}
    (built : Registry.build Library.packaged = .ok registry) {path : String}
    (listed : path ∈ keyPaths) : ∃ schema compiled, ∀ release,
      registry.resolveFragment release path = .ok ⟨release, path, none, schema, compiled⟩ := by
  have plain {schema : Json}
      (stands : ∀ release, Library.packaged.fragment release path = .ok schema) :
      ∃ schema compiled, ∀ release,
        registry.resolveFragment release path = .ok ⟨release, path, none, schema, compiled⟩ := by
    obtain ⟨fragment, done⟩ := compile_keyPath .v3_2 listed
    obtain ⟨found, located, done⟩ := Except.bind_eq_ok.1 done
    obtain rfl := Except.ok.inj (located.symm.trans (stands .v3_2))
    dsimp only [Option.elim_none] at done
    split at done
    · rename_i compiled succeeded
      refine ⟨found, compiled, fun release => ?_⟩
      rw [Registry.resolveFragment_of_build built, Library.compile, stands release]
      simp only [bind, Except.bind, Option.elim_none, succeeded]
      rfl
    · cases done
  simp only [keyPaths, List.mem_cons, List.not_mem_nil, or_false] at listed
  rcases listed with rfl | rfl
  · exact plain fun _ => rfl
  · exact plain fun _ => rfl

/-- Hash keys are checked alike in every release. -/
theorem checkHashKey_of_release {registry : Registry}
    (built : Registry.build Library.packaged = .ok registry) (first second : Release)
    (upstream : Upstream) :
    upstream.checkHashKey ⟨registry, first⟩ = upstream.checkHashKey ⟨registry, second⟩ := by
  rw [Upstream.checkHashKey, Upstream.checkHashKey]
  rcases Upstream.keyPath?_cases upstream.hashSource with path | ⟨path, listed, found⟩ | unknown
  · rw [path]
  · obtain ⟨schema, compiled, resolved⟩ := resolve_keyPath_eq built listed
    simp only [found, Upstream.checkKeyAt, resolved]
    rfl
  · rw [unknown]

/-- For every kind and both sinks, and for certificates for the lenient sink, a document that a
newer release accepts is accepted by every older one; and for every kind and document, the rules
find the same in all releases. -/
theorem releases_are_compatible : ∃ registry, Registry.build Library.packaged = .ok registry ∧
    (∀ (older newer : Release) (kind : Resource) (sink : Sink) (limit other : ReportLimit),
      older ≤ newer → (kind = .ssl → sink = .draft) → ∃ before after,
        Checker.make registry older kind kind.path limit sink = .ok before ∧
          Checker.make registry newer kind kind.path other sink = .ok after ∧
          ∀ document, after.check document = .ok () → before.check document = .ok ()) ∧
    ∀ (first second : Release) (kind : Resource) (document : Json),
      Rule.checkAll ⟨registry, first⟩ document kind.rules =
        Rule.checkAll ⟨registry, second⟩ document kind.rules := by
  obtain ⟨registry, built⟩ := exists_build
  have rules (first second : Release) (document : Json) (rules : List Rule) :
      Rule.checkAll ⟨registry, first⟩ document rules =
        Rule.checkAll ⟨registry, second⟩ document rules :=
    Rule.checkAll_congr (checkHashKey_of_release built first second) document rules
  refine ⟨registry, built, fun older newer kind sink limit other ordered lenient => ?_,
    fun first second kind document => rules first second document kind.rules⟩
  obtain ⟨before, madeBefore, ownBefore, settingBefore, structuredBefore⟩ :=
    make_kind built older kind limit sink
  obtain ⟨after, madeAfter, ownAfter, settingAfter, structuredAfter⟩ :=
    make_kind built newer kind other sink
  refine ⟨before, after, madeBefore, madeAfter, fun document passed => ?_⟩
  obtain ⟨right, passed⟩ := Checker.check_eq_ok.1 passed
  rw [structuredAfter, accepts_close (schemaOf_isOpen newer kind)] at right
  refine Checker.check_eq_ok.2 ⟨?_, ?_⟩
  · rw [structuredBefore, accepts_close (schemaOf_isOpen older kind)]
    refine ⟨schemaOf_contained kind document ordered right.1, fun strict => ?_⟩
    have certain : kind ≠ .ssl := fun same => by
      rw [lenient same] at strict
      cases strict
    exact declaresKeys_of_release certain (right.2 strict)
  · rw [ownAfter, settingAfter] at passed
    rw [ownBefore, settingBefore, rules older newer]
    exact passed

/-- An upstream whose node has metadata, of which only the newest release knows. -/
def describedUpstream : Json :=
  .object [("nodes", .array [.object [
    ("host", .string "a"),
    ("metadata", .object []),
    ("weight", .whole 1)]])]

/-- The oldest release accepts the upstream with metadata because the newest does. -/
theorem metadata_is_compatible : ∃ registry checker,
    Registry.build Library.packaged = .ok registry ∧
      Checker.make registry .v3_2 .upstream Resource.upstream.path .fallback .runtime =
        .ok checker ∧
      checker.check describedUpstream = .ok () := by
  obtain ⟨registry, built, compatible, -⟩ := releases_are_compatible
  have ordered : Release.v3_2 ≤ .v3_13 := by decide
  have lenient : Resource.upstream = .ssl → Sink.runtime = .draft := fun same => by cases same
  obtain ⟨before, after, madeBefore, madeAfter, accepts⟩ :=
    compatible .v3_2 .v3_13 .upstream .runtime .fallback .fallback ordered lenient
  obtain ⟨other, again, own, -, structured⟩ := make_kind built .v3_13 .upstream .fallback .runtime
  obtain rfl := Except.ok.inj (again.symm.trans madeAfter)
  have passed : other.check describedUpstream = .ok () := by
    rw [Checker.check_eq_ok, own]
    exact ⟨(structured describedUpstream).2 (by decide +kernel), rfl⟩
  exact ⟨registry, before, built, madeBefore, accepts describedUpstream passed⟩

end Packaged

end GatewayCheck
