import GatewayCheck.Proofs.Packaged.Closing
import GatewayCheck.Proofs.Packaged.Upstream
import GatewayCheck.Proofs.Rule.Preparation

/-!
What the structure of a document promises to the rules. When the schema of a kind accepts a
document, its upstream can be read as it stands, its expressions are a list and its addresses are
filled, so a rule only fails for a reason that a schema cannot express.
-/
namespace GatewayCheck

open Schema

namespace Packaged

variable {release : Release} {base : Option String} {value : Json}

/-! ### Addresses -/

/-- The patterns of addresses. -/
def addressPatterns : List String :=
  [dottedNumbers ++ "$", dottedNumbers ++ "/([12]?[0-9]|3[0-2])$",
    "^[0-9a-fA-F.]*:[0-9a-fA-F:.]*$", "^[0-9a-fA-F.]*:[0-9a-fA-F:.]*/[0-9]\x7b1,3\x7d$"]

/-- No pattern of addresses is found in an empty text. -/
theorem addressPatterns_empty : ∀ source ∈ addressPatterns,
    (Keyword.familyOf source).pattern.isFoundIn "" = false := by
  decide +kernel

/-- An accepted address is a text that is not empty. -/
theorem address_accepted
    (accepted : (read base (reference release "/definitions/ip_def")).accepts (meaning release)
      value = true) : ∃ text, value = .string text ∧ text ≠ "" := by
  have entry : ("/definitions/ip_def", ipDef) ∈ placed release := by simp [placed]
  rw [accepts_reference entry] at accepted
  obtain ⟨alternative, listed, accepted⟩ := anyOf_accepted rfl accepted rfl
  have filled {source title : String} (known : source ∈ addressPatterns)
      (accepted : (read (some release.address) (.object [("pattern", .string source),
        ("title", .string title), ("type", .string "string")])).accepts (meaning release) value =
          true) : ∃ text, value = .string text ∧ text ≠ "" := by
    have typed : ValueType.string.includes value = true := typed_accepted rfl accepted rfl
    obtain ⟨text, rfl⟩ := ValueType.eq_string typed
    refine ⟨text, rfl, ?_⟩
    intro empty
    subst empty
    have found := pattern_accepted rfl accepted rfl
    rw [addressPatterns_empty source known] at found
    cases found
  simp only [List.mem_cons, List.not_mem_nil, or_false] at listed
  rcases listed with rfl | rfl | rfl | rfl
  · exact filled (by simp [addressPatterns]) accepted
  · exact filled (by simp [addressPatterns]) accepted
  · exact filled (by simp [addressPatterns]) accepted
  · exact filled (by simp [addressPatterns]) accepted

/-- The addresses of a field that holds one are filled. -/
theorem addressesOf_filled
    (accepted : (read base (reference release "/definitions/ip_def")).accepts (meaning release)
      value = true) : ∀ address ∈ addressesOf value, address ≠ "" := by
  obtain ⟨text, rfl, filled⟩ := address_accepted accepted
  simpa [addressesOf] using filled

/-- The addresses of a field that holds a list are filled. -/
theorem addressesOf_list_filled {schema : Json} (plain : schema.get? "$ref" = none)
    (accepted : (read base schema).accepts (meaning release) value = true)
    (type : schema.get? "type" = some (.string "array"))
    (each : schema.get? "items" = some (reference release "/definitions/ip_def")) :
    ∀ address ∈ addressesOf value, address ≠ "" := by
  have typed : ValueType.array.includes value = true := typed_accepted plain accepted type
  obtain ⟨items, rfl⟩ := ValueType.eq_array typed
  intro address listed
  obtain ⟨item, inside, rfl⟩ := List.mem_map.1 listed
  obtain ⟨text, rfl, filled⟩ := address_accepted (element_accepted plain accepted each item inside)
  exact filled

/-! ### Rules -/

/-- A document whose upstream is accepted is prepared for the rules on it. -/
theorem upstream_prepared (release : Release) {place : UpstreamPlace} {document : Json}
    (accepted : ∀ item, place.value? document = some item → ∃ base,
      (read base (upstream release)).accepts (meaning release) item = true) :
    (Rule.hashKey place).IsPrepared document ∧ (Rule.topology place).IsPrepared document := by
  have prepared : (Rule.hashKey place).IsPrepared document := by
    intro item found
    obtain ⟨base, accepted⟩ := accepted item found
    exact ⟨upstream_isShaped accepted, fun policy member => hostPolicy_accepted accepted member⟩
  exact ⟨prepared, prepared⟩

/-- A document whose schema refers to the schema of upstreams is prepared for the rules on it. -/
theorem inline_prepared {schema document : Json} (plain : schema.get? "$ref" = none)
    (found : (schema.get? "properties").bind (Json.get? "upstream") =
      some (reference release "/main/upstream"))
    (accepted : (read base schema).accepts (meaning release) document = true) :
    (Rule.hashKey (.field "upstream")).IsPrepared document ∧
      (Rule.topology (.field "upstream")).IsPrepared document := by
  apply upstream_prepared release
  intro item inside
  have member : document.get? "upstream" = some item := by
    simp only [UpstreamPlace.value?] at inside
    split at inside
    · cases inside
    · cases inside
    · rename_i present
      rw [present, ← inside]
  have entry : ("/main/upstream", upstream release) ∈ placed release := by simp [placed]
  have inner := member_accepted plain accepted found member
  rw [accepts_reference entry] at inner
  exact ⟨_, inner⟩

/-- A document that the schema of a kind accepts is prepared for the rules of the kind. -/
theorem rules_prepared {kind : Resource} {document : Json}
    (accepted : (read base (schemaOf release kind)).accepts (meaning release) document = true) :
    ∀ rule ∈ kind.rules, rule.IsPrepared document := by
  cases kind with
  | route =>
    obtain ⟨key, rest⟩ := inline_prepared rfl rfl accepted
    simp only [Resource.rules, List.forall_mem_cons]
    refine ⟨fun item member => ?_, key, rest, fun item member => ?_, fun item member => ?_, by simp⟩
    · have typed : ValueType.array.includes item = true :=
        typed_accepted rfl (member_accepted rfl accepted rfl member) rfl
      exact ValueType.eq_array typed
    · exact addressesOf_list_filled rfl (member_accepted rfl accepted rfl member) rfl rfl
    · exact addressesOf_filled (member_accepted rfl accepted rfl member)
  | service =>
    obtain ⟨key, rest⟩ := inline_prepared rfl rfl accepted
    simp only [Resource.rules, List.forall_mem_cons]
    exact ⟨key, rest, by simp⟩
  | upstream =>
    obtain ⟨key, rest⟩ := @upstream_prepared release .document document fun item found =>
      ⟨base, Option.some.inj found ▸ accepted⟩
    simp only [Resource.rules, List.forall_mem_cons]
    exact ⟨key, rest, by simp⟩
  | streamRoute =>
    obtain ⟨key, rest⟩ := inline_prepared rfl rfl accepted
    simp only [Resource.rules, List.forall_mem_cons]
    refine ⟨key, rest, fun item member => ?_, by simp⟩
    obtain ⟨alternative, listed, accepted⟩ :=
      anyOf_accepted rfl (member_accepted rfl accepted rfl member) rfl
    simp only [List.mem_cons, List.not_mem_nil, or_false] at listed
    rcases listed with rfl | rfl
    · exact addressesOf_filled accepted
    · exact addressesOf_list_filled rfl accepted rfl rfl
  | ssl | consumer | consumerGroup | pluginConfig | globalRule | pluginMetadata =>
    intro rule listed
    cases listed

/-! ### The promise -/

/-- What the rules of a kind find in a document that keeps the structure of the kind. -/
structure Promise (setting : Rule.Setting) (kind : Resource) (document : Json) : Prop where
  rules : Rule.checkAll setting document kind.rules = .ok () ∨
    ∃ rejection, Rule.checkAll setting document kind.rules = .error rejection ∧
      rejection.IsLeft document
  upstream : kind.carriesUpstream = true →
    (kind.upstreamPlace.value? document = none ∧
        kind.upstreamPlace.read document = .ok none) ∨
      ∃ item upstream, kind.upstreamPlace.value? document = some item ∧
        kind.upstreamPlace.read document = .ok (some upstream) ∧ upstream.Mirrors item

/-- Documents with the right structure keep the promise to the rules, for every kind and sink. -/
theorem structure_protects_rules (release : Release) (kind : Resource) (limit : ReportLimit)
    (sink : Sink) : ∃ registry checker, Registry.build Library.packaged = .ok registry ∧
      Checker.make registry release kind kind.path limit sink = .ok checker ∧
        ∀ document, checker.checkStructure document = .ok () →
          Promise checker.setting checker.kind document := by
  obtain ⟨registry, built⟩ := exists_build
  obtain ⟨checker, made, own, setting, structured⟩ := make_kind built release kind limit sink
  refine ⟨registry, checker, built, made, ?_⟩
  intro document right
  have accepted := ((accepts_close (schemaOf_isOpen release kind) sink).1
    ((structured document).1 right)).1
  have prepared := rules_prepared accepted
  have resolve : Upstream.KeysResolve checker.setting := by
    rw [setting]
    exact fun path listed => resolve_keyPath built release listed
  rw [own]
  constructor
  · cases result : Rule.checkAll checker.setting document kind.rules with
    | ok => exact .inl rfl
    | error rejection =>
      exact .inr ⟨rejection, rfl, Rule.checkAll_error_of_isPrepared resolve prepared result⟩
  · intro carries
    have listed : Rule.hashKey kind.upstreamPlace ∈ kind.rules := by
      have filtered := Resource.rules_on_upstream carries
      exact (List.mem_filter.1 (filtered ▸ List.mem_cons_self)).1
    exact Rule.read_of_isShaped fun item found => (prepared _ listed item found).1

/-- A service that forwards to a host which it does not give. -/
def hostlessService : Json :=
  .object [("upstream", .object [
    ("nodes", .object [("a:80", .whole 1)]),
    ("pass_host", .string "rewrite")])]

/-- A service with the right structure keeps the promise, although its upstream names no host. -/
theorem structure_protects_service : ∃ checker : Checker,
    checker.checkStructure hostlessService = .ok () ∧
      Promise checker.setting checker.kind hostlessService := by
  obtain ⟨registry, checker, built, made, protects⟩ :=
    structure_protects_rules .v3_13 .service .fallback .draft
  obtain ⟨other, again, -, -, structured⟩ := make_kind built .v3_13 .service .fallback .draft
  obtain rfl := Except.ok.inj (again.symm.trans made)
  have right : other.checkStructure hostlessService = .ok () :=
    (structured hostlessService).2 (by decide +kernel)
  exact ⟨other, right, protects hostlessService right⟩

end Packaged

end GatewayCheck
