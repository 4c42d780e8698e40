import GatewayCheck.Proofs.Packaged.Closing

/-!
The two sinks on the packaged schemas. The strict sink asks one thing more than the lenient one:
that the keys at the top level of a document are declared.
-/
namespace GatewayCheck

open Schema

namespace Checker

variable {strict lenient : Checker} {schema document : Json}

/-- Two checkers agree on a document: on its structure, and on the rule that it breaks. -/
structure Agree (strict lenient : Checker) (document : Json) : Prop where
  structural : strict.checkStructure document = .ok () ↔ lenient.checkStructure document = .ok ()
  semantic : ∀ field violation, strict.check document = .error (.semantic field violation) ↔
    lenient.check document = .error (.semantic field violation)

/-- Two checkers differ in the keys at the top level and in nothing else. -/
structure DifferInKeys (strict lenient : Checker) (schema : Json) : Prop where
  accepted : ∀ document, strict.check document = .ok () ↔
    lenient.check document = .ok () ∧ DeclaresKeys schema document
  refused : ∀ document rejection, lenient.checkStructure document = .error rejection →
    ∃ other, strict.checkStructure document = .error other
  agree : ∀ document, DeclaresKeys schema document → Agree strict lenient document
  nested : ∀ document other, other.members.map Prod.fst = document.members.map Prod.fst →
    DeclaresKeys schema document → Agree strict lenient other

/-- Whether keys are declared depends on the keys at the top level alone. -/
theorem declaresKeys_congr {other : Json}
    (keys : other.members.map Prod.fst = document.members.map Prod.fst)
    (declares : DeclaresKeys schema document) : DeclaresKeys schema other := by
  intro properties found member listed
  have key : member.1 ∈ document.members.map Prod.fst := keys ▸ List.mem_map_of_mem listed
  obtain ⟨same, present, equal⟩ := List.mem_map.1 key
  exact equal ▸ declares properties found same present

/-- A structure is not right exactly when it is rejected. -/
theorem checkStructure_ne_ok {checker : Checker} :
    checker.checkStructure document ≠ .ok () ↔
      ∃ rejection, checker.checkStructure document = .error rejection := by
  cases checker.checkStructure document <;> simp

/-- A checker finds a broken rule exactly when the structure is right and the rules find it. -/
theorem check_eq_semantic {checker : Checker} {field : String} {violation : RuleViolation} :
    checker.check document = .error (.semantic field violation) ↔
      checker.checkStructure document = .ok () ∧
        Rule.checkAll checker.setting document checker.kind.rules =
          .error (.semantic field violation) := by
  have structural : checker.checkStructure document ≠ .error (.semantic field violation) := by
    rw [checkStructure]
    split <;> simp
  rw [check, Except.bind_eq_error]
  constructor
  · rintro (failed | ⟨_, right, broken⟩)
    · exact absurd failed structural
    · exact ⟨right, broken⟩
  · rintro ⟨right, broken⟩
    exact .inr ⟨(), right, broken⟩

/-- Checkers with the same rules, of which one closes the schema of the other, differ in keys. -/
theorem differInKeys_of_structure (kind : strict.kind = lenient.kind)
    (setting : strict.setting = lenient.setting)
    (closed : ∀ document, strict.checkStructure document = .ok () ↔
      lenient.checkStructure document = .ok () ∧ DeclaresKeys schema document) :
    DifferInKeys strict lenient schema := by
  have agree : ∀ document, DeclaresKeys schema document → Agree strict lenient document := by
    intro document declares
    have structural : strict.checkStructure document = .ok () ↔
        lenient.checkStructure document = .ok () := by
      rw [closed, and_iff_left declares]
    refine ⟨structural, ?_⟩
    intro field violation
    rw [check_eq_semantic, check_eq_semantic, structural, kind, setting]
  refine ⟨fun document => ?_, fun document rejection failed => ?_, agree,
    fun document other keys declares => agree other (declaresKeys_congr keys declares)⟩
  · rw [check_eq_ok, check_eq_ok, closed, kind, setting]
    exact and_right_comm
  · apply checkStructure_ne_ok.1
    intro right
    rw [((closed document).1 right).1] at failed
    cases failed

end Checker

namespace Packaged

/-- For every release and kind, the checkers for the two sinks differ in keys at the top level. -/
theorem sinks_differ_in_keys (release : Release) (kind : Resource) (limit : ReportLimit) :
    ∃ registry strict lenient schema, Registry.build Library.packaged = .ok registry ∧
      Checker.make registry release kind kind.path limit .runtime = .ok strict ∧
      Checker.make registry release kind kind.path limit .draft = .ok lenient ∧
      Library.packaged.fragment release kind.path = .ok schema ∧
      (schema.get? "properties").isSome = (kind != .pluginMetadata) ∧
      Checker.DifferInKeys strict lenient schema := by
  obtain ⟨registry, built⟩ := exists_build
  obtain ⟨strict, first, firstKind, firstSetting, closed⟩ :=
    make_kind built release kind limit .runtime
  obtain ⟨lenient, second, secondKind, secondSetting, opened⟩ :=
    make_kind built release kind limit .draft
  refine ⟨registry, strict, lenient, schemaOf release kind, built, first, second,
    fragment_schemaOf release kind, properties_isSome release kind,
    Checker.differInKeys_of_structure (firstKind.trans secondKind.symm)
      (firstSetting.trans secondSetting.symm) fun document => ?_⟩
  have isOpen := schemaOf_isOpen release kind
  rw [closed, opened, accepts_close isOpen, accepts_close isOpen]
  simp

end Packaged

end GatewayCheck
