import GatewayCheck.Rule.Basic

/-!
Checkers: one schema with the rules of its kind. The structure of a document is checked first, and
the rules only see documents whose structure is right.
-/
namespace GatewayCheck

/-- How many violations are reported; at least one is. -/
structure ReportLimit where
  most : Nat
  deriving DecidableEq, Repr

namespace ReportLimit

/-- Eight violations are reported unless another number is asked for. -/
def fallback : ReportLimit := ⟨8⟩

/-- The number of violations after the first that are reported. -/
def afterFirst (limit : ReportLimit) : Nat := limit.most - 1

/-- Reads a limit from the member of an object, or from the only item of an array. -/
def ofJson : Json → Except Json.ShapeError ReportLimit
  | .object members =>
    match (Json.object members).get? "max_reported_violations" with
    | none => .ok fallback
    | some value => value.readCount.map ReportLimit.mk
  | .array [] => .ok fallback
  | .array [value] => value.readCount.map ReportLimit.mk
  | .array (value :: rest) => do
    let _ ← value.readCount
    throw (.tooManyItems (rest.length + 1))
  | json => .error (.wrongType json "struct ValidatorOptions")

end ReportLimit

/-- A compiled schema with the rules of a kind. -/
structure Checker where
  kind : Resource
  fragment : Fragment
  setting : Rule.Setting
  limit : ReportLimit

namespace Checker

/-- The checker of a kind whose schema stands at a path. -/
def make (registry : Registry) (release : Release) (kind : Resource) (path : String)
    (limit : ReportLimit) (sink : Sink) : Except SetupError Checker := do
  let fragment ← registry.resolve release kind path sink
  return { kind, fragment, setting := { registry, release }, limit }

/-- The checker for the strict sink of the kind that a path names. -/
def atPath (registry : Registry) (release : Release) (path : String) :
    Except SetupError Checker := do
  let _ ← registry.library.fragment release path
  match Resource.ofPath? path with
  | none => throw (.unknownResource path)
  | some kind => make registry release kind path .fallback .runtime

/-- The sink whose strictness applies. -/
def sink (checker : Checker) : Sink := checker.fragment.sink?.getD .fallback

/-- Checks the structure of a document. -/
def checkStructure (checker : Checker) (document : Json) : Except Rejection Unit :=
  match checker.fragment.violations document with
  | [] => .ok ()
  | first :: others =>
    .error (.structural (.violation first)
      ((others.take checker.limit.afterFirst).map Detail.violation))

/-- Checks a document: its structure, and then the rules of its kind. -/
def check (checker : Checker) (document : Json) : Except Rejection Unit := do
  checker.checkStructure document
  Rule.checkAll checker.setting document checker.kind.rules

/-- Checks the document that bytes hold. -/
def checkBytes (checker : Checker) (bytes : Bytes) : Except Rejection Unit :=
  match Json.ofBytes bytes with
  | .ok document => checker.check document
  | .error error => .error (.malformed (.json error))

end Checker

end GatewayCheck
