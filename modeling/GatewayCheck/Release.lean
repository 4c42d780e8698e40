/-!
Gateway releases. Every release has its own schema document, and the name of a release is matched
exactly.
-/
namespace GatewayCheck

/-- The supported gateway release lines. -/
inductive Release where
  | v3_2
  | v3_3
  | v3_11
  | v3_13
  deriving DecidableEq, Repr

namespace Release

/-- Every supported release, oldest first. -/
def all : List Release := [v3_2, v3_3, v3_11, v3_13]

/-- The name of a release. -/
def name : Release → String
  | v3_2 => "3.2"
  | v3_3 => "3.3"
  | v3_11 => "3.11"
  | v3_13 => "3.13"

/-- The release that is meant when none is named. -/
def fallback : Release := v3_13

/-- The release with the given name. -/
def ofName? (text : String) : Option Release := all.find? fun release => release.name = text

/-- The position of a release in the order of publication. -/
def rank : Release → Nat
  | v3_2 => 0
  | v3_3 => 1
  | v3_11 => 2
  | v3_13 => 3

instance : LE Release := ⟨fun older newer => older.rank ≤ newer.rank⟩

instance (older newer : Release) : Decidable (older ≤ newer) :=
  inferInstanceAs (Decidable (older.rank ≤ newer.rank))

/-- The address under which the schema document of a release is published. -/
def address (release : Release) : String :=
  "https://schemas.mgw.dev/apisix/" ++ release.name ++ "/schema.json"

/-- The name of the file that holds the schema document of a release. -/
def fileName (release : Release) : String := "apisix-" ++ release.name ++ ".json"

/-- The release whose file has the given name. -/
def ofFileName? (name : String) : Option Release := do
  let rest ← "apisix-".toList.isPrefixOf? name.toList
  let text ← ".json".toList.isSuffixOf? rest
  ofName? (String.ofList text)

/-- A release is found under its own name. -/
@[simp] theorem ofName?_name (release : Release) : ofName? release.name = some release := by
  cases release <;> decide

/-- Every release is listed. -/
theorem mem_all (release : Release) : release ∈ all := by
  cases release <;> decide

end Release

end GatewayCheck
