import GatewayCheck.Json.Pointer
import GatewayCheck.Proofs.Text.Pieces

/-!
Ways through documents. The ways from object to object that end in a wanted key can be listed, and
the segments of a dotted path that leads somewhere are one of them.
-/
namespace GatewayCheck

namespace Json

/-- The value at a dotted path is reached step by step. -/
theorem step?_of_atPath? {path : String} {json value : Json}
    (located : json.atPath? path = some value) :
    step? (pathSegments path) json = some value := by
  rw [atPath?] at located
  split at located
  · cases located
  · exact located

/-! ### Ways -/

mutual

/-- The ways through a document, from object to object, that end in a wanted key. -/
def waysTo (wanted : String → Bool) : Json → List (List String)
  | object members => waysInMembers wanted members
  | _ => []
termination_by structural json => json

/-- The ways that begin with one of the members. -/
def waysInMembers (wanted : String → Bool) : List (String × Json) → List (List String)
  | [] => []
  | (key, value) :: rest =>
    (if wanted key then [[key]] else []) ++ (value.waysTo wanted).map (key :: ·) ++
      waysInMembers wanted rest
termination_by structural members => members

end

/-- A way begins with a member and ends there, or goes on in its value. -/
theorem mem_waysInMembers {wanted : String → Bool} {members : List (String × Json)}
    {way : List String} :
    way ∈ waysInMembers wanted members ↔ ∃ member ∈ members,
      (wanted member.1 = true ∧ way = [member.1]) ∨
        ∃ rest ∈ member.2.waysTo wanted, way = member.1 :: rest := by
  induction members with
  | nil => simp [waysInMembers]
  | cons member others ih =>
    obtain ⟨key, value⟩ := member
    have here : way ∈ (if wanted key = true then [[key]] else []) ↔
        wanted key = true ∧ way = [key] := by
      split <;> simp_all
    have beyond : way ∈ (value.waysTo wanted).map (key :: ·) ↔
        ∃ rest ∈ value.waysTo wanted, way = key :: rest := by
      simp only [List.mem_map, @eq_comm _ way]
    rw [waysInMembers, List.mem_append, List.mem_append, ih, here, beyond]
    simp

/-- Every way that leads somewhere and ends in a wanted key is listed. -/
theorem mem_waysTo {wanted : String → Bool} {way : List String} {json value : Json} {last : String}
    (reached : step? way json = some value) (ends : way.getLast? = some last)
    (named : wanted last = true) : way ∈ json.waysTo wanted := by
  induction way generalizing json with
  | nil => cases ends
  | cons key rest ih =>
    obtain ⟨child, found, beyond⟩ := Option.bind_eq_some_iff.1 reached
    cases json with
    | object members =>
      have entry : members.lookup key = some child := found
      obtain ⟨before, after, split, -⟩ := List.lookup_eq_some_iff.1 entry
      have listed : (key, child) ∈ members := by simp [split]
      refine mem_waysInMembers.2 ⟨(key, child), listed, ?_⟩
      cases rest with
      | nil =>
        obtain rfl := Option.some.inj ends
        exact .inl ⟨named, rfl⟩
      | cons next more => exact .inr ⟨next :: more, ih beyond ends, rfl⟩
    | null | bool | number | string | array => cases found

end Json

end GatewayCheck
