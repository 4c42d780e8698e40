import GatewayCheck.Json.Pointer
import GatewayCheck.Proofs.Entries
import GatewayCheck.Schema.Reference

/-!
Parts of a document. What holds of a document whenever it holds of its parts holds of every document,
and what the items and the values of the members have from the document that they stand in, every
place in the document has.
-/
namespace GatewayCheck.Json

mutual

/-- What holds of a document whenever it holds of its items, or of the values of its members, holds
of every document. -/
@[elab_as_elim]
theorem induct {motive : Json → Prop} (null : motive null) (bool : ∀ value, motive (bool value))
    (number : ∀ value, motive (number value)) (string : ∀ text, motive (string text))
    (array : ∀ items, (∀ item ∈ items, motive item) → motive (array items))
    (object : ∀ members, (∀ member ∈ members, motive member.2) → motive (object members)) :
    ∀ json, motive json
  | .null => null
  | .bool value => bool value
  | .number value => number value
  | .string text => string text
  | .array items => array items (inductItems null bool number string array object items)
  | .object members => object members (inductMembers null bool number string array object members)
termination_by structural json => json

/-- What holds of a document whenever it holds of its parts holds of all items. -/
theorem inductItems {motive : Json → Prop} (null : motive null) (bool : ∀ value, motive (bool value))
    (number : ∀ value, motive (number value)) (string : ∀ text, motive (string text))
    (array : ∀ items, (∀ item ∈ items, motive item) → motive (array items))
    (object : ∀ members, (∀ member ∈ members, motive member.2) → motive (object members)) :
    ∀ items : List Json, ∀ item ∈ items, motive item
  | [] => nofun
  | item :: rest => List.forall_mem_cons.2 ⟨induct null bool number string array object item,
      inductItems null bool number string array object rest⟩
termination_by structural items => items

/-- What holds of a document whenever it holds of its parts holds of the values of all members. -/
theorem inductMembers {motive : Json → Prop} (null : motive null)
    (bool : ∀ value, motive (bool value)) (number : ∀ value, motive (number value))
    (string : ∀ text, motive (string text))
    (array : ∀ items, (∀ item ∈ items, motive item) → motive (array items))
    (object : ∀ members, (∀ member ∈ members, motive member.2) → motive (object members)) :
    ∀ members : List (String × Json), ∀ member ∈ members, motive member.2
  | [] => nofun
  | (_, value) :: rest => List.forall_mem_cons.2
      ⟨induct null bool number string array object value,
        inductMembers null bool number string array object rest⟩
termination_by structural members => members

end

/-- What is passed on from a document to its items and to the values of its members. -/
structure IsInherited (within : Json → Prop) : Prop where
  item : ∀ value, within value → ∀ item ∈ value.items, within item
  member : ∀ value, within value → ∀ member ∈ value.members, within member.2

namespace IsInherited

variable {within : Json → Prop} {json value : Json}

/-- The value under a key inherits from its object. -/
theorem get? (inherited : IsInherited within) {key : String} (outside : within json)
    (found : json.get? key = some value) : within value :=
  inherited.member json outside _ (Entries.mem_of_lookup found)

/-- One step into a document inherits from it. -/
theorem child? (inherited : IsInherited within) {segment : List Char} (outside : within json)
    (found : json.child? segment = some value) : within value := by
  cases json with
  | array items =>
    obtain ⟨index, -, inside⟩ := Option.bind_eq_some_iff.1 found
    exact inherited.item _ outside value (List.mem_of_getElem? inside)
  | object members => exact inherited.get? outside found
  | null | bool | number | string => cases found

/-- A place in a document inherits from it. -/
theorem atPlace? (inherited : IsInherited within) {place : String} (outside : within json)
    (found : json.atPlace? place = some value) : within value := by
  have along (segments : List (List Char)) {json : Json} (outside : within json)
      (found : segments.foldlM (fun value segment => Json.child? segment value) json =
        some value) : within value := by
    induction segments generalizing json with
    | nil => rwa [← Option.some.inj found]
    | cons segment rest ih =>
      obtain ⟨next, step, later⟩ := Option.bind_eq_some_iff.1 found
      exact ih (inherited.child? outside step) later
  rw [Json.atPlace?] at found
  split at found
  · rwa [← Option.some.inj found]
  · obtain ⟨decoded, -, found⟩ := Option.bind_eq_some_iff.1 found
    exact along _ outside found
  · cases found

/-- A dotted path leads to what inherits from the document. -/
theorem atPath? (inherited : IsInherited within) {path : String} (outside : within json)
    (found : json.atPath? path = some value) : within value := by
  have along (keys : List String) {json : Json} (outside : within json)
      (found : step? keys json = some value) : within value := by
    induction keys generalizing json with
    | nil => rwa [← Option.some.inj found]
    | cons key rest ih =>
      obtain ⟨next, step, later⟩ := Option.bind_eq_some_iff.1 found
      exact ih (inherited.get? outside step) later
  rw [Json.atPath?] at found
  split at found
  · cases found
  · exact along _ outside found

end IsInherited

end GatewayCheck.Json
