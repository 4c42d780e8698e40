import GatewayCheck.Proofs.Json.Parts
import GatewayCheck.Proofs.Schema.Closing
import GatewayCheck.Proofs.Text.Lines

/-!
The texts of a document, which are its keys and its strings, wherever they stand. What is admitted of
all texts of a document is admitted of the texts of its parts.
-/
namespace GatewayCheck.Json

mutual

/-- Every key and every string of a document is admitted, wherever it stands. -/
def isWorded (key text : String → Bool) : Json → Bool
  | string value => text value
  | array items => areWorded key text items
  | object members => areWordedMembers key text members
  | _ => true
termination_by structural json => json

/-- Every key and every string of a list of documents is admitted. -/
def areWorded (key text : String → Bool) : List Json → Bool
  | [] => true
  | item :: rest => item.isWorded key text && areWorded key text rest
termination_by structural items => items

/-- Every key of members is admitted, and every key and every string of their values. -/
def areWordedMembers (key text : String → Bool) : List (String × Json) → Bool
  | [] => true
  | (name, value) :: rest =>
    key name && value.isWorded key text && areWordedMembers key text rest
termination_by structural members => members

end

/-- No key of a document holds a line break. -/
def hasUnbrokenKeys (json : Json) : Bool := json.isWorded Text.isUnbroken fun _ => true

/-- No key and no string of a document holds a line break. -/
def isUnbroken (json : Json) : Bool := json.isWorded Text.isUnbroken Text.isUnbroken

variable {key text : String → Bool} {json : Json}

/-- The texts of a list are admitted when those of each item are. -/
theorem areWorded_iff {items : List Json} :
    areWorded key text items = true ↔ ∀ item ∈ items, item.isWorded key text = true := by
  induction items with
  | nil => simp [areWorded]
  | cons item rest ih => simp [areWorded, ih]

/-- The texts of members are admitted when their keys are and the texts of their values. -/
theorem areWordedMembers_iff {members : List (String × Json)} :
    areWordedMembers key text members = true ↔
      ∀ member ∈ members, key member.1 = true ∧ member.2.isWorded key text = true := by
  induction members with
  | nil => simp [areWordedMembers]
  | cons member rest ih => simp [areWordedMembers, ih, and_assoc]

/-- What admits more texts admits every document that is admitted. -/
theorem isWorded_mono {otherKey otherText : String → Bool}
    (keys : ∀ name, key name = true → otherKey name = true)
    (texts : ∀ value, text value = true → otherText value = true)
    (worded : json.isWorded key text = true) : json.isWorded otherKey otherText = true := by
  induction json using Json.induct with
  | null | bool | number => rfl
  | string value => exact texts value worded
  | array items each =>
    exact areWorded_iff.2 fun item listed => each item listed (areWorded_iff.1 worded item listed)
  | object members each =>
    refine areWordedMembers_iff.2 fun member listed => ?_
    obtain ⟨name, inside⟩ := areWordedMembers_iff.1 worded member listed
    exact ⟨keys _ name, each member listed inside⟩

/-- What is admitted of a document is admitted of its items. -/
theorem isWorded_item (worded : json.isWorded key text = true) :
    ∀ item ∈ json.items, item.isWorded key text = true := by
  cases json with
  | array items => exact areWorded_iff.1 worded
  | null | bool | number | string | object => exact fun _ listed => nomatch listed

/-- What is admitted of a document is admitted of its members. -/
theorem isWorded_member (worded : json.isWorded key text = true) :
    ∀ member ∈ json.members, key member.1 = true ∧ member.2.isWorded key text = true := by
  cases json with
  | object members => exact areWordedMembers_iff.1 worded
  | null | bool | number | string | array => exact fun _ listed => nomatch listed

/-- Parts of a document have no texts but those that are admitted of it. -/
theorem isInherited_isWorded (key text : String → Bool) :
    IsInherited fun value => value.isWorded key text = true where
  item _ worded := isWorded_item worded
  member _ worded member listed := (isWorded_member worded member listed).2

/-- Closing a schema keeps its texts free of line breaks. -/
theorem isUnbroken_close (sink : Sink) (unbroken : json.isUnbroken = true) :
    (sink.close json).isUnbroken = true := by
  cases json with
  | object fields =>
    obtain same | ⟨-, -, -, before, after, rfl, closed⟩ := sink.close_cases fields
    · rwa [same]
    · have each := areWordedMembers_iff.1 unbroken
      rw [closed]
      refine areWordedMembers_iff.2 fun member listed => ?_
      rw [List.mem_append, List.mem_cons] at listed
      obtain listed | rfl | listed := listed
      · exact each member (List.mem_append_left _ listed)
      · exact ⟨by decide, rfl⟩
      · exact each member (List.mem_append_right _ listed)
  | null | bool | number | string | array => exact unbroken

end GatewayCheck.Json
