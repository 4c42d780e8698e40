import GatewayCheck.Number

/-!
Documents. An object is a list of members in the byte order of their keys, without repeated keys;
the functions that build objects keep it that way.
-/
namespace GatewayCheck

/-- A document, or a part of one. -/
inductive Json where
  | null
  | bool (value : Bool)
  | number (value : Number)
  | string (text : String)
  | array (items : List Json)
  | object (members : List (String × Json))
  deriving Repr, Inhabited

namespace Json

/-- The document of a whole number. -/
def whole (value : Int) : Json := number (.whole value)

/-- The document of a list of texts. -/
def texts (values : List String) : Json := array (values.map string)

/-- Puts a member at its place among sorted members; a member with the same key is replaced. -/
def insertMember (key : String) (value : Json) : List (String × Json) → List (String × Json)
  | [] => [(key, value)]
  | (first, kept) :: rest =>
    if key = first then (key, value) :: rest
    else if key < first then (key, value) :: (first, kept) :: rest
    else (first, kept) :: insertMember key value rest

/-- The object of the given members, sorted; of two members with one key the later remains. -/
def ofMembers (members : List (String × Json)) : Json :=
  object (members.foldl (fun sorted member => insertMember member.1 member.2 sorted) [])

/-- The members of an object; any other value has none. -/
def members : Json → List (String × Json)
  | object members => members
  | _ => []

/-- The items of an array; any other value has none. -/
def items : Json → List Json
  | array items => items
  | _ => []

/-- The value of an object under a key. -/
def get? (key : String) (json : Json) : Option Json := json.members.lookup key

/-- The text of a string. -/
def asString? : Json → Option String
  | string text => some text
  | _ => none

mutual

/-- Two documents are the same; numbers are compared by value, and not by the form in which they
were written. -/
def same : Json → Json → Bool
  | null, null => true
  | bool left, bool right => left == right
  | number left, number right => left.same right
  | string left, string right => left == right
  | array left, array right => sameItems left right
  | object left, object right => sameMembers left right
  | _, _ => false
termination_by structural left => left

/-- Two lists of documents are the same. -/
def sameItems : List Json → List Json → Bool
  | [], [] => true
  | left :: lefts, right :: rights => left.same right && sameItems lefts rights
  | _, _ => false
termination_by structural left => left

/-- Two lists of members are the same. -/
def sameMembers : List (String × Json) → List (String × Json) → Bool
  | [], [] => true
  | (leftKey, left) :: lefts, (rightKey, right) :: rights =>
    leftKey == rightKey && left.same right && sameMembers lefts rights
  | _, _ => false
termination_by structural left => left

end

mutual

/-- The number of arrays and objects around the innermost part of a document, and one more. -/
def depth : Json → Nat
  | array items => depthOfItems items + 1
  | object members => depthOfMembers members + 1
  | _ => 1
termination_by structural json => json

/-- The greatest depth among documents. -/
def depthOfItems : List Json → Nat
  | [] => 0
  | item :: rest => max item.depth (depthOfItems rest)
termination_by structural items => items

/-- The greatest depth among the values of members. -/
def depthOfMembers : List (String × Json) → Nat
  | [] => 0
  | (_, value) :: rest => max value.depth (depthOfMembers rest)
termination_by structural members => members

end

end Json

end GatewayCheck
