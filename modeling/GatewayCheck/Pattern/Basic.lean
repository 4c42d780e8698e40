/-!
Patterns and the texts in which they are found. A pattern is followed from a place in a text to the
places where it may end; a place is known by the characters after it.
-/
namespace GatewayCheck

/-- A set of characters, given by ranges, or the characters outside of the ranges. -/
structure CharacterSet where
  negated : Bool
  ranges : List (Char × Char)
  deriving DecidableEq, Repr

/-- A character belongs to a set. -/
def CharacterSet.contains (set : CharacterSet) (character : Char) : Bool :=
  (set.ranges.any fun range => range.1 ≤ character && character ≤ range.2) != set.negated

/-- A regular expression. -/
inductive Pattern where
  | empty
  | atStart
  | atEnd
  | character (set : CharacterSet)
  | sequence (first second : Pattern)
  | choice (first second : Pattern)
  | repeated (inner : Pattern) (least : Nat) (most : Option Nat)
  deriving DecidableEq, Repr

namespace Pattern

/-- A place in a text: whether it is the start, and the characters after it. -/
structure Place where
  isStart : Bool
  rest : List Char
  deriving DecidableEq, Repr

/-- The places after exactly `count` steps. -/
def afterExactly (step : Place → List Place) : (count : Nat) → List Place → List Place
  | 0, places => places
  | count + 1, places => afterExactly step count (places.flatMap step).eraseDups

/-- The places after at most `count` steps. -/
def afterAtMost (step : Place → List Place) : (count : Nat) → List Place → List Place
  | 0, places => places
  | count + 1, places =>
    if places.isEmpty then []
    else places ++ afterAtMost step count (places.flatMap step).eraseDups

/-- The steps that take characters away; only these are worth repeating without a bound. -/
def shortening (step : Place → List Place) (place : Place) : List Place :=
  (step place).filter fun next => next.rest.length < place.rest.length

/-- The places where a pattern may end that begins at a place. -/
def ends : Pattern → Place → List Place
  | empty, place => [place]
  | atStart, place => if place.isStart then [place] else []
  | atEnd, place => if place.rest.isEmpty then [place] else []
  | character set, place =>
    match place.rest with
    | [] => []
    | first :: rest => if set.contains first then [⟨false, rest⟩] else []
  | sequence first second, place => (first.ends place).flatMap second.ends
  | choice first second, place => first.ends place ++ second.ends place
  | repeated inner least most, place =>
    let required := afterExactly inner.ends least [place]
    match most with
    | some most => afterAtMost inner.ends (most - least) required
    | none => afterAtMost (shortening inner.ends) place.rest.length required

/-- A pattern begins at a place and ends somewhere. -/
def isAt (pattern : Pattern) (place : Place) : Bool := !(pattern.ends place).isEmpty

/-- A pattern begins at one of the places behind the start of a text. -/
def isFoundBehind (pattern : Pattern) : List Char → Bool
  | [] => false
  | _ :: rest => pattern.isAt ⟨false, rest⟩ || isFoundBehind pattern rest

/-- A pattern is found in a text, at its start or later. -/
def isFoundIn (pattern : Pattern) (text : String) : Bool :=
  pattern.isAt ⟨true, text.toList⟩ || isFoundBehind pattern text.toList

end Pattern

end GatewayCheck
