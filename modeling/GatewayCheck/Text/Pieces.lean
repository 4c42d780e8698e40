/-!
Splitting a text at a separator.
-/
namespace GatewayCheck.Text

/-- The pieces of a text between the occurrences of a separator; there is always one more piece. -/
def pieces (separator : Char) : List Char → List (List Char)
  | [] => [[]]
  | character :: rest =>
    if character = separator then [] :: pieces separator rest
    else
      match pieces separator rest with
      | [] => [[character]]
      | piece :: others => (character :: piece) :: others

/-- The pieces of a text, as texts. -/
def split (separator : Char) (text : String) : List String :=
  (pieces separator text.toList).map String.ofList

end GatewayCheck.Text
