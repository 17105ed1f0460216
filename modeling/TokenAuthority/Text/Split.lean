/-!
# Cutting text at a separator

Three cuts at one separator character: at its first occurrence, at its last, and at each. The first
two fail when the separator does not occur; the last always gives at least one part. A known beginning
or end of a text can be taken off.
-/

namespace TokenAuthority
namespace Text

/-- The characters before and after the first `separator`, if it occurs. -/
def splitFirstChars? (separator : Char) : List Char → Option (List Char × List Char)
  | [] => none
  | character :: rest =>
    if character = separator then some ([], rest)
    else (splitFirstChars? separator rest).map fun (before, after) => (character :: before, after)

/-- The characters before and after the last `separator`, if it occurs. -/
def splitLastChars? (separator : Char) : List Char → Option (List Char × List Char)
  | [] => none
  | character :: rest =>
    match splitLastChars? separator rest with
    | some (before, after) => some (character :: before, after)
    | none => if character = separator then some ([], rest) else none

/-- The parts between the separators, from left to right. -/
def splitAllChars (separator : Char) : List Char → List (List Char)
  | [] => [[]]
  | character :: rest =>
    if character = separator then [] :: splitAllChars separator rest
    else
      match splitAllChars separator rest with
      | [] => [[character]]
      | part :: parts => (character :: part) :: parts

/-- The text before and after the first `separator`, if it occurs. -/
def splitFirst? (separator : Char) (text : String) : Option (String × String) :=
  (splitFirstChars? separator text.toList).map fun (before, after) =>
    (String.ofList before, String.ofList after)

/-- The text before and after the last `separator`, if it occurs. -/
def splitLast? (separator : Char) (text : String) : Option (String × String) :=
  (splitLastChars? separator text.toList).map fun (before, after) =>
    (String.ofList before, String.ofList after)

/-- The parts of the text between the separators, from left to right. -/
def splitAll (separator : Char) (text : String) : List String :=
  (splitAllChars separator text.toList).map String.ofList

/-- What is left of `text` once `start` is taken off its front, if it begins so. -/
def dropFront? : (start text : List Char) → Option (List Char)
  | [], text => some text
  | _ :: _, [] => none
  | expected :: start, character :: text =>
    if expected = character then dropFront? start text else none

/-- What is left of `text` once `finish` is taken off its back, if it ends so. -/
def dropBack? (finish text : List Char) : Option (List Char) :=
  (dropFront? finish.reverse text.reverse).map List.reverse

end Text
end TokenAuthority
