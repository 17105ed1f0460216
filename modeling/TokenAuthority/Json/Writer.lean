import TokenAuthority.Json.Basic
import TokenAuthority.Json.Real

/-!
# Writing JSON

Two layouts of one document: compact, without any blank, and indented by two spaces a level. Members
keep their order. A string escapes the quote, the backslash and the control characters below the space,
and nothing else, so no written document contains a line break that is not layout.
-/

namespace TokenAuthority
namespace Json

/-- The hexadecimal digit of a value below 16, in lower case. -/
def hexDigit (value : Nat) : Char :=
  if value < 10 then Char.ofNat (48 + value) else Char.ofNat (87 + value)

/-- A character as it stands inside quotes. -/
def escapeChar (character : Char) : List Char :=
  if character = '"' then ['\\', '"']
  else if character = '\\' then ['\\', '\\']
  else if 0x20 ≤ character.toNat then [character]
  else if character.toNat = 0x8 then ['\\', 'b']
  else if character.toNat = 0x9 then ['\\', 't']
  else if character.toNat = 0xa then ['\\', 'n']
  else if character.toNat = 0xc then ['\\', 'f']
  else if character.toNat = 0xd then ['\\', 'r']
  else ['\\', 'u', '0', '0', hexDigit (character.toNat / 16), hexDigit (character.toNat % 16)]

/-- A string in quotes. -/
def quoteChars (value : String) : List Char :=
  '"' :: value.toList.flatMap escapeChar ++ ['"']

/-- The digits of a natural number. -/
def naturalChars (value : Nat) : List Char :=
  Nat.toDigits 10 value

/-- An integer, with a minus sign when it is negative. -/
def integerChars (value : Int) : List Char :=
  if 0 ≤ value then naturalChars value.toNat else '-' :: naturalChars value.natAbs

mutual

/-- The compact layout. What is unreadable is written as null. -/
def compactChars : Json → List Char
  | .null => "null".toList
  | .bool true => "true".toList
  | .bool false => "false".toList
  | .integer value => integerChars value
  | .real bits => Real.text bits
  | .string value => quoteChars value
  | .array [] => ['[', ']']
  | .array (item :: items) => '[' :: item.compactChars ++ compactItems items
  | .object [] => ['{', '}']
  | .object ((name, value) :: members) =>
    '{' :: quoteChars name ++ ':' :: value.compactChars ++ compactMembers members
  | .unreadable _ => "null".toList

/-- The items after the first one, and the bracket that closes the array. -/
def compactItems : List Json → List Char
  | [] => [']']
  | item :: items => ',' :: item.compactChars ++ compactItems items

/-- The members after the first one, and the brace that closes the object. -/
def compactMembers : List (String × Json) → List Char
  | [] => ['}']
  | (name, value) :: members =>
    ',' :: quoteChars name ++ ':' :: value.compactChars ++ compactMembers members

end

/-- A line break and the indentation of a level. -/
def newline (level : Nat) : List Char :=
  '\n' :: List.replicate (2 * level) ' '

mutual

/-- The indented layout, for a document that stands at the given level. -/
def indentedChars (level : Nat) : Json → List Char
  | .array (item :: items) =>
    '[' :: newline (level + 1) ++ item.indentedChars (level + 1) ++ indentedItems level items
  | .object ((name, value) :: members) =>
    '{' :: newline (level + 1) ++ quoteChars name ++ ':' :: ' ' :: value.indentedChars (level + 1) ++
      indentedMembers level members
  | document => document.compactChars

/-- The items after the first one, and the bracket that closes the array. -/
def indentedItems (level : Nat) : List Json → List Char
  | [] => newline level ++ [']']
  | item :: items =>
    ',' :: newline (level + 1) ++ item.indentedChars (level + 1) ++ indentedItems level items

/-- The members after the first one, and the brace that closes the object. -/
def indentedMembers (level : Nat) : List (String × Json) → List Char
  | [] => newline level ++ ['}']
  | (name, value) :: members =>
    ',' :: newline (level + 1) ++ quoteChars name ++ ':' :: ' ' :: value.indentedChars (level + 1) ++
      indentedMembers level members

end

/-- The text of a document without blanks. -/
def compact (document : Json) : String :=
  String.ofList document.compactChars

/-- The text of a document over indented lines. -/
def indented (document : Json) : String :=
  String.ofList (document.indentedChars 0)

mutual

/-- The document with the members of every object in the order of their names. -/
def sorted : Json → Json
  | .array items => .array (sortedItems items)
  | .object members =>
    .object ((sortedMembers members).mergeSort fun (left, _) (right, _) => !(right < left))
  | document => document

/-- Every item of an array with its members in order. -/
def sortedItems : List Json → List Json
  | [] => []
  | item :: items => item.sorted :: sortedItems items

/-- Every member's value with its members in order. -/
def sortedMembers : List (String × Json) → List (String × Json)
  | [] => []
  | (name, value) :: members => (name, value.sorted) :: sortedMembers members

end

end Json
end TokenAuthority
