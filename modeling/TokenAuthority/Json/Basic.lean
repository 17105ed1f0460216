/-!
# JSON documents

A document keeps the members of an object in the order in which they are written and keeps repeated
names, because the readers of typed records refuse repetitions and one text format echoes the order.

A document may hold parts that are well formed but denote nothing: a string with a lone surrogate or
with bytes that are not UTF-8, a number beyond the range of binary floating point. Such a part is
`unreadable`. It does no harm where a reader ignores it and is refused everywhere else, but for readers
that go on after a part whose value they did not get.
-/

namespace TokenAuthority

/-- How far one comes with a part that denotes nothing. -/
inductive Unreadable where
  /-- It is read to its end: a number that is too large, or a string with bytes that are not UTF-8. -/
  | whole
  /-- Reading stops inside it: at an escape that stands for no character, or among the digits of an
  exponent. -/
  | broken
deriving DecidableEq, Repr

/-- A JSON document. -/
inductive Json where
  | null
  | bool (value : Bool)
  /-- A number written without fraction and exponent, between -2^63 and 2^64 - 1. -/
  | integer (value : Int)
  /-- Any other number, as the bits of the binary64 value it denotes. -/
  | real (bits : UInt64)
  | string (value : String)
  | array (items : List Json)
  | object (members : List (String × Json))
  /-- Something well formed that denotes no value. -/
  | unreadable (kind : Unreadable)
deriving Inhabited, BEq

namespace Json

/-- A member only when there is a value for it. -/
def member? (name : String) (value : Option Json) : List (String × Json) :=
  match value with
  | some value => [(name, value)]
  | none => []

/-- The array of the given strings. -/
def strings (values : List String) : Json :=
  .array (values.map .string)

/-- The string, or null when there is none. -/
def stringOrNull (value : Option String) : Json :=
  match value with
  | some value => .string value
  | none => .null

/-- The last value that an object gives to a name. -/
def get? (document : Json) (name : String) : Option Json :=
  match document with
  | .object members => (members.reverse.find? fun (key, _) => key == name).map Prod.snd
  | _ => none

mutual

/-- How deep arrays and objects nest: 0 for a document without either. -/
def depth : Json → Nat
  | .array items => depthOfItems items + 1
  | .object members => depthOfMembers members + 1
  | _ => 0

/-- The greatest depth among the items of an array. -/
def depthOfItems : List Json → Nat
  | [] => 0
  | item :: items => max item.depth (depthOfItems items)

/-- The greatest depth among the members of an object. -/
def depthOfMembers : List (String × Json) → Nat
  | [] => 0
  | (_, value) :: members => max value.depth (depthOfMembers members)

end

mutual

/-- A document in which everything denotes a value. -/
def isReadable : Json → Bool
  | .unreadable _ => false
  | .array items => areItemsReadable items
  | .object members => areMembersReadable members
  | _ => true

/-- Every item of an array denotes a value. -/
def areItemsReadable : List Json → Bool
  | [] => true
  | item :: items => item.isReadable && areItemsReadable items

/-- Every member of an object denotes a value. -/
def areMembersReadable : List (String × Json) → Bool
  | [] => true
  | (_, value) :: members => value.isReadable && areMembersReadable members

end

end Json
end TokenAuthority
