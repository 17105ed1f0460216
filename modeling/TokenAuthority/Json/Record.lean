import TokenAuthority.Json.Basic
import TokenAuthority.Width

/-!
# Records in JSON

How a record with named fields is taken from a document. Two spellings are accepted: an object, in
which each field may stand once and members with other names are ignored, and an array that holds the
fields in their order. An array may stop early only before fields that have a default.
-/

namespace TokenAuthority
namespace Json

/-- A field of a record. -/
structure Field where
  name : String
  /-- A record spelled as an array may end before this field. -/
  hasDefault : Bool := false

/-- The only member with the given name: `none` when the name is repeated, `some none` when it is
absent. -/
def onlyMember? (members : List (String × Json)) (name : String) : Option (Option Json) :=
  match members.filter fun (key, _) => key == name with
  | [] => some none
  | [(_, value)] => some (some value)
  | _ => none

/-- Deals the items of an array to the fields, from left to right. -/
def dealItems? : List Field → List Json → Option (List (Option Json))
  | [], [] => some []
  | [], _ :: _ => none
  | field :: fields, [] =>
    if field.hasDefault then (dealItems? fields []).map (none :: ·) else none
  | _ :: fields, item :: items => (dealItems? fields items).map (some item :: ·)

/-- What a document gives to each field of a record, in the order of the fields. -/
def fields? (fields : List Field) : Json → Option (List (Option Json))
  | .object members => fields.mapM fun field => onlyMember? members field.name
  | .array items => dealItems? fields items
  | _ => none

def asString? : Json → Option String
  | .string value => some value
  | _ => none

def asStrings? : Json → Option (List String)
  | .array items => items.mapM asString?
  | _ => none

/-- An integer of 64 bits with sign. -/
def asInt64? : Json → Option Int
  | .integer value => if IsSigned64 value then some value else none
  | _ => none

/-- An integer of 64 bits without sign. -/
def asUInt64? : Json → Option UInt64
  | .integer value => if IsUnsigned64 value then some (UInt64.ofNat value.toNat) else none
  | _ => none

/-- Null or a value. -/
def orNull? {α : Type} (read : Json → Option α) : Json → Option (Option α)
  | .null => some none
  | document => (read document).map some

/-- The value of a field that must be present. -/
def required? {α : Type} (read : Json → Option α) (slot : Option Json) : Option α :=
  slot.bind read

/-- The value of a field that may be absent or null. -/
def optional? {α : Type} (read : Json → Option α) : Option Json → Option (Option α)
  | none => some none
  | some document => orNull? read document

/-- The value of a field that has a default. -/
def withDefault? {α : Type} (value : α) (read : Json → Option α) : Option Json → Option α
  | none => some value
  | some document => read document

/-- The name of a choice without content: the name itself, or an object whose only member is that name
with null. -/
def asChoice? : Json → Option String
  | .string name => some name
  | .object [(name, .null)] => some name
  | _ => none

end Json
end TokenAuthority
