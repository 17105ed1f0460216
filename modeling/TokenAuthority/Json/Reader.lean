import TokenAuthority.Json.Basic
import TokenAuthority.Json.Real
import TokenAuthority.Width

/-!
# Reading JSON

A reader over the bytes of a text. It accepts exactly the grammar of JSON, to any depth and with no
blanks but the four of the format, and gives `none` for everything else. Whether a string or a number
that fits the grammar denotes something is a second question: where it does not, the document holds an
`unreadable` part at that place.

Each reader takes the bytes from the start of its part and gives the part with the bytes after it.
-/

namespace TokenAuthority
namespace Json

/-- The space, the tabulator, the line feed and the carriage return. -/
def isBlankByte (byte : UInt8) : Bool :=
  byte == 0x20 || byte == 0x9 || byte == 0xa || byte == 0xd

def skipBlanks : List UInt8 → List UInt8
  | [] => []
  | byte :: rest => if isBlankByte byte then skipBlanks rest else byte :: rest

/-- The value of a hexadecimal digit of either case. -/
def hexValue? (byte : UInt8) : Option Nat :=
  if 0x30 ≤ byte ∧ byte ≤ 0x39 then some (byte.toNat - 0x30)
  else if 0x41 ≤ byte ∧ byte ≤ 0x46 then some (byte.toNat - 0x37)
  else if 0x61 ≤ byte ∧ byte ≤ 0x66 then some (byte.toNat - 0x57)
  else none

/-- The value of four hexadecimal digits. -/
def hexValue4? (first second third fourth : UInt8) : Option Nat := do
  let first ← hexValue? first
  let second ← hexValue? second
  let third ← hexValue? third
  let fourth ← hexValue? fourth
  return ((first * 16 + second) * 16 + third) * 16 + fourth

/-- The byte that a one-letter escape stands for. -/
def simpleEscape? (letter : UInt8) : Option UInt8 :=
  if letter = 0x22 then some 0x22
  else if letter = 0x5c then some 0x5c
  else if letter = 0x2f then some 0x2f
  else if letter = 0x62 then some 0x8
  else if letter = 0x66 then some 0xc
  else if letter = 0x6e then some 0xa
  else if letter = 0x72 then some 0xd
  else if letter = 0x74 then some 0x9
  else none

/-- The bytes of a code point in UTF-8. -/
def codePointBytes (code : Nat) : List UInt8 :=
  String.utf8EncodeChar (Char.ofNat code)

/-- Puts bytes in front of the content of a string; a string that is spoilt stays spoilt. -/
def pushBytes (bytes : List UInt8) (content : Option (List UInt8) × List UInt8) :
    Option (List UInt8) × List UInt8 :=
  (content.1.map (bytes ++ ·), content.2)

/-- Marks a string as spoilt: it holds an escape that stands for no character. -/
def spoil (content : Option (List UInt8) × List UInt8) : Option (List UInt8) × List UInt8 :=
  (none, content.2)

/-- The content of a string from after its opening quote to its closing quote, with the escapes
resolved. The content is missing when an escape names half of a surrogate pair. -/
def readContent? : List UInt8 → Option (Option (List UInt8) × List UInt8)
  | [] => none
  | byte :: rest =>
    if byte = 0x22 then some (some [], rest)
    else if byte = 0x5c then
      match rest with
      | [] => none
      | letter :: rest =>
        if letter = 0x75 then
          match rest with
          | a :: b :: c :: d :: rest =>
            match hexValue4? a b c d with
            | none => none
            | some code =>
              if 0xd800 ≤ code ∧ code < 0xdc00 then
                match rest with
                | back :: u :: e :: f :: g :: h :: after =>
                  match hexValue4? e f g h with
                  | some low =>
                    if back = 0x5c ∧ u = 0x75 ∧ 0xdc00 ≤ low ∧ low < 0xe000 then
                      (readContent? after).map (pushBytes
                        (codePointBytes (0x10000 + (code - 0xd800) * 0x400 + (low - 0xdc00))))
                    else (readContent? (back :: u :: e :: f :: g :: h :: after)).map spoil
                  | none => (readContent? (back :: u :: e :: f :: g :: h :: after)).map spoil
                | rest => (readContent? rest).map spoil
              else if 0xdc00 ≤ code ∧ code < 0xe000 then (readContent? rest).map spoil
              else (readContent? rest).map (pushBytes (codePointBytes code))
          | _ => none
        else
          match simpleEscape? letter with
          | some byte => (readContent? rest).map (pushBytes [byte])
          | none => none
    else if byte < 0x20 then none
    else (readContent? rest).map (pushBytes [byte])

/-- The text of string content, if it has content and that is UTF-8. -/
def contentText? (content : Option (List UInt8)) : Option String :=
  content.bind fun bytes => String.fromUTF8? ⟨bytes.toArray⟩

/-- The value of string content. -/
def contentValue (content : Option (List UInt8)) : Json :=
  match contentText? content with
  | some value => .string value
  | none => .unreadable (if content.isSome then .whole else .broken)

/-- A decimal digit. -/
def isDigitByte (byte : UInt8) : Bool :=
  0x30 ≤ byte && byte ≤ 0x39

/-- The digits at the front, as values, and the bytes after them. -/
def readDigits : List UInt8 → List Nat × List UInt8
  | [] => ([], [])
  | byte :: rest =>
    if isDigitByte byte then
      let (digits, rest) := readDigits rest
      ((byte.toNat - 0x30) :: digits, rest)
    else ([], byte :: rest)

def ofDigits (digits : List Nat) : Nat :=
  digits.foldl (fun value digit => 10 * value + digit) 0

/-- The whole part of a number: one zero, or digits that do not start with zero. -/
def readWhole? (bytes : List UInt8) : Option (List Nat × List UInt8) :=
  match readDigits bytes with
  | ([], _) => none
  | (0 :: _ :: _, _) => none
  | part => some part

/-- The fraction of a number, after its point; `none` inside when there is no point. -/
def readFraction? : List UInt8 → Option (Option (List Nat) × List UInt8)
  | [] => some (none, [])
  | byte :: rest =>
    if byte = 0x2e then
      match readDigits rest with
      | ([], _) => none
      | (digits, rest) => some (some digits, rest)
    else some (none, byte :: rest)

/-- The digits of an exponent after its sign. -/
def readExponentDigits? (negative : Bool) (bytes : List UInt8) : Option (Option Int × List UInt8) :=
  match readDigits bytes with
  | ([], _) => none
  | (digits, rest) =>
    some (some (if negative then -(ofDigits digits : Int) else (ofDigits digits : Int)), rest)

/-- The exponent of a number; `none` inside when there is none. -/
def readExponent? : List UInt8 → Option (Option Int × List UInt8)
  | [] => some (none, [])
  | byte :: rest =>
    if byte = 0x65 ∨ byte = 0x45 then
      match rest with
      | [] => none
      | sign :: after =>
        if sign = 0x2d then readExponentDigits? true after
        else if sign = 0x2b then readExponentDigits? false after
        else readExponentDigits? false (sign :: after)
    else some (none, byte :: rest)

/-- Appends whole digits to a significand while it stays below 2^64, and counts the others. -/
def significandOfWhole (significand : Nat) : List Nat → Nat × Nat
  | [] => (significand, 0)
  | digit :: digits =>
    if 10 * significand + digit < UInt64.size then
      significandOfWhole (10 * significand + digit) digits
    else (significand, (digit :: digits).length)

/-- Appends digits of a fraction to a significand while it stays below 2^64, and counts them. -/
def significandOfFraction (significand : Nat) : List Nat → Nat × Nat
  | [] => (significand, 0)
  | digit :: digits =>
    if 10 * significand + digit < UInt64.size then
      let (significand, count) := significandOfFraction (10 * significand + digit) digits
      (significand, count + 1)
    else (significand, 0)

/-- The value of a number's parts. An integer outside the range of the integers, and minus zero, is a
real number. A number too large for binary64 is unreadable; reading stops at the first digit after which
its exponent is at least 2^31. -/
def numberValue (negative : Bool) (whole : List Nat) (fraction : Option (List Nat))
    (exponent : Option Int) : Json :=
  match fraction, exponent with
  | none, none =>
    let value : Int := if negative then -(ofDigits whole : Int) else (ofDigits whole : Int)
    if (negative = true ∧ IsSigned64 value ∧ value < 0) ∨ (negative = false ∧ IsUnsigned64 value) then
      .integer value
    else realOf whole [] 0
  | fraction, exponent => realOf whole (fraction.getD []) (exponent.getD 0)
where
  realOf (whole fraction : List Nat) (exponent : Int) : Json :=
    let (significand, dropped) := significandOfWhole 0 whole
    let (significand, taken) := significandOfFraction significand fraction
    match Real.ofDecimal? negative significand (exponent + dropped - taken) with
    | some bits => .real bits
    | none => .unreadable (if exponent / 10 < 0x80000000 then .whole else .broken)

/-- A number. -/
def readNumber? (bytes : List UInt8) : Option (Json × List UInt8) := do
  let (negative, bytes) :=
    match bytes with
    | byte :: rest => if byte = 0x2d then (true, rest) else (false, byte :: rest)
    | [] => (false, [])
  let (whole, bytes) ← readWhole? bytes
  let (fraction, bytes) ← readFraction? bytes
  let (exponent, bytes) ← readExponent? bytes
  return (numberValue negative whole fraction exponent, bytes)

/-- The bytes after a word that must stand at the front. -/
def readWord? : (word bytes : List UInt8) → Option (List UInt8)
  | [], bytes => some bytes
  | _ :: _, [] => none
  | expected :: word, byte :: bytes => if expected = byte then readWord? word bytes else none

/-- A member of an object joins the others; an unreadable name or object makes the object unreadable. -/
def addMember (name : Option String) (value : Json) : Json → Json
  | .object members =>
    match name with
    | some name => .object ((name, value) :: members)
    | none => .unreadable .broken
  | other => other

/-- An item of an array joins the others. -/
def addItem (item : Json) : Json → Json
  | .array items => .array (item :: items)
  | other => other

mutual

/-- A value, with blanks allowed in front of it. The fuel bounds the nesting and the length of the
arrays and objects; the number of bytes is always enough. -/
def readValue? : Nat → List UInt8 → Option (Json × List UInt8)
  | 0, _ => none
  | fuel + 1, bytes =>
    match skipBlanks bytes with
    | [] => none
    | byte :: rest =>
      if byte = 0x22 then
        (readContent? rest).map fun (content, rest) =>
          (contentValue content, rest)
      else if byte = 0x5b then
        match skipBlanks rest with
        | [] => none
        | next :: after =>
          if next = 0x5d then some (.array [], after) else readItems? fuel (next :: after)
      else if byte = 0x7b then
        match skipBlanks rest with
        | [] => none
        | next :: after =>
          if next = 0x7d then some (.object [], after) else readMembers? fuel (next :: after)
      else if byte = 0x6e then
        (readWord? [0x75, 0x6c, 0x6c] rest).map fun rest => (.null, rest)
      else if byte = 0x74 then
        (readWord? [0x72, 0x75, 0x65] rest).map fun rest => (.bool true, rest)
      else if byte = 0x66 then
        (readWord? [0x61, 0x6c, 0x73, 0x65] rest).map fun rest => (.bool false, rest)
      else readNumber? (byte :: rest)

/-- One or more items of an array and the bracket after them. -/
def readItems? : Nat → List UInt8 → Option (Json × List UInt8)
  | 0, _ => none
  | fuel + 1, bytes =>
    match readValue? fuel bytes with
    | none => none
    | some (item, rest) =>
      match skipBlanks rest with
      | [] => none
      | byte :: rest =>
        if byte = 0x5d then some (.array [item], rest)
        else if byte = 0x2c then
          (readItems? fuel rest).map fun (items, rest) => (addItem item items, rest)
        else none

/-- One or more members of an object and the brace after them. -/
def readMembers? : Nat → List UInt8 → Option (Json × List UInt8)
  | 0, _ => none
  | fuel + 1, bytes =>
    match skipBlanks bytes with
    | [] => none
    | quote :: rest =>
      if quote = 0x22 then
        match readContent? rest with
        | none => none
        | some (name, rest) =>
          match skipBlanks rest with
          | [] => none
          | colon :: rest =>
            if colon = 0x3a then
              match readValue? fuel rest with
              | none => none
              | some (value, rest) =>
                match skipBlanks rest with
                | [] => none
                | byte :: rest =>
                  if byte = 0x7d then
                    some (addMember (contentText? name) value (.object []), rest)
                  else if byte = 0x2c then
                    (readMembers? fuel rest).map fun (members, rest) =>
                      (addMember (contentText? name) value members, rest)
                  else none
            else none
      else none

end

/-- The document that the bytes are the text of, if they are one. -/
def ofBytes? (bytes : List UInt8) : Option Json :=
  match readValue? (2 * bytes.length + 2) bytes with
  | some (document, rest) => if (skipBlanks rest).isEmpty then some document else none
  | none => none

/-- The document that a text is, if it is one. -/
def ofText? (text : String) : Option Json :=
  ofBytes? text.toUTF8.data.toList

end Json
end TokenAuthority
