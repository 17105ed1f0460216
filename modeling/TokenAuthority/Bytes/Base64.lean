/-!
# Base64

Three bytes are written as four characters of an alphabet of 64. Two alphabets are in use: the standard
one, whose texts are filled up with `=` to a multiple of four characters, and the one for URLs, whose
texts are not. A text is read only if it is what writing its bytes gives: the bits that stand for no
byte have to be zero.
-/

namespace TokenAuthority
namespace Base64

/-- The two alphabets, which differ in the last two characters. -/
inductive Alphabet where
  | standard
  | url
deriving DecidableEq, Repr

namespace Alphabet

/-- The character of a value below 64. -/
def character (alphabet : Alphabet) (value : Nat) : Char :=
  if value < 26 then Char.ofNat (65 + value)
  else if value < 52 then Char.ofNat (71 + value)
  else if value < 62 then Char.ofNat (value - 4)
  else
    match alphabet with
    | standard => if value = 62 then '+' else '/'
    | url => if value = 62 then '-' else '_'

def value? (alphabet : Alphabet) (character : Char) : Option Nat :=
  let code := character.toNat
  if 65 ≤ code ∧ code ≤ 90 then some (code - 65)
  else if 97 ≤ code ∧ code ≤ 122 then some (code - 71)
  else if 48 ≤ code ∧ code ≤ 57 then some (code + 4)
  else if character = alphabet.character 62 then some 62
  else if character = alphabet.character 63 then some 63
  else none

end Alphabet

/-- The characters of bytes, without filling. -/
def encodeChars (alphabet : Alphabet) : List UInt8 → List Char
  | [] => []
  | [first] =>
    [alphabet.character (first.toNat / 4), alphabet.character (first.toNat % 4 * 16)]
  | [first, second] =>
    [alphabet.character (first.toNat / 4),
      alphabet.character (first.toNat % 4 * 16 + second.toNat / 16),
      alphabet.character (second.toNat % 16 * 4)]
  | first :: second :: third :: rest =>
    alphabet.character (first.toNat / 4) ::
      alphabet.character (first.toNat % 4 * 16 + second.toNat / 16) ::
      alphabet.character (second.toNat % 16 * 4 + third.toNat / 64) ::
      alphabet.character (third.toNat % 64) :: encodeChars alphabet rest

/-- The bytes that values below 64 denote. -/
def ofValues? : List Nat → Option (List UInt8)
  | [] => some []
  | [_] => none
  | [first, second] =>
    if second % 16 = 0 then some [UInt8.ofNat (first * 4 + second / 16)] else none
  | [first, second, third] =>
    if third % 4 = 0 then
      some [UInt8.ofNat (first * 4 + second / 16), UInt8.ofNat (second % 16 * 16 + third / 4)]
    else none
  | first :: second :: third :: fourth :: rest =>
    (ofValues? rest).map fun bytes =>
      UInt8.ofNat (first * 4 + second / 16) :: UInt8.ofNat (second % 16 * 16 + third / 4) ::
        UInt8.ofNat (third % 4 * 64 + fourth) :: bytes

/-- The bytes of a text without filling. -/
def decodeChars? (alphabet : Alphabet) (text : List Char) : Option (List UInt8) :=
  (text.mapM alphabet.value?).bind ofValues?

/-- The bytes of a text that is filled up to a multiple of four characters. -/
def decodeFilled? (alphabet : Alphabet) (text : List Char) : Option (List UInt8) :=
  if text.length % 4 = 0 then
    match text.reverse with
    | '=' :: '=' :: rest => decodeChars? alphabet rest.reverse
    | '=' :: rest => decodeChars? alphabet rest.reverse
    | _ => decodeChars? alphabet text
  else none

/-- The text of bytes in the alphabet for URLs, without filling. -/
def urlText (bytes : List UInt8) : String :=
  String.ofList (encodeChars .url bytes)

/-- The bytes of a text in the alphabet for URLs, without filling. -/
def ofUrlText? (text : String) : Option (List UInt8) :=
  decodeChars? .url text.toList

end Base64
end TokenAuthority
