import TokenAuthority.Json.Writer
import TokenAuthority.Json.Reader

/-!
# Unique identifiers

Identifiers of 128 bits. They are written as 32 hexadecimal digits in lower case with hyphens after the
8th, 12th, 16th and 20th. Four spellings are read: with the hyphens, without any, in braces, and as a
URN; the digits may be of either case.
-/

namespace TokenAuthority

/-- An identifier of 128 bits. -/
structure Uuid where
  bits : BitVec 128
deriving DecidableEq, Repr, Inhabited

namespace Uuid

/-- The identifier of version 4 with the given random bits: four bits name the version and two the
variant. -/
def random (entropy : BitVec 128) : Uuid :=
  let version : BitVec 128 := 4 <<< 76
  let variant : BitVec 128 := 2 <<< 62
  let fixed : BitVec 128 := (0xf <<< 76) ||| (3 <<< 62)
  ⟨(entropy &&& ~~~fixed) ||| version ||| variant⟩

/-- An identifier of version 4. -/
def isRandom (identifier : Uuid) : Bool :=
  random identifier.bits == identifier

/-- The hexadecimal digits of a number, the last `count` of them. -/
def digits (value : Nat) : Nat → List Char
  | 0 => []
  | count + 1 => digits (value / 16) count ++ [Json.hexDigit (value % 16)]

def toChars (identifier : Uuid) : List Char :=
  let digits := digits identifier.bits.toNat 32
  digits.take 8 ++ '-' :: (digits.drop 8).take 4 ++ '-' :: (digits.drop 12).take 4 ++
    '-' :: (digits.drop 16).take 4 ++ '-' :: digits.drop 20

def text (identifier : Uuid) : String :=
  String.ofList identifier.toChars

/-- The value of hexadecimal digits. -/
def ofDigits? (digits : List Char) : Option Nat :=
  digits.foldlM (fun value digit =>
    if digit.toNat < 128 then
      (Json.hexValue? (UInt8.ofNat digit.toNat)).map (16 * value + ·)
    else none) 0

/-- The identifier with 32 given digits. -/
def ofSimple? (digits : List Char) : Option Uuid :=
  if digits.length = 32 then (ofDigits? digits).map fun value => ⟨BitVec.ofNat 128 value⟩ else none

/-- The identifier written with hyphens. -/
def ofHyphenated? (text : List Char) : Option Uuid :=
  if text.length = 36 ∧ text[8]? = some '-' ∧ text[13]? = some '-' ∧ text[18]? = some '-' ∧
      text[23]? = some '-' then
    ofSimple? (text.take 8 ++ (text.drop 9).take 4 ++ (text.drop 14).take 4 ++
      (text.drop 19).take 4 ++ text.drop 24)
  else none

/-- The identifier that characters denote, in any of the four spellings. -/
def ofChars? (text : List Char) : Option Uuid :=
  match text with
  | '{' :: rest =>
    if rest.getLast? = some '}' then ofHyphenated? rest.dropLast else none
  | 'u' :: 'r' :: 'n' :: ':' :: 'u' :: 'u' :: 'i' :: 'd' :: ':' :: rest => ofHyphenated? rest
  | text => if text.length = 32 then ofSimple? text else ofHyphenated? text

/-- The identifier that a text denotes, in any of the four spellings. -/
def ofText? (text : String) : Option Uuid :=
  ofChars? text.toList

end Uuid
end TokenAuthority
