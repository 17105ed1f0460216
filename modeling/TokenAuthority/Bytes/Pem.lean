import TokenAuthority.Bytes.Base64
import TokenAuthority.Bytes.Der
import TokenAuthority.Text.Split

/-!
# Textual keys

A key as text: a line that opens a block under a label, the key in base64, and a line that closes the
block under the same label. Anything may stand before the block, and nothing but one line end after it.
The base64 has 64 characters on every line but the last. The content is one sequence.
-/

namespace TokenAuthority

/-- A labelled block. -/
structure Pem where
  label : String
  content : List UInt8
deriving DecidableEq, Repr

namespace Pem

def opening : List Char := "-----BEGIN ".toList

def closing : List Char := "-----END ".toList

def dashes : List Char := "-----".toList

/-- What follows one line end, if there is one. -/
def skipLineEnd? : List Char → Option (List Char)
  | '\r' :: '\n' :: rest => some rest
  | '\r' :: rest => some rest
  | '\n' :: rest => some rest
  | _ => none

/-- What precedes one line end, if the text ends in one. -/
def dropLineEnd? (text : List Char) : Option (List Char) :=
  match text.reverse with
  | '\n' :: '\r' :: rest => some rest.reverse
  | '\n' :: rest => some rest.reverse
  | '\r' :: rest => some rest.reverse
  | _ => none

/-- What follows the opening of the first block. A block opens at the start of the text or after a
newline, and the text before it holds no null character. -/
def afterOpening? (atLineStart : Bool) : List Char → Option (List Char)
  | [] => none
  | character :: rest =>
    match if atLineStart then Text.dropFront? opening (character :: rest) else none with
    | some rest => some rest
    | none =>
      if character = Char.ofNat 0 then none else afterOpening? (character == '\n') rest

/-- A character of a label other than the space: printable, and not a hyphen. -/
def isLabelCharacter (character : Char) : Bool :=
  let code := character.toNat
  0x21 ≤ code && code ≤ 0x7e && character != '-'

/-- The label before the dashes, and what follows them. Spaces stand only between other characters, one
at a time. -/
def readLabel? (afterSpace : Bool) : List Char → Option (List Char × List Char)
  | [] => none
  | character :: rest =>
    if character = '-' then
      (Text.dropFront? dashes (character :: rest)).map fun rest => ([], rest)
    else if character = ' ' ∧ !afterSpace then
      (readLabel? true rest).map fun (label, rest) => (character :: label, rest)
    else if isLabelCharacter character then
      (readLabel? false rest).map fun (label, rest) => (character :: label, rest)
    else none

/-- The base64 characters of a body: lines of 64, and a last one of 4 to 64 without a line end. -/
def joinLines? : (fuel : Nat) → List Char → Option (List Char)
  | 0, _ => none
  | fuel + 1, body =>
    if body.length ≤ 64 then
      if 4 ≤ body.length then some body else none
    else do
      let rest ← skipLineEnd? (body.drop 64)
      let joined ← joinLines? fuel rest
      return body.take 64 ++ joined

def ofText? (text : String) : Option Pem := do
  let rest ← afterOpening? true text.toList
  let (label, rest) ← readLabel? true rest
  let rest ← skipLineEnd? rest
  let boundary := closing ++ label ++ dashes
  let rest := (dropLineEnd? rest).getD rest
  let body ← Text.dropBack? boundary rest
  let body ← dropLineEnd? body
  let characters ← joinLines? body.length body
  let content ← Base64.decodeFilled? .standard characters
  let _ ← (← Der.element? content).contentOf? Der.sequenceTag
  return ⟨String.ofList label, content⟩

end Pem
end TokenAuthority
