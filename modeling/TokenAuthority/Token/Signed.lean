import TokenAuthority.Bytes.Base64
import TokenAuthority.Json.Reader
import TokenAuthority.Text.Split
import TokenAuthority.Token.Error
import TokenAuthority.Token.Header

/-!
# Signed tokens

The text of a token: header, payload and signature in base64 for URLs, with points between them. What is
signed is the text of the first two parts.
-/

namespace TokenAuthority

/-- The bytes of a text. -/
def textBytes (text : String) : List UInt8 :=
  text.toUTF8.data.toList

/-- The three parts of a token, as they are written. -/
structure SignedToken where
  header : String
  payload : String
  signature : String
deriving DecidableEq, Repr

namespace SignedToken

def ofText? (text : String) : Option SignedToken :=
  match Text.splitAll '.' text with
  | [header, payload, signature] => some ⟨header, payload, signature⟩
  | _ => none

def text (token : SignedToken) : String :=
  token.header ++ "." ++ token.payload ++ "." ++ token.signature

def message (token : SignedToken) : List UInt8 :=
  textBytes (token.header ++ "." ++ token.payload)

/-- The document in a part: which of the two steps to it fails, if one does. -/
def readPart (part : String) : Except Malformation Json :=
  match Base64.ofUrlText? part with
  | none => .error .encoding
  | some bytes =>
    match Json.ofBytes? bytes with
    | none => .error .json
    | some document => .ok document

/-- A payload names an access token, and so belongs to a refresh token. The member in question may be
anything that can be read, and is not there when it is null. -/
def namesAccessToken? (payload : Json) : Option Bool :=
  match payload.fields? [⟨"ati", true⟩] with
  | some [none] => some false
  | some [some .null] => some false
  | some [some value] => if value.isReadable && value.depth < 127 then some true else none
  | _ => none

/-- Whether a token presents itself as a refresh token, by its payload, which is not verified. -/
def presentsAsRefresh (text : String) : Except Malformation Bool :=
  match ofText? text with
  | none => .error .segments
  | some token =>
    match readPart token.payload with
    | .error .encoding => .error .payloadEncoding
    | .error _ => .error .payloadShape
    | .ok payload =>
      match namesAccessToken? payload with
      | some refresh => .ok refresh
      | none => .error .payloadShape

end SignedToken

/-- The token that a key signs over a payload. -/
def NamedKey.sign? (key : NamedKey) (payload : Json) : Option String := do
  let unsigned : SignedToken :=
    { header := Base64.urlText (textBytes key.headerText)
      payload := Base64.urlText (textBytes payload.compact)
      signature := "" }
  let signature ← key.pair.sign? unsigned.message
  return { unsigned with signature := Base64.urlText signature }.text

end TokenAuthority
