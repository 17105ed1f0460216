import TokenAuthority.Proofs.Bytes.Base64
import TokenAuthority.Proofs.Json.Records
import TokenAuthority.Proofs.Text.Separators
import TokenAuthority.Proofs.Token.Signatures

/-!
# Tokens that a key has signed

The text that a key hands out for a payload is a token that holds the payload and the signature of the key.
Whether the key verifies this signature is up to its two halves; that it does is assumed where it is needed.

A ring asks its signing key first.  What this key makes of the payload is therefore what decoding the text
gives, if it accepts the payload, whatever other keys there are.
-/

namespace TokenAuthority

theorem textBytes_eq_utf8 (text : String) : textBytes text = Text.utf8 text.toList :=
  Text.toUTF8_toList text

namespace SignedToken

/-- A document is what is read from the part that it is written as. -/
theorem readPart_compact {document : Json} (writable : document.isWritable = true) :
    readPart (Base64.urlText (textBytes document.compact)) = .ok document := by
  have bytes : textBytes document.compact = Text.utf8 document.compactChars := by
    rw [textBytes_eq_utf8, Json.compact, String.toList_ofList]
  rw [readPart, Base64.ofUrlText?_urlText, bytes]
  simp only [Json.ofBytes?_compact document writable]

/-- Parts without points are what the text of a token is cut into. -/
theorem ofText?_text {token : SignedToken} (header : '.' ∉ token.header.toList)
    (payload : '.' ∉ token.payload.toList) (signature : '.' ∉ token.signature.toList) :
    ofText? token.text = some token := by
  have characters : token.text.toList = token.header.toList ++ '.' ::
      (token.payload.toList ++ '.' :: token.signature.toList) := by
    simp only [text, String.toList_append, List.append_assoc]
    rfl
  rw [ofText?, Text.splitAll, characters, Text.splitAllChars_append header,
    Text.splitAllChars_append payload, Text.splitAllChars_of_not_mem signature]
  simp only [List.map_cons, List.map_nil, String.ofList_toList]

/-- The token of two documents and a signature. -/
def ofDocuments (header payload : Json) (signature : List UInt8) : SignedToken where
  header := Base64.urlText (textBytes header.compact)
  payload := Base64.urlText (textBytes payload.compact)
  signature := Base64.urlText signature

theorem ofText?_ofDocuments (header payload : Json) (signature : List UInt8) :
    ofText? (ofDocuments header payload signature).text = some (ofDocuments header payload signature) :=
  ofText?_text (Base64.point_not_mem_urlText _) (Base64.point_not_mem_urlText _)
    (Base64.point_not_mem_urlText _)

end SignedToken

/-- A token that a key has made from a payload: the header names the algorithm of the key, and the
signature is the one that the key hands out. -/
structure SignedToken.IsFrom (token : SignedToken) (key : NamedKey) (payload : Json) : Prop where
  header : TokenHeader.ofPart? token.header = some ⟨key.pair.algorithm.name⟩
  signature : ∃ signature, Base64.ofUrlText? token.signature = some signature ∧
    key.pair.sign? token.message = some signature
  payload : SignedToken.readPart token.payload = .ok payload

/-- The key has signed the token if it verifies its own signatures. -/
theorem SignedToken.IsFrom.isSignedBy {token : SignedToken} {key : NamedKey} {payload : Json}
    (made : token.IsFrom key payload) (own : key.pair.VerifiesOwn) :
    token.isSignedBy key.pair.verifying = true := by
  rcases made.signature with ⟨signature, read, handedOut⟩
  rw [SignedToken.isSignedBy, made.header, read]
  simp only [KeyPair.algorithm, beq_self_eq_true, Bool.true_and]
  exact own token.message signature handedOut

namespace NamedKey

/-- What a header gives to each of its fields. -/
def headerSlots (key : NamedKey) : List (String × Option Json) :=
  [("typ", some (.string "JWT")), ("alg", some (.string key.pair.algorithm.name)), ("cty", none),
    ("jku", none), ("jwk", none), ("kid", some (.string key.name)), ("x5u", none), ("x5c", none),
    ("x5t", none), ("x5t#S256", none)]

theorem header_eq_sparse (key : NamedKey) : key.header = .object (Json.sparse key.headerSlots) :=
  rfl

theorem isWritable_header (key : NamedKey) : key.header.isWritable = true := by
  simp [header, Json.isWritable, Json.areMembersWritable]

/-- The header of a token names the algorithm of the key. -/
theorem ofJson?_header (key : NamedKey) :
    TokenHeader.ofJson? key.header = some ⟨key.pair.algorithm.name⟩ := by
  have names : key.headerSlots.map Prod.fst = TokenHeader.fields.map Json.Field.name := rfl
  have distinct : (key.headerSlots.map Prod.fst).Nodup := by
    rw [names]
    decide
  have slots : key.header.fields? TokenHeader.fields = some (key.headerSlots.map Prod.snd) := by
    rw [header_eq_sparse]
    exact Json.fields?_sparse names.symm distinct
  have chosen : Json.required? (TokenHeader.choiceAmong? TokenHeader.algorithms)
      (some (.string key.pair.algorithm.name)) = some key.pair.algorithm.name := by
    generalize key.pair.algorithm = algorithm
    cases algorithm <;> decide
  rw [TokenHeader.ofJson?, slots]
  simp only [headerSlots, List.map_cons, List.map_nil, Option.bind_eq_bind, Option.bind_some, chosen]
  rfl

theorem ofPart?_header (key : NamedKey) :
    TokenHeader.ofPart? (Base64.urlText (textBytes key.headerText)) =
      some ⟨key.pair.algorithm.name⟩ := by
  rw [TokenHeader.ofPart?, headerText, SignedToken.readPart_compact key.isWritable_header]
  exact key.ofJson?_header

/-- The token for a payload, before it is signed. -/
def unsigned (key : NamedKey) (payload : Json) : SignedToken where
  header := Base64.urlText (textBytes key.headerText)
  payload := Base64.urlText (textBytes payload.compact)
  signature := ""

theorem sign?_eq_bind (key : NamedKey) (payload : Json) :
    key.sign? payload = (key.pair.sign? (key.unsigned payload).message).bind fun signature =>
      some { key.unsigned payload with signature := Base64.urlText signature }.text :=
  rfl

/-- What a key hands out for a payload is the token of its header and the payload, with its signature. -/
theorem exists_signature_of_sign? {key : NamedKey} {payload : Json} {text : String}
    (signed : key.sign? payload = some text) :
    ∃ signature, SignedToken.ofText? text =
        some (SignedToken.ofDocuments key.header payload signature) ∧
      key.pair.sign? (SignedToken.ofDocuments key.header payload signature).message =
        some signature := by
  rw [sign?_eq_bind] at signed
  rcases Option.bind_eq_some_iff.mp signed with ⟨signature, made, same⟩
  refine ⟨signature, ?_, made⟩
  rw [← Option.some.inj same]
  exact SignedToken.ofText?_ofDocuments key.header payload signature

/-- What a key hands out for a payload is a token that it has made from the payload. -/
theorem exists_isFrom_of_sign? {key : NamedKey} {payload : Json} {text : String}
    (writable : payload.isWritable = true) (signed : key.sign? payload = some text) :
    ∃ token, SignedToken.ofText? text = some token ∧ token.IsFrom key payload := by
  rcases exists_signature_of_sign? signed with ⟨signature, parts, made⟩
  exact ⟨_, parts, {
    header := key.ofPart?_header
    signature := ⟨signature, Base64.ofUrlText?_urlText signature, made⟩
    payload := SignedToken.readPart_compact writable }⟩

/-- What a key hands out for a payload is a token that it has signed and that holds the payload, if the key
verifies its own signatures. -/
theorem exists_token_of_sign? {key : NamedKey} (own : key.pair.VerifiesOwn) {payload : Json} {text : String}
    (writable : payload.isWritable = true) (signed : key.sign? payload = some text) :
    ∃ token, SignedToken.ofText? text = some token ∧
      token.isSignedBy key.pair.verifying = true ∧
      SignedToken.readPart token.payload = .ok payload := by
  rcases exists_isFrom_of_sign? writable signed with ⟨token, parts, made⟩
  exact ⟨token, parts, made.isSignedBy own, made.payload⟩

theorem exists_sign?_of_signsAll (key : NamedKey) (signs : key.pair.SignsAll) (payload : Json) :
    ∃ text, key.sign? payload = some text := by
  rcases signs (key.unsigned payload).message with ⟨signature, signed⟩
  rw [sign?_eq_bind, signed]
  exact ⟨_, rfl⟩

end NamedKey

namespace Keyring

theorem exists_sign?_proth (payload : Json) : ∃ text, proth.signing.sign? payload = some text :=
  proth.signing.exists_sign?_of_signsAll isReliable_proth.signs payload

/-- How the signing key verifies. -/
def signingVerifier (ring : Keyring) (refresh : Bool) : Verifier where
  name := ring.signing.name
  key := ring.signing.pair.verifying
  audience := if refresh then none else some ring.audience
  leeway := ring.leeway

theorem exists_verifiers_eq_cons (ring : Keyring) (refresh : Bool) :
    ∃ others, ring.verifiers refresh = ring.signingVerifier refresh :: others := by
  cases refresh <;> exact ⟨_, rfl⟩

/-- What the signing key has signed and accepts is what the text is decoded to. -/
theorem decode_of_isSignedBy {ring : Keyring} {text : String} {token : SignedToken}
    (parts : SignedToken.ofText? text = some token)
    (isSigned : token.isSignedBy ring.signing.pair.verifying = true) {payload : Json}
    (read : SignedToken.readPart token.payload = .ok payload) {refresh : Bool}
    (presented : SignedToken.namesAccessToken? payload = some refresh)
    {now : Time.Instant} {claimSet : ClaimSet}
    (accepted : (ring.signingVerifier refresh).judgePayload now.clock payload = .accepted claimSet) :
    ring.decode now text = claimSet.toClaims text := by
  rcases ring.exists_verifiers_eq_cons refresh with ⟨others, verifiers⟩
  have presents : SignedToken.presentsAsRefresh text = .ok refresh := by
    rw [SignedToken.presentsAsRefresh, parts]
    simp only [read, presented]
  have judged : (ring.signingVerifier refresh).judge now.clock token = .accepted claimSet := by
    rw [Verifier.judge_of_isSignedBy isSigned, read]
    exact accepted
  rw [decode, presents, parts]
  simp only [verifiers, Verifier.verifyWith, judged]

/-- What the signing key accepts of a payload is what the text that it hands out is decoded to. -/
theorem decode_of_sign? {ring : Keyring} (own : ring.signing.pair.VerifiesOwn) {payload : Json}
    {text : String} (signed : ring.signing.sign? payload = some text) (writable : payload.isWritable = true)
    {refresh : Bool} (presented : SignedToken.namesAccessToken? payload = some refresh)
    {now : Time.Instant} {claimSet : ClaimSet}
    (accepted : (ring.signingVerifier refresh).judgePayload now.clock payload = .accepted claimSet) :
    ring.decode now text = claimSet.toClaims text := by
  rcases NamedKey.exists_token_of_sign? own writable signed with ⟨token, parts, isSigned, read⟩
  exact decode_of_isSignedBy parts isSigned read presented accepted

/-- A payload that the signing key accepts for an access token is read as one. -/
theorem readAccess_of_sign? {ring : Keyring} (own : ring.signing.pair.VerifiesOwn) {payload : Json}
    {text : String} (signed : ring.signing.sign? payload = some text) (writable : payload.isWritable = true)
    (access : SignedToken.namesAccessToken? payload = some false) {now : Time.Instant}
    {claimSet : ClaimSet} {claims : Claims}
    (accepted : (ring.signingVerifier false).judgePayload now.clock payload = .accepted claimSet)
    (taken : claimSet.toClaims text = .ok claims) (notRefresh : claims.isRefresh = false) :
    ring.readAccess now text = .ok claims := by
  have decoded := decode_of_sign? own signed writable access accepted
  rw [taken] at decoded
  rw [readAccess, decoded]
  simp only [notRefresh, Bool.false_eq_true, if_false]

end Keyring
end TokenAuthority
