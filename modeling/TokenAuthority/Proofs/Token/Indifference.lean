import TokenAuthority.Proofs.Keys.Encodings
import TokenAuthority.Proofs.Token.Headers
import TokenAuthority.Proofs.Token.VerifierOrder

/-!
# What decoding does not depend on

The order in which a ring asks its keys does not matter, nor do the names under which it holds them.  Nor
does the name of the key in the header of a token, as long as it is well formed.  Two tokens that one key
has signed over the same payload, under headers that agree otherwise, are decoded alike but for the text of
the token.

A ring that holds the key needs no assumption for this, since whether it vouches for a token is decided by
the header and that key.  A ring that does not hold it has to vouch for both tokens or for neither.  The
tokens at the end show that neither condition can be dropped: a number for the name of the key makes a
header unreadable, and a pair that passes the check of new pairs may verify one signature of another key
and not the next.
-/

namespace TokenAuthority

/-- A header that is none is refused by the first verifier. -/
theorem Verifier.verifyWith_of_not_header {token : SignedToken} {document : Json}
    (read : SignedToken.readPart token.header = .ok document)
    (isNone : TokenHeader.ofJson? document = none) (now : UInt64) (verifiers : List Verifier) :
    verifyWith now token false verifiers =
      .error (if verifiers.isEmpty then .signatureRejected else .malformed .json) := by
  cases verifiers with
  | nil => rfl
  | cons verifier verifiers =>
      rw [verifyWith, judge, read]
      simp only [isNone]
      rfl

namespace SignedToken

/-- The signature of the token is one of the key over its first two parts, whatever the header says. -/
def Carries (token : SignedToken) (key : VerifyingKey) : Prop :=
  ∃ signature, Base64.ofUrlText? token.signature = some signature ∧
    key.verifies token.message signature = true

/-- One key has signed two tokens over the same payload, under headers that agree but for the name of the
key. -/
structure DifferInKeyId (token other : SignedToken) (key : VerifyingKey) : Prop where
  headers : ∃ header otherHeader, readPart token.header = .ok header ∧
    readPart other.header = .ok otherHeader ∧ TokenHeader.AgreeButForKeyId header otherHeader
  payload : readPart token.payload = readPart other.payload
  carries : token.Carries key
  otherCarries : other.Carries key

variable {token other : SignedToken} {key : VerifyingKey}

/-- What a pair signs carries a signature of the pair, if the pair verifies its own. -/
theorem carries_ofDocuments {pair : KeyPair} (own : pair.VerifiesOwn) {header payload : Json}
    {signature : List UInt8} (signed : pair.sign? (ofDocuments header payload []).message = some signature) :
    (ofDocuments header payload signature).Carries pair.verifying :=
  ⟨signature, Base64.ofUrlText?_urlText signature, own _ signature signed⟩

theorem isSignedBy_of_carries (carries : token.Carries key) :
    token.isSignedBy key =
      (TokenHeader.ofPart? token.header).any fun header => header.algorithm == key.algorithm.name := by
  rcases carries with ⟨signature, read, verified⟩
  rw [isSignedBy, read]
  cases TokenHeader.ofPart? token.header with
  | none => rfl
  | some header => simp only [verified, Bool.and_true, Option.any_some]

/-- If any key has signed the token, then the one whose signature it carries has. -/
theorem isSignedBy_of_isSignedBy (carries : token.Carries key) {another : VerifyingKey}
    (signed : token.isSignedBy another = true) : token.isSignedBy key = true := by
  rw [isSignedBy_of_carries carries]
  rcases carries with ⟨signature, read, verified⟩
  rw [isSignedBy, read] at signed
  cases stated : TokenHeader.ofPart? token.header with
  | none =>
      rw [stated] at signed
      cases signed
  | some header =>
      rw [stated] at signed
      simp only [Bool.and_eq_true] at signed
      have same := VerifyingKey.algorithm_eq_of_verifies verified signed.2
      simp only [Option.any_some, same, signed.1]

namespace DifferInKeyId

variable (differ : token.DifferInKeyId other key)

include differ

theorem ofPart?_header_eq :
    TokenHeader.ofPart? token.header = TokenHeader.ofPart? other.header := by
  rcases differ.headers with ⟨header, otherHeader, read, otherRead, agree⟩
  rw [TokenHeader.ofPart?, TokenHeader.ofPart?, read, otherRead]
  exact TokenHeader.ofJson?_congr agree

theorem isSignedBy_eq : token.isSignedBy key = other.isSignedBy key := by
  rw [isSignedBy_of_carries differ.carries, isSignedBy_of_carries differ.otherCarries,
    differ.ofPart?_header_eq]

/-- Alike verifiers answer the same if they have signed both tokens or neither. -/
theorem verifyWith_eq {verifiers : List Verifier} {model : Verifier}
    (alike : ∀ verifier ∈ verifiers, verifier.IsLike model)
    (signers : (verifiers.any fun verifier => token.isSignedBy verifier.key) =
      verifiers.any fun verifier => other.isSignedBy verifier.key) (now : UInt64) :
    Verifier.verifyWith now token false verifiers = Verifier.verifyWith now other false verifiers := by
  cases stated : TokenHeader.ofPart? token.header with
  | none =>
      -- neither header is one, and the first verifier says so
      rcases differ.headers with ⟨header, otherHeader, read, otherRead, agree⟩
      have isNone : TokenHeader.ofJson? header = none := by
        rw [TokenHeader.ofPart?, read] at stated
        exact stated
      have otherIsNone : TokenHeader.ofJson? otherHeader = none := by
        rw [← TokenHeader.ofJson?_congr agree, isNone]
      rw [Verifier.verifyWith_of_not_header read isNone,
        Verifier.verifyWith_of_not_header otherRead otherIsNone]
  | some header =>
      have otherStated := differ.ofPart?_header_eq ▸ stated
      rcases differ.carries with ⟨signature, read, _⟩
      rcases differ.otherCarries with ⟨otherSignature, otherRead, _⟩
      rw [Verifier.verifyWith_of_readable stated read alike,
        Verifier.verifyWith_of_readable otherStated otherRead alike, signers, Verifier.judgePart,
        differ.payload, Verifier.judgePart]

end DifferInKeyId
end SignedToken

/-- The headers of one pair under two names. -/
theorem NamedKey.agree_header (pair : KeyPair) (name otherName : String) :
    TokenHeader.AgreeButForKeyId (NamedKey.mk name pair).header (NamedKey.mk otherName pair).header :=
  TokenHeader.AgreeButForKeyId.of_append_cons
    [("typ", .string "JWT"), ("alg", .string pair.algorithm.name)] [] (by simp) rfl

/-- What a pair signs over one payload under two names differs in nothing but the name of the key. -/
theorem NamedKey.exists_differInKeyId {pair : KeyPair} (own : pair.VerifiesOwn) {name otherName : String}
    {payload : Json} {text otherText : String}
    (signed : (NamedKey.mk name pair).sign? payload = some text)
    (otherSigned : (NamedKey.mk otherName pair).sign? payload = some otherText) :
    ∃ token otherToken, SignedToken.ofText? text = some token ∧
      SignedToken.ofText? otherText = some otherToken ∧
      token.DifferInKeyId otherToken pair.verifying := by
  rcases exists_signature_of_sign? signed with ⟨signature, parts, made⟩
  rcases exists_signature_of_sign? otherSigned with ⟨otherSignature, otherParts, otherMade⟩
  refine ⟨_, _, parts, otherParts, ?_⟩
  exact {
    headers := ⟨_, _, SignedToken.readPart_compact (isWritable_header _),
      SignedToken.readPart_compact (isWritable_header _), agree_header pair name otherName⟩
    payload := rfl
    carries := SignedToken.carries_ofDocuments own made
    otherCarries := SignedToken.carries_ofDocuments own otherMade }

/-- The text of a token is all that claims take from it besides its claim set. -/
theorem ClaimSet.toClaims_eq_map (claimSet : ClaimSet) (text otherText : String) :
    claimSet.toClaims otherText =
      (claimSet.toClaims text).map fun claims => { claims with token := some otherText } := by
  unfold toClaims
  cases instantOf .expiry claimSet.expiry with
  | error error => rfl
  | ok expiry =>
      cases optionalInstantOf .issuedAt claimSet.issuedAt with
      | error error => rfl
      | ok issuedAt => rfl

namespace Keyring

variable {ring : Keyring} {text otherText : String} {token otherToken : SignedToken}
  {key : VerifyingKey}

/-- Whether a ring that holds a key vouches for what carries a signature of the key is up to the key. -/
theorem vouchesFor_of_carries (parts : SignedToken.ofText? text = some token)
    (carries : token.Carries key) (held : ∃ named ∈ ring.keys, named.pair.verifying = key) :
    ring.vouchesFor text = token.isSignedBy key := by
  rw [vouchesFor, parts]
  refine Bool.eq_iff_iff.mpr ⟨?_, ?_⟩
  · intro vouches
    rcases List.any_eq_true.mp vouches with ⟨named, _, signed⟩
    exact SignedToken.isSignedBy_of_isSignedBy carries signed
  · intro signed
    rcases held with ⟨named, listed, rfl⟩
    exact List.any_eq_true.mpr ⟨named, listed, signed⟩

/-- Tokens that differ only in the name of the key are decoded alike, if the ring vouches for both or for
neither. -/
theorem decode_eq_map (parts : SignedToken.ofText? text = some token)
    (otherParts : SignedToken.ofText? otherText = some otherToken)
    (differ : token.DifferInKeyId otherToken key)
    (vouches : ring.vouchesFor text = ring.vouchesFor otherText) (now : Time.Instant) :
    ring.decode now otherText =
      (ring.decode now text).map fun claims => { claims with token := some otherText } := by
  have presented :
      SignedToken.presentsAsRefresh otherText = SignedToken.presentsAsRefresh text := by
    rw [SignedToken.presentsAsRefresh, SignedToken.presentsAsRefresh, parts, otherParts]
    simp only [differ.payload]
  cases presents : SignedToken.presentsAsRefresh text with
  | error fault =>
      rw [presents] at presented
      rw [decode, decode, presents, presented]
      rfl
  | ok refresh =>
      rw [presents] at presented
      have signers :
          ((ring.verifiers refresh).any fun verifier => token.isSignedBy verifier.key) =
            (ring.verifiers refresh).any fun verifier => otherToken.isSignedBy verifier.key := by
        rw [any_verifiers, any_verifiers]
        rw [vouchesFor, vouchesFor, parts, otherParts] at vouches
        exact vouches
      have same := differ.verifyWith_eq (fun _ => isLike_of_mem_verifiers) signers now.clock
      rw [decode, decode, presents, presented, parts, otherParts]
      simp only [same]
      cases Verifier.verifyWith now.clock otherToken false (ring.verifiers refresh) with
      | error error => rfl
      | ok claimSet => exact claimSet.toClaims_eq_map text otherText

/-- A token whose header is none is refused for it, once its payload has shown of which kind it is. -/
theorem decode_of_not_header {document payload : Json} {refresh : Bool}
    (parts : SignedToken.ofText? text = some token)
    (read : SignedToken.readPart token.header = .ok document)
    (isNone : TokenHeader.ofJson? document = none)
    (readPayload : SignedToken.readPart token.payload = .ok payload)
    (presented : SignedToken.namesAccessToken? payload = some refresh) (now : Time.Instant) :
    ring.decode now text = .error (.malformed .json) := by
  have presents : SignedToken.presentsAsRefresh text = .ok refresh := by
    rw [SignedToken.presentsAsRefresh, parts]
    simp only [readPayload, presented]
  rcases ring.exists_verifiers_eq_cons refresh with ⟨others, verifiers⟩
  rw [decode, presents, parts]
  simp only [Verifier.verifyWith_of_not_header read isNone, verifiers]
  rfl

/-- Neither the order nor the names of keys decide.  Rings that hold the same pairs, for one audience and
with one leeway, decode every text alike; and two texts that one key has signed over the same payload, under
headers that agree but for the name of the key, are decoded alike but for the text itself, by every ring
that holds the key and by every other that vouches for both or for neither. -/
theorem decode_indifferent (ring : Keyring) (now : Time.Instant) (text : String) :
    (∀ other : Keyring, other.audience = ring.audience → other.leeway = ring.leeway →
      (∀ pair, pair ∈ other.keys.map NamedKey.pair ↔ pair ∈ ring.keys.map NamedKey.pair) →
        other.decode now text = ring.decode now text) ∧
    ∀ otherText token otherToken key, SignedToken.ofText? text = some token →
      SignedToken.ofText? otherText = some otherToken → token.DifferInKeyId otherToken key →
      ((∃ named ∈ ring.keys, named.pair.verifying = key) ∨
        ring.vouchesFor text = ring.vouchesFor otherText) →
        ring.decode now otherText =
          (ring.decode now text).map fun claims => { claims with token := some otherText } := by
  constructor
  · intro other audience leeway samePairs
    exact decode_congr audience leeway samePairs now text
  · intro otherText token otherToken key parts otherParts differ held
    refine decode_eq_map parts otherParts differ ?_ now
    rcases held with held | vouches
    · rw [vouchesFor_of_carries parts differ.carries held,
        vouchesFor_of_carries otherParts differ.otherCarries held, differ.isSignedBy_eq]
    · exact vouches

/-- A ring of two pairs of different algorithms. -/
def mixed : Keyring where
  signing := ⟨"proth", KeyPair.proth⟩
  checking := [⟨"next", KeyPair.generator⟩]
  audience := "res_ManagementPortal"
  leeway := 10

/-- The same pairs the other way round, under other names and one of them twice. -/
def mixedAgain : Keyring where
  signing := ⟨"first", KeyPair.generator⟩
  checking := [⟨"second", KeyPair.proth⟩, ⟨"third", KeyPair.proth⟩]
  audience := "res_ManagementPortal"
  leeway := 10

/-- A refresh token that either ring decodes, and the same under another name of the key. -/
theorem decode_indifferent_mixed :
    ∃ text otherText claims, mixed.decode ⟨1000, 0⟩ text = .ok claims ∧
      mixedAgain.decode ⟨1000, 0⟩ text = .ok claims ∧
      mixed.decode ⟨1000, 0⟩ otherText = .ok { claims with token := some otherText } := by
  have reliable : mixed.signing.pair.IsReliable := KeyPair.isReliable_proth
  rcases mixed.signing.exists_sign?_of_signsAll reliable.signs
    (.object [("exp", .integer 2000), ("ati", .string "a")]) with ⟨text, signed⟩
  rcases (NamedKey.mk "second" KeyPair.proth).exists_sign?_of_signsAll KeyPair.isReliable_proth.signs
    (.object [("exp", .integer 2000), ("ati", .string "a")]) with ⟨otherText, otherSigned⟩
  have accepted : (mixed.signingVerifier true).judgePayload (Time.Instant.clock ⟨1000, 0⟩)
      (.object [("exp", .integer 2000), ("ati", .string "a")]) =
        .accepted { accessTokenId := some "a", expiry := 2000 } := by
    rfl
  have decoded := decode_of_sign? reliable.verifiesOwn signed rfl rfl accepted
  rcases NamedKey.exists_differInKeyId reliable.verifiesOwn signed otherSigned with
    ⟨token, otherToken, parts, otherParts, differ⟩
  have indifferent := decode_indifferent mixed ⟨1000, 0⟩ text
  refine ⟨text, otherText, _, decoded, ?_, ?_⟩
  · rw [indifferent.1 mixedAgain rfl rfl ?_]
    · exact decoded
    · intro pair
      simp [mixed, mixedAgain, keys, or_comm]
  · rw [indifferent.2 otherText token otherToken _ parts otherParts differ
      (Or.inl ⟨mixed.signing, List.mem_cons_self, rfl⟩), decoded]
    rfl

/-! ## Limits -/

/-- A token that expires, whose header states something as the name of the key. -/
def tokenNaming (keyId : Json) (signature : List UInt8) : SignedToken :=
  SignedToken.ofDocuments (.object [("alg", .string "RS256"), ("kid", keyId)])
    (.object [("exp", .integer 2000)]) signature

section

variable (name : String) (keyId : Json) (signature : List UInt8)

theorem ofText?_tokenNaming :
    SignedToken.ofText? (tokenNaming keyId signature).text = some (tokenNaming keyId signature) :=
  SignedToken.ofText?_ofDocuments _ _ signature

theorem readPart_header_tokenNaming {keyId : Json} (writable : keyId.isWritable = true) :
    SignedToken.readPart (tokenNaming keyId signature).header =
      .ok (.object [("alg", .string "RS256"), ("kid", keyId)]) :=
  SignedToken.readPart_compact (by simp [Json.isWritable, Json.areMembersWritable, writable])

theorem readPart_payload_tokenNaming :
    SignedToken.readPart (tokenNaming keyId signature).payload =
      .ok (.object [("exp", .integer 2000)]) :=
  SignedToken.readPart_compact rfl

theorem presents_tokenNaming :
    SignedToken.namesAccessToken? (.object [("exp", .integer 2000)]) = some false :=
  rfl

theorem ofPart?_header_tokenNaming :
    TokenHeader.ofPart? (tokenNaming (.string name) signature).header = some ⟨"RS256"⟩ := by
  have sample : TokenHeader.ofJson? (.object [("alg", .string "RS256"), ("kid", .string "")]) =
      some ⟨"RS256"⟩ := by
    rfl
  rw [TokenHeader.ofPart?, readPart_header_tokenNaming signature rfl, ← sample]
  exact TokenHeader.ofJson?_congr
    (TokenHeader.AgreeButForKeyId.of_append_cons [("alg", .string "RS256")] [] (by simp) rfl)

theorem isSignedBy_tokenNaming {key : VerifyingKey} (isRsa : key.algorithm = .rs256) :
    (tokenNaming (.string name) signature).isSignedBy key =
      key.verifies (tokenNaming (.string name) signature).message signature := by
  have read : Base64.ofUrlText? (tokenNaming (.string name) signature).signature = some signature :=
    Base64.ofUrlText?_urlText signature
  rw [SignedToken.isSignedBy, ofPart?_header_tokenNaming, read, isRsa]
  rfl

/-- A ring of one RSA key accepts such a token or rejects its signature, before the token expires. -/
theorem decode_tokenNaming {ring : Keyring} (only : ring.checking = [])
    (isRsa : ring.signing.pair.verifying.algorithm = .rs256) {now : Time.Instant}
    (accepted : (ring.signingVerifier false).judgePayload now.clock
      (.object [("exp", .integer 2000)]) = .accepted { expiry := 2000 }) :
    ring.decode now (tokenNaming (.string name) signature).text =
      if ring.signing.pair.verifying.verifies (tokenNaming (.string name) signature).message
          signature then
        ClaimSet.toClaims { expiry := 2000 } (tokenNaming (.string name) signature).text
      else .error .signatureRejected := by
  have vouches : ring.vouchesFor (tokenNaming (.string name) signature).text =
      ring.signing.pair.verifying.verifies (tokenNaming (.string name) signature).message
        signature := by
    rw [vouchesFor, ofText?_tokenNaming, ← isSignedBy_tokenNaming name signature isRsa, keys, only]
    exact Bool.or_false _
  rw [decode_of_readable (ofText?_tokenNaming _ signature)
    (ofPart?_header_tokenNaming name signature) (Base64.ofUrlText?_urlText signature)
    (readPart_payload_tokenNaming _ signature) presents_tokenNaming, vouches, accepted]
  rfl

/-- The signature is no part of what is signed. -/
theorem message_tokenNaming :
    (tokenNaming keyId signature).message = (tokenNaming keyId []).message :=
  rfl

end

/-- The ring accepts a token with a signature of the key, and refuses one that differs from it in nothing
but the name of the key. -/
def TellsApart (ring : Keyring) (key : VerifyingKey) (keyId otherKeyId : Json) (error : TokenError) :
    Prop :=
  ∃ signature otherSignature claims,
    (tokenNaming keyId signature).Carries key ∧ (tokenNaming otherKeyId otherSignature).Carries key ∧
      ring.decode ⟨1000, 0⟩ (tokenNaming keyId signature).text = .ok claims ∧
      ring.decode ⟨1000, 0⟩ (tokenNaming otherKeyId otherSignature).text = .error error

/-- A header with a number for the name of the key is none. -/
theorem tellsApart_proth :
    proth.TellsApart KeyPair.proth.verifying (.string "a") (.integer 5) (.malformed .json) := by
  have own := KeyPair.isReliable_proth.verifiesOwn
  rcases KeyPair.isReliable_proth.signs (tokenNaming (.string "a") []).message with ⟨signature, signed⟩
  rcases KeyPair.isReliable_proth.signs (tokenNaming (.integer 5) []).message with
    ⟨otherSignature, otherSigned⟩
  have verified : proth.signing.pair.verifying.verifies
      (tokenNaming (.string "a") signature).message signature = true :=
    own _ signature signed
  have decoded : proth.decode ⟨1000, 0⟩ (tokenNaming (.string "a") signature).text = _ :=
    decode_tokenNaming "a" signature rfl rfl rfl
  rw [verified, if_pos rfl] at decoded
  refine ⟨signature, otherSignature, _, SignedToken.carries_ofDocuments own signed,
    SignedToken.carries_ofDocuments own otherSigned, decoded, ?_⟩
  exact decode_of_not_header (ofText?_tokenNaming _ otherSignature)
    (readPart_header_tokenNaming otherSignature rfl) rfl
    (readPart_payload_tokenNaming _ otherSignature) presents_tokenNaming _

/-- What the short key signs under one name holds modulo three, and what it signs under another does not. -/
theorem holdsTripled_message :
    KeyPair.holdsTripled (tokenNaming (.string "b") []).message = true ∧
      KeyPair.holdsTripled (tokenNaming (.string "a") []).message = false := by
  decide +kernel

/-- A ring of the pair that passes the probe alone. -/
def tripled : Keyring where
  signing := ⟨"tripled", KeyPair.tripled⟩
  audience := "res_ManagementPortal"
  leeway := 10

/-- A ring that does not hold the key may vouch for one of two tokens only. -/
theorem tellsApart_tripled :
    tripled.TellsApart KeyPair.shortProth.verifying (.string "b") (.string "a")
      .signatureRejected := by
  have own := KeyPair.isReliable_shortProth.verifiesOwn
  rcases KeyPair.isReliable_shortProth.signs (tokenNaming (.string "b") []).message with
    ⟨signature, signed⟩
  rcases KeyPair.isReliable_shortProth.signs (tokenNaming (.string "a") []).message with
    ⟨otherSignature, otherSigned⟩
  have verified := (KeyPair.verifies_tripledKey _).trans holdsTripled_message.1
  have fails := (KeyPair.verifies_tripledKey _).trans holdsTripled_message.2
  rw [← KeyPair.eq_signature_of_sign? signed] at verified
  rw [← KeyPair.eq_signature_of_sign? otherSigned] at fails
  have accepted : (tripled.signingVerifier false).judgePayload (Time.Instant.clock ⟨1000, 0⟩)
      (.object [("exp", .integer 2000)]) = .accepted { expiry := 2000 } := by
    rfl
  have decoded : tripled.decode ⟨1000, 0⟩ (tokenNaming (.string "b") signature).text = _ :=
    decode_tokenNaming "b" signature rfl rfl accepted
  have refused : tripled.decode ⟨1000, 0⟩ (tokenNaming (.string "a") otherSignature).text = _ :=
    decode_tokenNaming "a" otherSignature rfl rfl accepted
  have verifying : tripled.signing.pair.verifying = .rsa KeyPair.tripledKey := rfl
  rw [message_tokenNaming, verifying, verified, if_pos rfl] at decoded
  rw [message_tokenNaming, verifying, fails, if_neg Bool.false_ne_true] at refused
  exact ⟨signature, otherSignature, _, SignedToken.carries_ofDocuments own signed,
    SignedToken.carries_ofDocuments own otherSigned, decoded, refused⟩

/-- The name of the key matters to a ring of the key if it is malformed, and to a ring of a pair that has
passed the check of new pairs even if it is not. -/
theorem tellsApart_by_keyId :
    proth.TellsApart KeyPair.proth.verifying (.string "a") (.integer 5) (.malformed .json) ∧
      KeyPair.ofHalves "tripled" (some KeyPair.tripled.signing) KeyPair.tripled.verifying =
        .ok KeyPair.tripled ∧
      tripled.signing.pair = KeyPair.tripled ∧
      tripled.TellsApart KeyPair.shortProth.verifying (.string "b") (.string "a") .signatureRejected :=
  ⟨tellsApart_proth, KeyPair.ofHalves_of_passesProbe KeyPair.passesProbe_tripled "tripled", rfl,
    tellsApart_tripled⟩

end Keyring
end TokenAuthority
