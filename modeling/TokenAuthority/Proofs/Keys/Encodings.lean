import TokenAuthority.Proofs.Bytes.Der
import TokenAuthority.Proofs.Failure
import TokenAuthority.Proofs.Keys.Formation

/-!
# Keys, written and read

The two halves of an RSA key pair as they are stored.  A private key whose parts belong together is read
back from its half, and a public key within the limits of published keys from its own.  Together they are
the pair again, as soon as the pair passes the probe.

The proofs run along the nesting of the elements.  That every length fits follows from one bound, on the
outermost content.

The halves of a pair on a curve are written down as well.  Of these there is one pair at the end, whose halves
are read by computation.
-/

namespace TokenAuthority

open Der

namespace AlgorithmId

/-- The algorithm of RSA keys, with null parameters. -/
def rsa : AlgorithmId := ⟨KeyPair.rsaName, some ⟨nullTag, []⟩⟩

/-- The element of the algorithm of RSA keys. -/
def rsaElement : Element :=
  .sequence [⟨objectIdTag, KeyPair.rsaName.content⟩, ⟨nullTag, []⟩]

theorem ofElement?_rsaElement : ofElement? rsaElement = some rsa := by
  decide +kernel

end AlgorithmId

namespace Rsa

/-- The limits of published keys. -/
structure PublicKey.IsPublishable (key : PublicKey) : Prop where
  size : BigEndian.bitLength key.modulus ≤ 4096
  below : key.exponent < key.modulus
  oddModulus : key.modulus % 2 = 1
  oddExponent : key.exponent % 2 = 1
  atLeast : 2 ≤ key.exponent
  atMost : key.exponent ≤ greatestExponent

def PublicKey.element (key : PublicKey) : Element :=
  .sequence [.natural key.modulus, .natural key.exponent]

/-- The public half of a key pair. -/
def PublicKey.info (key : PublicKey) : Element :=
  .sequence [AlgorithmId.rsaElement, ⟨bitStringTag, 0 :: key.element.bytes⟩]

/-- The parts of a private key, in the order in which they are written after the version. -/
def PrivateKey.parts (key : PrivateKey) : List Nat :=
  [0, key.publicKey.modulus, key.publicKey.exponent, key.exponent, key.firstPrime, key.secondPrime,
    key.firstExponent, key.secondExponent, key.inverse]

def PrivateKey.element (key : PrivateKey) : Element :=
  .sequence (key.parts.map .natural)

/-- The private half of a key pair. -/
def PrivateKey.info (key : PrivateKey) : Element :=
  .sequence [.natural 0, AlgorithmId.rsaElement, ⟨octetStringTag, key.element.bytes⟩]

theorem PublicKey.ofDer?_bytes {key : PublicKey} (publishable : key.IsPublishable)
    (short : key.element.IsShort) : PublicKey.ofDer? key.element.bytes = some key := by
  have parts : key.element.parts? = some [.natural key.modulus, .natural key.exponent] := by
    apply Element.parts?_sequence
    apply Element.isShort_of_sequence ?_ short.content
    intro part member
    simp only [List.mem_cons, List.not_mem_nil, or_false] at member
    rcases member with rfl | rfl <;> exact Element.isTag_natural _
  have limits : BigEndian.bitLength key.modulus ≤ 4096 ∧ key.exponent < key.modulus ∧
      key.modulus % 2 = 1 ∧ key.exponent % 2 = 1 ∧ 2 ≤ key.exponent ∧
      key.exponent ≤ greatestExponent :=
    ⟨publishable.size, publishable.below, publishable.oddModulus, publishable.oddExponent,
      publishable.atLeast, publishable.atMost⟩
  rw [PublicKey.ofDer?, element?_bytes short]
  simp only [Option.bind_eq_bind, Option.bind_some, parts, Element.natural?_natural]
  exact if_pos limits

theorem mapM_natural?_map (values : List Nat) :
    (values.map Element.natural).mapM Element.natural? = some values :=
  mapM_map_of_read fun value _ => Element.natural?_natural value

theorem PrivateKey.ofDer?_bytes {key : PrivateKey} (consistent : key.isConsistent = true)
    (short : key.element.IsShort) : PrivateKey.ofDer? key.element.bytes = some key := by
  have parts : key.element.parts? = some (key.parts.map .natural) := by
    apply Element.parts?_sequence
    apply Element.isShort_of_sequence ?_ short.content
    intro part member
    rcases List.mem_map.mp member with ⟨value, _, rfl⟩
    exact Element.isTag_natural value
  rw [PrivateKey.ofDer?, element?_bytes short]
  simp only [Option.bind_eq_bind, Option.bind_some, parts, mapM_natural?_map]
  simp only [PrivateKey.parts]
  exact if_pos ⟨trivial, consistent⟩

/-! ## Halves -/

/-- A part that is written inside a sequence is short if the sequence is. -/
theorem isShort_of_info {parts : List Element} {tag : UInt8} {before content : List UInt8}
    {inner : Element}
    (small : (Element.sequence parts).content.length < 2 ^ 32) (member : ⟨tag, content⟩ ∈ parts)
    (inside : content = before ++ inner.bytes) (known : isTag inner.tag = true) : inner.IsShort := by
  refine ⟨known, ?_⟩
  have outer := length_content_le_of_mem member
  have nested : inner.content.length ≤ content.length := by
    rw [inside]
    simp only [Element.bytes, List.length_append, List.length_cons]
    omega
  exact (nested.trans outer).trans_lt small

theorem PrivateKey.ofDer?_info {key : PrivateKey} (short : key.info.IsShort) :
    PrivateKeyInfo.ofDer? key.info.bytes = some ⟨0, AlgorithmId.rsa, key.element.bytes, []⟩ := by
  have parts : key.info.parts? =
      some [.natural 0, AlgorithmId.rsaElement, ⟨octetStringTag, key.element.bytes⟩] := by
    apply Element.parts?_sequence
    apply Element.isShort_of_sequence ?_ short.content
    intro part member
    simp only [List.mem_cons, List.not_mem_nil, or_false] at member
    rcases member with rfl | rfl | rfl
    · exact Element.isTag_natural 0
    · exact Element.isTag_sequence _
    · have known : isTag octetStringTag = true := by decide
      exact known
  have octets : (Element.mk octetStringTag key.element.bytes).octets? = some key.element.bytes := rfl
  rw [PrivateKeyInfo.ofDer?, element?_bytes short]
  simp only [Option.bind_eq_bind, Option.bind_some, parts, Element.natural?_natural,
    AlgorithmId.ofElement?_rsaElement, octets]
  rfl

theorem PublicKey.ofDer?_info {key : PublicKey} (short : key.info.IsShort) :
    PublicKeyInfo.ofDer? key.info.bytes = some ⟨AlgorithmId.rsa, 0, key.element.bytes⟩ := by
  have parts : key.info.parts? =
      some [AlgorithmId.rsaElement, ⟨bitStringTag, 0 :: key.element.bytes⟩] := by
    apply Element.parts?_sequence
    apply Element.isShort_of_sequence ?_ short.content
    intro part member
    simp only [List.mem_cons, List.not_mem_nil, or_false] at member
    rcases member with rfl | rfl
    · exact Element.isTag_sequence _
    · have known : isTag bitStringTag = true := by decide
      exact known
  have bits : (Element.mk bitStringTag (0 :: key.element.bytes)).bits? bitStringTag =
      some (0, key.element.bytes) := rfl
  rw [PublicKeyInfo.ofDer?, element?_bytes short]
  simp only [Option.bind_eq_bind, Option.bind_some, parts, AlgorithmId.ofElement?_rsaElement, bits]
  rfl

/-- A key whose numbers have at most 1024 bytes can be written. -/
theorem PublicKey.isShort_info {key : PublicKey} (modulus : BigEndian.byteLength key.modulus ≤ 1024)
    (exponent : BigEndian.byteLength key.exponent ≤ 1024) : key.info.IsShort := by
  have numbers : ∀ part ∈ [Element.natural key.modulus, .natural key.exponent],
      part.content.length ≤ 1025 := by
    intro part member
    simp only [List.mem_cons, List.not_mem_nil, or_false] at member
    rcases member with rfl | rfl
    · exact (Element.length_natural_le _).trans (Nat.succ_le_succ modulus)
    · exact (Element.length_natural_le _).trans (Nat.succ_le_succ exponent)
  have inner : key.element.content.length ≤ 2 * (2 * 1025 + 2) := Element.length_sequence_le numbers
  have written := key.element.length_bytes_le
  have named : AlgorithmId.rsaElement.content.length = 13 := by decide +kernel
  have parts : ∀ part ∈ [AlgorithmId.rsaElement, ⟨bitStringTag, 0 :: key.element.bytes⟩],
      part.content.length ≤ 10000 := by
    intro part member
    simp only [List.mem_cons, List.not_mem_nil, or_false] at member
    rcases member with rfl | rfl
    · omega
    · rw [List.length_cons]
      omega
  have total : key.info.content.length ≤ 2 * (2 * 10000 + 2) := Element.length_sequence_le parts
  exact ⟨Element.isTag_sequence _, total.trans_lt (by decide)⟩

theorem PrivateKey.isShort_info {key : PrivateKey}
    (bounded : ∀ part ∈ key.parts, BigEndian.byteLength part ≤ 1024) : key.info.IsShort := by
  have numbers : ∀ part ∈ key.parts.map Element.natural, part.content.length ≤ 1025 := by
    intro part member
    rcases List.mem_map.mp member with ⟨value, listed, rfl⟩
    exact (Element.length_natural_le value).trans (Nat.succ_le_succ (bounded value listed))
  have inner : key.element.content.length ≤ 9 * (2 * 1025 + 2) := Element.length_sequence_le numbers
  have written := key.element.length_bytes_le
  have version : (Element.natural 0).content.length = 1 := rfl
  have named : AlgorithmId.rsaElement.content.length = 13 := by decide +kernel
  have parts : ∀ part ∈ [.natural 0, AlgorithmId.rsaElement, ⟨octetStringTag, key.element.bytes⟩],
      part.content.length ≤ 40000 := by
    intro part member
    simp only [List.mem_cons, List.not_mem_nil, or_false] at member
    rcases member with rfl | rfl | rfl
    · omega
    · omega
    · change key.element.bytes.length ≤ 40000
      omega
  have total : key.info.content.length ≤ 3 * (2 * 40000 + 2) := Element.length_sequence_le parts
  exact ⟨Element.isTag_sequence _, total.trans_lt (by decide)⟩

end Rsa

/-- A private key and a public one as the two halves of a key pair. -/
def Rsa.PrivateKey.halvesWith (key : PrivateKey) (known : PublicKey) : EncodedPair where
  privateKey := key.info.bytes
  publicKey := known.info.bytes

/-- Both halves of the key pair of a private key. -/
def Rsa.PrivateKey.halves (key : PrivateKey) : EncodedPair :=
  key.halvesWith key.publicKey

/-- A pair of RSA keys is read back from its two halves, if it passes the probe. -/
theorem KeyPair.ofEncoded_halves {key : Rsa.PrivateKey} {known : Rsa.PublicKey}
    (consistent : key.isConsistent = true) (publishable : known.IsPublishable)
    (shortSecret : key.info.IsShort) (shortKnown : known.info.IsShort)
    (passes : (KeyPair.mk (.rsa key) (.rsa known)).PassesProbe) (name : String) :
    KeyPair.ofEncoded name (key.halvesWith known) = .ok ⟨.rsa key, .rsa known⟩ := by
  have secret : key.element.IsShort :=
    Rsa.isShort_of_info shortSecret.content (List.mem_of_mem_getLast? rfl) (List.nil_append _).symm
      (Element.isTag_sequence _)
  have shortKey : known.element.IsShort :=
    Rsa.isShort_of_info shortKnown.content (List.mem_of_mem_getLast? rfl) (List.singleton_append).symm
      (Element.isTag_sequence _)
  have signing : Rsa.PrivateKey.ofDer? key.element.bytes = some key :=
    Rsa.PrivateKey.ofDer?_bytes consistent secret
  have verifying : rsaPublicKey? ⟨AlgorithmId.rsa, 0, known.element.bytes⟩ = some known := by
    have plain : AlgorithmId.rsa.hasNullParameters = true := by decide
    rw [rsaPublicKey?, if_pos ⟨plain, rfl⟩]
    exact Rsa.PublicKey.ofDer?_bytes publishable shortKey
  have halves : ofHalves name (some (.rsa key)) (.rsa known) = .ok ⟨.rsa key, .rsa known⟩ :=
    ofHalves_of_passesProbe passes name
  rw [ofEncoded, Rsa.PrivateKey.halvesWith, Rsa.PrivateKey.ofDer?_info shortSecret,
    Rsa.PublicKey.ofDer?_info shortKnown]
  simp only [ne_eq, not_true_eq_false, if_false]
  rw [if_pos (show AlgorithmId.rsa.name = rsaName from rfl), ofRsaHalves, verifying]
  simp only [signing, Option.map_some, halves]

/-! ## Keys on a curve -/

namespace AlgorithmId

/-- The algorithm of keys on a curve, with the name of the curve. -/
def onCurve (curve : ObjectId) : AlgorithmId :=
  ⟨KeyPair.curveKeyName, some ⟨objectIdTag, curve.content⟩⟩

/-- The element of the algorithm of keys on a curve. -/
def onCurveElement (curve : ObjectId) : Element :=
  .sequence [⟨objectIdTag, KeyPair.curveKeyName.content⟩, ⟨objectIdTag, curve.content⟩]

end AlgorithmId

namespace P256

/-- The factor, and the point that belongs to it. -/
def PrivateKey.element (key : PrivateKey) : Element :=
  .sequence [.natural 1, ⟨octetStringTag, BigEndian.fixed 32 key.factor⟩,
    ⟨partTag true 1, (Element.mk bitStringTag (0 :: key.publicKey.bytes)).bytes⟩]

/-- The private half of a key pair on P-256. -/
def PrivateKey.info (key : PrivateKey) : Element :=
  .sequence [.natural 0, AlgorithmId.onCurveElement KeyPair.p256Name,
    ⟨octetStringTag, key.element.bytes⟩]

/-- The public half of a key pair.  Its point is one of P-256, whatever the name of its curve is. -/
def PublicKey.info (key : PublicKey) (curve : ObjectId) : Element :=
  .sequence [AlgorithmId.onCurveElement curve, ⟨bitStringTag, 0 :: key.bytes⟩]

/-- Both halves of a key pair. -/
def PrivateKey.halves (key : PrivateKey) : EncodedPair where
  privateKey := key.info.bytes
  publicKey := (key.publicKey.info KeyPair.p256Name).bytes

/-- The key of the factor one. -/
def generatorKey : PrivateKey :=
  ⟨1, ⟨generator.x, generator.y⟩⟩

theorem ofDer?_info_generatorKey : PrivateKeyInfo.ofDer? generatorKey.info.bytes =
    some ⟨0, .onCurve KeyPair.p256Name, generatorKey.element.bytes, []⟩ := by
  decide +kernel

theorem ofDer?_publicInfo_generatorKey :
    PublicKeyInfo.ofDer? (generatorKey.publicKey.info KeyPair.p256Name).bytes =
      some ⟨.onCurve KeyPair.p256Name, 0, generatorKey.publicKey.bytes⟩ := by
  decide +kernel

end P256

namespace KeyPair

/-- The pair of the factor one.  Its public half is the generator of the curve. -/
def generator : KeyPair :=
  ⟨.p256 P256.generatorKey, .p256 P256.generatorKey.publicKey⟩

theorem passesProbe_generator : generator.PassesProbe := by
  decide +kernel

theorem ofEncoded_generatorKey (name : String) :
    ofEncoded name P256.generatorKey.halves = .ok generator := by
  refine ofEncoded_eq_ok_iff.mpr
    ⟨_, _, P256.ofDer?_info_generatorKey, P256.ofDer?_publicInfo_generatorKey, ?_⟩
  constructor
  case sameKind => rfl
  case signing => decide +kernel
  case verifying => decide +kernel
  case passesProbe => exact passesProbe_generator

end KeyPair

end TokenAuthority
