import TokenAuthority.Proofs.Authority.Runs
import TokenAuthority.Proofs.Keys.Encodings
import TokenAuthority.Proofs.Token.Verdicts

/-!
# Rotation of keys

Keys change while tokens are out.  A token that was signed at one point of a run is decoded at any later
point exactly as long as the pair that signed it is in the ring then, whether it still signs or only checks,
and whatever was put in place in between.  Afterwards the token is refused for its signature.

What has to be assumed is that the pair verifies its own signatures and that no other pair of the later ring
verifies them.
-/

namespace TokenAuthority

namespace Keyring

/-- Claims that one ring encodes are decoded by another that holds the signing pair, if they are valid for
it, and refused by one that does not hold it. -/
theorem decode_of_encode {signer ring : Keyring} (own : signer.signing.pair.VerifiesOwn) {claims : Claims}
    (built : claims.IsBuilt) {expiry : Time.Instant} (expires : claims.expiresAt = some expiry) {text : String}
    (encoded : signer.encode claims = .ok text)
    (others : ∀ other ∈ ring.keys, other.pair ≠ signer.signing.pair →
      other.pair.verifying.Rejects signer.signing.pair)
    {now : Time.Instant} (begun : ring.leeway ≤ now.clock)
    (valid : now.clock.toNat ≤ expiry.seconds + ring.leeway.toNat)
    (audience : claims.accessTokenId.isSome = true ∨ ring.audience ∈ claims.audience) :
    (signer.signing.pair ∈ ring.keys.map NamedKey.pair →
      ring.decode now text = .ok (claims.readFrom text)) ∧
    (signer.signing.pair ∉ ring.keys.map NamedKey.pair →
      ring.decode now text = .error .signatureRejected) := by
  rcases exists_standsFor_of_encode built encoded with ⟨claimSet, stands, signed⟩
  have vouches := vouchesFor_iff own (ClaimSet.isWritable_toJson stands.times) signed others
  constructor
  · intro held
    rw [decode_of_standsFor stands signed (vouches.mpr held) expires begun valid, if_pos audience]
  · intro absent
    have foreign : ring.vouchesFor text = false := Bool.eq_false_iff.mpr (absent ∘ vouches.mp)
    exact decode_claimSet_of_not_vouchesFor stands.times signed foreign now

end Keyring

namespace Authority

/-- Over a whole run: the ring is the one that was put in place last, and a token that was signed before
and is valid is decoded exactly if the pair that signed it is in the ring.  The pair verifies its own signatures,
and no other pair of the ring does. -/
theorem decode_iff_mem_keys_run (initial : Authority) (before between : List Operation)
    (pair : KeyPair) (signs : (initial.run before).keyring.signing.pair = pair)
    (later : Keyring) (current : (initial.run (before ++ between)).keyring = later)
    (claims : Claims) (built : claims.IsBuilt)
    (expiry : Time.Instant) (expires : claims.expiresAt = some expiry)
    (text : String) (encoded : (initial.run before).keyring.encode claims = .ok text)
    (own : pair.VerifiesOwn)
    (others : ∀ other ∈ later.keys, other.pair ≠ pair → other.pair.verifying.Rejects pair)
    (now : Time.Instant) (begun : later.leeway ≤ now.clock)
    (valid : now.clock.toNat ≤ expiry.seconds + later.leeway.toNat)
    (audience : claims.accessTokenId.isSome = true ∨ later.audience ∈ claims.audience) :
    later = ((before ++ between).filterMap Operation.keyring?).getLast?.getD initial.keyring ∧
      (later.decode now text = .ok (claims.readFrom text) ↔ pair ∈ later.keys.map NamedKey.pair) ∧
      (pair ∉ later.keys.map NamedKey.pair → later.decode now text = .error .signatureRejected) := by
  subst signs
  have decoded := Keyring.decode_of_encode own built expires encoded others begun valid audience
  refine ⟨?_, ⟨?_, decoded.1⟩, decoded.2⟩
  · rw [← current]
    exact initial.keyring_run (before ++ between)
  · intro read
    by_contra absent
    rw [decoded.2 absent] at read
    cases read

/-! ## A ring that is replaced -/

/-- A ring that signs with another pair, and for a different audience. -/
def successor (checking : List NamedKey) : Keyring where
  signing := ⟨"next", KeyPair.generator⟩
  checking
  audience := "res_Successor"
  leeway := 5

/-- A ring is replaced, and then a configuration is loaded in vain. -/
def rotation (checking : List NamedKey) : List Operation :=
  [.replace (successor checking), .reload ⟨.directory [], []⟩ default]

theorem keyring_run_rotation (checking : List NamedKey) (initial : Authority) :
    (initial.run ([] ++ rotation checking)).keyring = successor checking :=
  initial.keyring_run (rotation checking)

/-- A refresh token is decoded while its key still checks, and refused once it does not. -/
theorem decode_iff_mem_keys_run_rotation :
    ∃ text, Keyring.proth.encode
        (Claims.build [.accessTokenId "a", .expiresAt ⟨2000, 7⟩ (by decide)]) = .ok text ∧
      (successor [⟨"proth", KeyPair.proth⟩]).decode ⟨2005, 0⟩ text = .ok (Claims.readFrom
        (Claims.build [.accessTokenId "a", .expiresAt ⟨2000, 7⟩ (by decide)]) text) ∧
      (successor []).decode ⟨2005, 0⟩ text = .error .signatureRejected := by
  have expires : (Claims.build [.accessTokenId "a", .expiresAt ⟨2000, 7⟩ (by decide)]).expiresAt =
    some ⟨2000, 7⟩ := rfl
  rcases ClaimSet.exists_ofClaims expires with ⟨claimSet, written, _⟩
  rcases Keyring.exists_encode_of_signsAll Keyring.isReliable_proth.signs written with ⟨text, encoded, _⟩
  have held := decode_iff_mem_keys_run ⟨Keyring.proth, {}, {}, .memory []⟩ []
    (rotation [⟨"proth", KeyPair.proth⟩]) KeyPair.proth rfl _ (keyring_run_rotation _ _)
    _ ⟨_, rfl⟩ ⟨2000, 7⟩ rfl text encoded
    KeyPair.isReliable_proth.verifiesOwn
    (by
      intro other present different
      rcases List.mem_cons.mp present with rfl | present
      · exact VerifyingKey.p256_rejects_proth _
      · rw [List.mem_singleton.mp present] at different
        exact absurd rfl different)
    ⟨2005, 0⟩ (by decide) (by decide) (Or.inl rfl)
  have dropped := decode_iff_mem_keys_run ⟨Keyring.proth, {}, {}, .memory []⟩ []
    (rotation []) KeyPair.proth rfl _ (keyring_run_rotation _ _)
    _ ⟨_, rfl⟩ ⟨2000, 7⟩ rfl text encoded
    KeyPair.isReliable_proth.verifiesOwn
    (by
      intro other present _
      rw [List.mem_singleton.mp present]
      exact VerifyingKey.p256_rejects_proth _)
    ⟨2005, 0⟩ (by decide) (by decide) (Or.inl rfl)
  refine ⟨text, encoded, held.2.1.mpr ?_, dropped.2.2 ?_⟩
  · exact List.mem_cons_of_mem _ List.mem_cons_self
  · decide

end Authority
end TokenAuthority
