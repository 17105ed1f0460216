import TokenAuthority.Proofs.Config.Validity
import TokenAuthority.Proofs.Keys.Loading
import TokenAuthority.Proofs.Keys.Stores
import TokenAuthority.Proofs.Text.Blanks
import TokenAuthority.Proofs.Token.Verdicts

/-!
# Keys that no longer sign

A key that has signed is to go on verifying once another key signs, as long as its alias is listed among those
that only check.  The alias takes two ways: an alias that signs is used as it is written, and aliases that only
check are trimmed first.  Both are then looked up in the same store.

So an alias without blanks at its ends keeps its key, and with it every token that the key verifies.  An alias
with such blanks is looked up under another name.  If the store does not have that name, the key is passed over
without an error, and the tokens that it has signed are refused.
-/

namespace TokenAuthority

namespace Config.KeystoreLayer

/-- An alias is used for checking as it is listed exactly if it has no blanks at its ends. -/
theorem mem_checkingAliases_iff {layer : KeystoreLayer} {name : String}
    (listed : name ∈ layer.checkingAliases.getD []) (nonempty : name ≠ "") :
    name ∈ layer.settings.checkingAliases ↔ Text.trim name = name := by
  rw [settings, List.mem_filter, List.mem_map]
  constructor
  · rintro ⟨⟨other, _, rfl⟩, _⟩
    exact Text.trim_trim other
  · intro trimmed
    have kept : (!name.isEmpty) = true := by
      rw [Bool.not_eq_true', Bool.eq_false_iff]
      exact fun empty => nonempty (String.isEmpty_iff.mp empty)
    exact ⟨⟨name, listed, trimmed⟩, kept⟩

end Config.KeystoreLayer

namespace Keyring

/-- A ring decodes every token that another has encoded of claims and that its signing key verifies, while the
token is valid and, unless it is a refresh token, if it is for the audience of the ring. -/
def DecodesTokensOf (ring signer : Keyring) : Prop :=
  ∀ claims : Claims, claims.IsBuilt → ∀ expiry, claims.expiresAt = some expiry →
    ∀ text, signer.encode claims = .ok text → ∀ token, SignedToken.ofText? text = some token →
      token.isSignedBy signer.signing.pair.verifying = true → ∀ now : Time.Instant, ring.leeway ≤ now.clock →
      now.clock.toNat ≤ expiry.seconds + ring.leeway.toNat →
      (claims.accessTokenId.isSome = true ∨ ring.audience ∈ claims.audience) →
      ring.decode now text = .ok (claims.readFrom text)

theorem decodesTokensOf_of_mem {ring signer : Keyring}
    (held : signer.signing.pair ∈ ring.keys.map NamedKey.pair) : ring.DecodesTokensOf signer := by
  intro claims built expiry expires text encoded token parts isSigned now begun valid audience
  rcases exists_standsFor_of_encode built encoded with ⟨claimSet, stands, signed⟩
  have vouches := vouchesFor_of_isSignedBy parts isSigned held
  rw [decode_of_standsFor stands signed vouches expires begun valid, if_pos audience]

/-- A key signs under one layer, and under another one over the same store its alias is listed among those that
only check.  The key is kept for checking exactly if its alias has no blanks at its ends, and if it is kept, all
tokens that it has signed and verifies are still decoded. -/
theorem signing_mem_checking_iff (opener : StoreOpener) (former latter : Config.KeystoreLayer) (name : String)
    (signs : former.signingAlias = some name) (aliases : List String)
    (lists : latter.checkingAliases = some aliases) (listed : name ∈ aliases)
    (formerSettings latterSettings : Config.KeystoreSettings)
    (formerResolved : former.resolve = .ok formerSettings)
    (latterResolved : latter.resolve = .ok latterSettings)
    (otherSigns : latterSettings.signingAlias ≠ name)
    (sameStore : opener.first? latterSettings.password latterSettings.locations =
      opener.first? formerSettings.password formerSettings.locations)
    (formerAudience latterAudience : String) (formerLeeway latterLeeway : UInt64)
    (formerRing latterRing : Keyring)
    (formerLoaded : loadWith opener formerSettings formerAudience formerLeeway = .ok formerRing)
    (latterLoaded : loadWith opener latterSettings latterAudience latterLeeway = .ok latterRing) :
    (formerRing.signing ∈ latterRing.checking ↔ Text.trim name = name) ∧
      (formerRing.signing ∈ latterRing.checking → latterRing.DecodesTokensOf formerRing) := by
  rcases former.checks.valid_of_ok formerResolved with ⟨formerValid, rfl⟩
  rcases latter.checks.valid_of_ok latterResolved with ⟨_, rfl⟩
  have signsAs : former.settings.signingAlias = name := by
    rw [Config.KeystoreLayer.settings, signs]
    rfl
  rcases exists_lookup_of_loadWith formerLoaded with ⟨lookup, opened, named, areIn⟩
  have isIn := areIn.each formerRing.signing List.mem_cons_self
  rw [signsAs] at named
  have nonempty : name ≠ "" := by
    rintro rfl
    rcases formerValid.signingAlias with ⟨character, member, _⟩
    rw [signsAs] at member
    cases member
  have usedAsListed : name ∈ latter.settings.checkingAliases ↔ Text.trim name = name :=
    Config.KeystoreLayer.mem_checkingAliases_iff (by rwa [lists]) nonempty
  constructor
  · rw [mem_checking_iff_of_loadWith latterLoaded (sameStore.trans opened), named]
    exact ⟨fun kept => usedAsListed.mp kept.2.1,
      fun trimmed => ⟨isIn, usedAsListed.mpr trimmed, otherSigns.symm⟩⟩
  · intro kept
    exact decodesTokensOf_of_mem (List.mem_map_of_mem (List.mem_cons_of_mem _ kept))

/-! ## One key after another -/

end Keyring

theorem KeyPair.proth_ne_generator : proth ≠ generator := by
  intro same
  have sameAlgorithm := congrArg KeyPair.algorithm same
  cases sameAlgorithm

namespace Config.KeystoreLayer

/-- The first pair signs. -/
def before (name : String) : KeystoreLayer where
  password := some ⟨"secret"⟩
  signingAlias := some name

/-- The second pair signs, and the first one is to be kept. -/
def after (name : String) : KeystoreLayer where
  password := some ⟨"secret"⟩
  signingAlias := some "next"
  checkingAliases := some [name]

end Config.KeystoreLayer

namespace Keyring

/-- The first pair alone. -/
def before (name : String) : Keyring where
  signing := ⟨name, KeyPair.proth⟩
  audience := "res_ManagementPortal"
  leeway := 10

/-- The second pair, with the ones that are kept. -/
def after (checking : List NamedKey) : Keyring where
  signing := ⟨"next", KeyPair.generator⟩
  checking
  audience := "res_ManagementPortal"
  leeway := 10

theorem loadWith_before (name : String) :
    loadWith (.ofTwo name) (Config.KeystoreLayer.before name).settings "res_ManagementPortal" 10 =
      .ok (before name) := by
  have opened : (StoreOpener.ofTwo name).first? (Config.KeystoreLayer.before name).settings.password
      (Config.KeystoreLayer.before name).settings.locations = some (.ofTwo name) := rfl
  exact loadWith_of_loadAll opened (loadSigning_ofTwo name) rfl _ _

theorem loadWith_after {name : String} (different : "next" ≠ name) {checking : List NamedKey}
    (kept : loadAll (.ofTwo name) [⟨"next", KeyPair.generator⟩]
      (Config.KeystoreLayer.after name).settings.checkingAliases =
        .ok (⟨"next", KeyPair.generator⟩ :: checking)) :
    loadWith (.ofTwo name) (Config.KeystoreLayer.after name).settings "res_ManagementPortal" 10 =
      .ok (after checking) := by
  have opened : (StoreOpener.ofTwo name).first? (Config.KeystoreLayer.after name).settings.password
      (Config.KeystoreLayer.after name).settings.locations = some (.ofTwo name) := rfl
  exact loadWith_of_loadAll opened (loadSigning_ofTwo_next different) kept _ _

/-- An alias without blanks around it: the first pair is kept, and its tokens are decoded. -/
theorem signing_mem_checking_iff_main :
    loadWith (.ofTwo "main") (Config.KeystoreLayer.after "main").settings "res_ManagementPortal" 10 =
        .ok (after [⟨"main", KeyPair.proth⟩]) ∧
      (before "main").signing ∈ (after [⟨"main", KeyPair.proth⟩]).checking ∧
      (after [⟨"main", KeyPair.proth⟩]).DecodesTokensOf (before "main") := by
  have used : (Config.KeystoreLayer.after "main").settings.checkingAliases = ["main"] := by decide
  have latterLoaded : loadWith (.ofTwo "main") (Config.KeystoreLayer.after "main").settings
      "res_ManagementPortal" 10 = .ok (after [⟨"main", KeyPair.proth⟩]) := by
    apply loadWith_after (by decide)
    have fresh : ([NamedKey.mk "next" KeyPair.generator].any fun key => key.name == "main") = false := rfl
    rw [used, loadAll, fresh, if_neg Bool.false_ne_true, loadChecking_ofTwo]
    rfl
  have both := signing_mem_checking_iff (.ofTwo "main") (.before "main") (.after "main") "main" rfl ["main"]
    rfl List.mem_cons_self _ _ rfl rfl (by decide) rfl _ _ _ _ _ _ (loadWith_before "main") latterLoaded
  have kept := both.1.mpr (by decide)
  exact ⟨latterLoaded, kept, both.2 kept⟩

/-- Claims of an access token for both rings. -/
def demotedClaims : Claims :=
  Claims.build [.subject "S", .audience ["res_ManagementPortal"], .expiresAt ⟨2000, 0⟩ rfl]

/-- An alias with a blank in front of it signs and is listed for checking, and its key is dropped without an
error.  A token that it has signed, and that is valid, is refused. -/
theorem exists_signatureRejected_of_blank :
    (Config.KeystoreLayer.before " main").resolve = .ok (Config.KeystoreLayer.before " main").settings ∧
      (Config.KeystoreLayer.after " main").resolve = .ok (Config.KeystoreLayer.after " main").settings ∧
      " main" ∈ (Config.KeystoreLayer.after " main").checkingAliases.getD [] ∧
      loadWith (.ofTwo " main") (Config.KeystoreLayer.before " main").settings "res_ManagementPortal" 10 =
        .ok (before " main") ∧
      loadWith (.ofTwo " main") (Config.KeystoreLayer.after " main").settings "res_ManagementPortal" 10 =
        .ok (after []) ∧
      ∃ text, (before " main").encode demotedClaims = .ok text ∧
        (before " main").decode ⟨1000, 0⟩ text = .ok (demotedClaims.readFrom text) ∧
        (after []).decode ⟨1000, 0⟩ text = .error .signatureRejected := by
  have used : (Config.KeystoreLayer.after " main").settings.checkingAliases = ["main"] := by decide
  have latterLoaded : loadWith (.ofTwo " main") (Config.KeystoreLayer.after " main").settings
      "res_ManagementPortal" 10 = .ok (after []) := by
    apply loadWith_after (by decide)
    rw [used]
    rfl
  have built : demotedClaims.IsBuilt := ⟨_, rfl⟩
  have expires : demotedClaims.expiresAt = some ⟨2000, 0⟩ := rfl
  rcases ClaimSet.exists_ofClaims expires with ⟨claimSet, written, _⟩
  have reliable : (before " main").signing.pair.IsReliable := KeyPair.isReliable_proth
  rcases exists_encode_of_signsAll reliable.signs written with ⟨text, encoded, _⟩
  rcases exists_standsFor_of_encode built encoded with ⟨claimSet, stands, signed⟩
  have verified := vouchesFor_of_encode reliable.verifiesOwn built encoded
  have foreign : (after []).vouchesFor text = false := by
    rw [Bool.eq_false_iff]
    intro vouches
    have held := (vouchesFor_iff reliable.verifiesOwn (ClaimSet.isWritable_toJson stands.times) signed ?_).mp vouches
    · exact KeyPair.proth_ne_generator (List.mem_singleton.mp held)
    · intro other member _
      rw [List.mem_singleton.mp member]
      exact VerifyingKey.p256_rejects_proth _
  refine ⟨rfl, rfl, List.mem_cons_self, loadWith_before " main", latterLoaded, text, encoded, ?_, ?_⟩
  · rw [decode_of_standsFor stands signed verified expires (by decide) (by decide)]
    exact if_pos (Or.inr List.mem_cons_self)
  · exact decode_claimSet_of_not_vouchesFor stands.times signed foreign ⟨1000, 0⟩

end Keyring
end TokenAuthority
