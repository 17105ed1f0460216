import TokenAuthority.Proofs.Authority.Runs
import TokenAuthority.Proofs.Keys.Stores

/-!
# Issuing and verifying under changing configurations

Tokens are issued under the settings that the service was started with, for ever.  They are verified under
the configuration that was loaded last.  The two agree as long as both have the same resource, whatever else
the configurations say: a token that was granted is accepted at once.  When they have different resources,
every access token that is granted is refused for its audience until a configuration with the first resource
is loaded again.

All of this goes for tokens whose signature a current key verifies.  If the signing pair verifies its own
signatures these are all tokens, but a pair that has passed the probe may sign a token that no key verifies.
-/

namespace TokenAuthority

namespace Keyring

variable {ring : Keyring} {settings : Config.TokenSettings} {now : Time.Instant} {ids : FreshIds}
  {request : GrantRequest} {profile : Option Profile} {expiry : Time.Instant} {granted : GrantedTokens}

/-- In the second of its grant a token has not expired, and the clock can be put back by every leeway up to it. -/
theorem begun_and_valid_of_expiryAfter {validity leeway : UInt64}
    (computed : expiryAfter now.truncate validity = .ok expiry) (begun : (leeway.toNat : Int) ≤ now.seconds) :
    leeway ≤ now.clock ∧ now.clock.toNat ≤ expiry.seconds + leeway.toNat := by
  rcases of_expiryAfter computed with ⟨later, representable, _⟩
  have bounds := Time.Instant.isRepresentable_iff.mp representable
  have seconds : now.truncate.seconds = now.seconds := rfl
  -- the clock does not wrap between the leeway and the expiry
  have clock : now.clock.toNat = now.seconds.toNat := by
    rw [Time.Instant.clock, UInt64.toNat_ofNat']
    apply Nat.mod_eq_of_lt
    omega
  rw [UInt64.le_iff_toNat_le, clock]
  omega

/-- An access token is refused for its signature by the ring that issued it, if no key of the ring verifies it.
Otherwise it is accepted at once if the ring is for its audience, and refused for its audience if not. -/
theorem readAccess_of_issues (issues : ring.Issues settings now ids request profile expiry granted)
    (begun : (ring.leeway.toNat : Int) ≤ now.seconds) :
    (ring.signing.pair.VerifiesOwn → ring.vouchesFor granted.accessToken = true) ∧
    (ring.vouchesFor granted.accessToken = false →
      ring.readAccess now granted.accessToken = .error .signatureRejected) ∧
    (ring.vouchesFor granted.accessToken = true →
      (ring.audience = settings.resource →
        ∃ claims, ring.readAccess now granted.accessToken = .ok claims) ∧
      (ring.audience ≠ settings.resource →
        ring.readAccess now granted.accessToken = .error .audienceRejected)) := by
  rcases issues.exists_accessClaimSet with
    ⟨claimSet, signed, times, audience, access, issuedAt, expires, _⟩
  rcases of_expiryAfter issues.expires with ⟨later, representable, _⟩
  have bounds := Time.Instant.isRepresentable_iff.mp representable
  have seconds : now.truncate.seconds = now.seconds := rfl
  rcases begun_and_valid_of_expiryAfter issues.expires begun with ⟨started, valid⟩
  rw [← expires] at valid
  have named : (claimSet.accessTokenId.isSome = true ∨ ring.audience ∈ claimSet.audience) ↔
      ring.audience = settings.resource := by
    rw [access, audience, List.mem_singleton]
    exact or_iff_right Bool.false_ne_true
  refine ⟨fun own => vouchesFor_of_mem own (ClaimSet.isWritable_toJson times) signed List.mem_cons_self, ?_, ?_⟩
  · intro foreign
    rw [readAccess, decode_claimSet_of_not_vouchesFor times signed foreign]
  intro vouches
  have decoded := decode_claimSet_of_vouchesFor times signed vouches started valid
  constructor
  · intro same
    rw [if_pos (named.mpr same)] at decoded
    have issued : ∀ instant ∈ claimSet.issuedAt, Time.Instant.isRepresentable instant = true := by
      intro instant member
      rw [issuedAt] at member
      rw [← Option.some.inj member, Time.Instant.isRepresentable_iff]
      omega
    rcases ClaimSet.exists_toClaims issued (by rwa [expires]) granted.accessToken with ⟨claims, taken⟩
    have notRefresh : claims.isRefresh = false := by
      rw [Claims.isRefresh, (ClaimSet.isKeptBy_of_toClaims taken).accessTokenId, access]
      rfl
    refine ⟨claims, ?_⟩
    rw [readAccess, decoded, taken]
    simp only [notRefresh, Bool.false_eq_true, if_false]
  · intro different
    rw [if_neg (mt named.mp different)] at decoded
    rw [readAccess, decoded]

end Keyring

namespace Authority

/-- Over a whole run: an access token that is granted is refused for its signature if no current key verifies it,
and the signing pair does if it verifies its own signatures.  Otherwise it is accepted at once if the configuration
that was loaded last has the resource that the service was started with, and refused for its audience if not. -/
theorem readAccess_of_granted (files : Files.Tree) (settings : Config.Settings) (sink : Audit.Sink)
    (initial : Authority)
    (started : Authority.start files settings.keystore settings.token sink = .ok initial)
    (operations : List Operation) (now : Time.Instant)
    (begun : ((initial.run operations).keyring.leeway.toNat : Int) ≤ now.seconds)
    (ids : FreshIds) (granted : GrantedTokens) (next : Authority)
    (success :
      (∃ request profile,
        (initial.run operations).grant now ids request profile = .ok (granted, next)) ∨
      ∃ token profile, (initial.run operations).refresh now ids token profile = .ok (granted, next)) :
    (next.keyring.signing.pair.VerifiesOwn → next.keyring.vouchesFor granted.accessToken = true) ∧
    (next.keyring.vouchesFor granted.accessToken = false →
      next.keyring.readAccess now granted.accessToken = .error .signatureRejected) ∧
    (next.keyring.vouchesFor granted.accessToken = true →
      ((operations.filterMap Operation.audience?).getLast?.getD settings.token.resource =
          settings.token.resource →
        ∃ claims, next.keyring.readAccess now granted.accessToken = .ok claims) ∧
      ((operations.filterMap Operation.audience?).getLast?.getD settings.token.resource ≠
          settings.token.resource →
        next.keyring.readAccess now granted.accessToken = .error .audienceRejected)) := by
  rcases kept_of_start started with ⟨sameSettings, sameAudience⟩
  have grants : ∃ request profile,
      (initial.run operations).grant now ids request profile = .ok (granted, next) := by
    rcases success with grants | ⟨token, profile, refreshed⟩
    · exact grants
    · rcases exists_readRefresh_of_refresh refreshed with ⟨previous, _, _, grants⟩
      exact ⟨_, _, grants⟩
  rcases grants with ⟨request, profile, grants⟩
  rcases exists_issues_of_grant grants with ⟨expiry, issues⟩
  rw [initial.settings_run operations, sameSettings] at issues
  have inForce := initial.audience_run operations
  rw [sameAudience] at inForce
  rw [(kept_of_grant grants).1, ← inForce]
  exact Keyring.readAccess_of_issues issues begun

/-! ## Another leeway, and another resource -/

/-- A configuration with one resource, for the store of one pair. -/
def layerFor (resource : String) (leeway : UInt64) : Config.Layer where
  keystore := some
    { locations := some ["keys"], password := some ⟨"secret"⟩, signingAlias := some "main" }
  token := some { resource := some resource, leeway := some leeway }

def settingsFor (resource : String) (leeway : UInt64) : Config.Settings where
  keystore := .ofPair
  token := { resource, leeway }
  logging := {}

theorem resolve_layerFor {resource : String} (named : resource.isEmpty = false) (leeway : UInt64) :
    (layerFor resource leeway).resolve = .ok (settingsFor resource leeway) := by
  have keystore : ((layerFor resource leeway).keystore.getD {}).resolve = .ok .ofPair := by
    change ({ locations := some ["keys"], password := some ⟨"secret"⟩, signingAlias := some "main" } :
      Config.KeystoreLayer).resolve = _
    decide
  have token : ((layerFor resource leeway).token.getD {}).resolve =
      .ok (settingsFor resource leeway).token := by
    simp only [layerFor, settingsFor, Option.getD_some, Config.TokenLayer.resolve,
      Config.TokenSettings.fault?, named]
    rfl
  rw [Config.Layer.resolve, keystore, token]
  rfl

/-- The files of the configurations, with a pair that signs. -/
def storedFiles : Files.Tree :=
  .ofPair Rsa.prothKey.halves

/-- The service that such a configuration starts. -/
def serviceFor (resource : String) (leeway : UInt64) : Authority where
  keyring := { signing := ⟨"main", KeyPair.proth⟩, audience := resource, leeway }
  settings := (settingsFor resource leeway).token

section

variable (resource : String) (leeway : UInt64)

theorem start_settingsFor :
    start storedFiles (settingsFor resource leeway).keystore (settingsFor resource leeway).token
      (.memory []) = .ok (serviceFor resource leeway) := by
  change Except.map _ (Keyring.load storedFiles .ofPair resource leeway) = _
  rw [storedFiles, Keyring.load_prothKey]
  rfl

theorem after_reload_settingsFor (authority : Authority) :
    authority.after (.reload storedFiles (settingsFor resource leeway)) =
      authority.replace (serviceFor resource leeway).keyring := by
  change (Except.toOption (Except.map _ (Keyring.load storedFiles .ofPair resource leeway))).getD _ = _
  rw [storedFiles, Keyring.load_prothKey]
  rfl

theorem after_reload_withoutFiles (authority : Authority) :
    authority.after (.reload ⟨.directory [], []⟩ (settingsFor resource leeway)) = authority := by
  have fails : Keyring.load ⟨.directory [], []⟩ .ofPair resource leeway =
      .error (.storeUnavailable ["keys"]) := rfl
  change (Except.toOption (Except.map authority.replace
    (Keyring.load ⟨.directory [], []⟩ .ofPair resource leeway))).getD authority = authority
  rw [fails]
  rfl

/-- A client is granted tokens under each ring of the pair. -/
theorem exists_grant_replace_serviceFor (started : String) :
    ∃ granted next, ((serviceFor started 60).replace (serviceFor resource leeway).keyring).grant
      ⟨1000, 0⟩ default ⟨"client", "client_credentials", ["SUBJECT.READ"]⟩ none = .ok (granted, next) := by
  have reliable : ((serviceFor started 60).replace (serviceFor resource
      leeway).keyring).keyring.signing.pair.IsReliable := KeyPair.isReliable_proth
  exact exists_grant_of_signsAll reliable.signs rfl rfl rfl

end

/-- A configuration with another leeway is loaded, and the files of one with another resource are missing. -/
def otherLeeway : List Operation :=
  [.reload storedFiles (settingsFor "res_ManagementPortal" 30),
    .reload ⟨.directory [], []⟩ (settingsFor "res_Gateway" 30)]

theorem run_otherLeeway : (serviceFor "res_ManagementPortal" 60).run otherLeeway =
    (serviceFor "res_ManagementPortal" 60).replace (serviceFor "res_ManagementPortal" 30).keyring := by
  rw [otherLeeway, run_cons, run_cons, after_reload_settingsFor, after_reload_withoutFiles]
  rfl

/-- A token is accepted after a configuration with another leeway was loaded. -/
theorem readAccess_of_granted_otherLeeway :
    ∃ granted next,
      ((serviceFor "res_ManagementPortal" 60).run otherLeeway).grant ⟨1000, 0⟩ default
        ⟨"client", "client_credentials", ["SUBJECT.READ"]⟩ none = .ok (granted, next) ∧
      ∃ claims, next.keyring.readAccess ⟨1000, 0⟩ granted.accessToken = .ok claims := by
  rcases exists_grant_replace_serviceFor "res_ManagementPortal" 30 "res_ManagementPortal" with
    ⟨granted, next, success⟩
  have begun : (((serviceFor "res_ManagementPortal" 60).run otherLeeway).keyring.leeway.toNat : Int) ≤
      1000 := by
    rw [run_otherLeeway]
    decide
  have inForce := audience_run (serviceFor "res_ManagementPortal" 60) otherLeeway
  rw [run_otherLeeway] at inForce
  rw [← run_otherLeeway] at success
  have answers := readAccess_of_granted storedFiles (settingsFor "res_ManagementPortal" 60) (.memory []) _
    (start_settingsFor _ _) otherLeeway ⟨1000, 0⟩ begun default granted next (.inl ⟨_, _, success⟩)
  have kept := (kept_of_grant success).1
  rw [run_otherLeeway] at kept
  have own : next.keyring.signing.pair.VerifiesOwn := by
    rw [kept]
    exact KeyPair.isReliable_proth.verifiesOwn
  exact ⟨granted, next, success, (answers.2.2 (answers.1 own)).1 inForce.symm⟩

/-- A service that is started from files for one resource grants an access token after some operations, and refuses
it at once. -/
def RefusesGranted (files : Files.Tree) (operations : List Operation) (now : Time.Instant) (error : TokenError) :
    Prop :=
  ∃ settings initial granted next, (layerFor "res_ManagementPortal" 60).resolve = .ok settings ∧
    start files settings.keystore settings.token (.memory []) = .ok initial ∧
    (initial.run operations).grant now default ⟨"client", "client_credentials", ["SUBJECT.READ"]⟩ none =
      .ok (granted, next) ∧
    ((initial.run operations).keyring.leeway.toNat : Int) ≤ now.seconds ∧
    next.keyring.readAccess now granted.accessToken = .error error

/-- A token is refused for its audience after a configuration with another resource was loaded. -/
theorem refusesGranted_otherResource :
    RefusesGranted storedFiles [.reload storedFiles (settingsFor "res_Gateway" 60)] ⟨1000, 0⟩
      .audienceRejected := by
  have reached : (serviceFor "res_ManagementPortal" 60).run
      [.reload storedFiles (settingsFor "res_Gateway" 60)] =
      (serviceFor "res_ManagementPortal" 60).replace (serviceFor "res_Gateway" 60).keyring := by
    rw [run_cons, after_reload_settingsFor]
    rfl
  rcases exists_grant_replace_serviceFor "res_Gateway" 60 "res_ManagementPortal" with
    ⟨granted, next, success⟩
  have own : ((serviceFor "res_ManagementPortal" 60).replace
      (serviceFor "res_Gateway" 60).keyring).keyring.signing.pair.VerifiesOwn :=
    KeyPair.isReliable_proth.verifiesOwn
  rw [← reached] at success own
  have begun : (((serviceFor "res_ManagementPortal" 60).run
      [.reload storedFiles (settingsFor "res_Gateway" 60)]).keyring.leeway.toNat : Int) ≤ 1000 := by
    rw [reached]
    decide
  refine ⟨_, _, granted, next, resolve_layerFor (by decide) 60, start_settingsFor _ _, success, begun, ?_⟩
  rcases exists_issues_of_grant success with ⟨expiry, issues⟩
  have answers := Keyring.readAccess_of_issues issues begun
  rw [(kept_of_grant success).1]
  refine (answers.2.2 (answers.1 own)).2 ?_
  rw [settings_run, reached]
  decide

/-! ## A pair that does not verify all of its signatures -/

/-- The service of the pair that has passed the probe. -/
def tripledService : Authority where
  keyring := { signing := ⟨"main", KeyPair.tripled⟩, audience := "res_ManagementPortal", leeway := 60 }
  settings := (settingsFor "res_ManagementPortal" 60).token

theorem start_tripled :
    start (.ofPair (Rsa.shortProthKey.halvesWith KeyPair.tripledKey))
      (settingsFor "res_ManagementPortal" 60).keystore (settingsFor "res_ManagementPortal" 60).token
      (.memory []) = .ok tripledService := by
  change Except.map _ (Keyring.load _ .ofPair "res_ManagementPortal" 60) = _
  rw [Keyring.load_tripled]
  rfl

/-- What the client is granted in second 1001. -/
def tripledClaimSet : ClaimSet where
  scopes := ["SUBJECT.READ"]
  grantType := some "client_credentials"
  audience := ["res_ManagementPortal"]
  issuer := some "radar-auth"
  issuedAt := some 1001
  expiry := 1901
  tokenId := some "00000000-0000-0000-0000-000000000000"
  clientId := some "client"

theorem holdsTripled_tripledClaimSet : KeyPair.holdsTripled
    (tripledService.keyring.signing.unsigned tripledClaimSet.toJson).message = false := by
  decide +kernel

/-- No key of the service verifies what its pair signs for this. -/
theorem vouchesFor_tripledClaimSet {text : String}
    (signed : tripledService.keyring.signing.sign? tripledClaimSet.toJson = some text) :
    tripledService.keyring.vouchesFor text = false := by
  rcases NamedKey.exists_signature_of_sign? signed with ⟨signature, parts, made⟩
  have fails := (KeyPair.verifies_of_sign?_tripled made).trans holdsTripled_tripledClaimSet
  have read : Base64.ofUrlText? (SignedToken.ofDocuments tripledService.keyring.signing.header
      tripledClaimSet.toJson signature).signature = some signature := Base64.ofUrlText?_urlText signature
  have unsigned : (SignedToken.ofDocuments tripledService.keyring.signing.header
      tripledClaimSet.toJson signature).isSignedBy KeyPair.tripled.verifying = false := by
    rw [SignedToken.isSignedBy, read]
    split
    next header other _ same =>
      cases same
      rw [fails, Bool.and_false]
    · rfl
  rw [Keyring.vouchesFor, parts]
  exact (Bool.or_false _).trans unsigned

/-- A token is refused for its signature by the service that has just granted it, with a pair that has passed the
probe. -/
theorem refusesGranted_tripled :
    RefusesGranted (.ofPair (Rsa.shortProthKey.halvesWith KeyPair.tripledKey)) [] ⟨1001, 0⟩
      .signatureRejected := by
  have signs : tripledService.keyring.signing.pair.SignsAll := KeyPair.signsAll_tripled
  have made : ∃ granted next, tripledService.grant ⟨1001, 0⟩ default
      ⟨"client", "client_credentials", ["SUBJECT.READ"]⟩ none = .ok (granted, next) :=
    exists_grant_of_signsAll signs rfl rfl rfl
  rcases made with ⟨granted, next, success⟩
  have begun : (tripledService.keyring.leeway.toNat : Int) ≤ 1001 := by decide
  refine ⟨_, tripledService, granted, next, resolve_layerFor (by decide) 60, start_tripled, success, begun, ?_⟩
  rcases exists_issues_of_grant success with ⟨expiry, issues⟩
  have expires : expiry = ⟨1901, 0⟩ := Except.ok.inj (issues.expires.symm.trans rfl)
  subst expires
  rcases issues.exists_ofClaims with ⟨claimSet, written, signed, _⟩
  have same : claimSet = tripledClaimSet := Except.ok.inj (written.symm.trans rfl)
  rw [same] at signed
  rw [(kept_of_grant success).1]
  exact (Keyring.readAccess_of_issues issues begun).2.1 (vouchesFor_tripledClaimSet signed)

/-- Not every access token that is granted is accepted at once: it may be refused for its audience, and for its
signature. -/
theorem exists_rejected_of_granted :
    (∃ second, (layerFor "res_Gateway" 60).resolve = .ok second ∧
      RefusesGranted storedFiles [.reload storedFiles second] ⟨1000, 0⟩ .audienceRejected) ∧
    RefusesGranted (.ofPair (Rsa.shortProthKey.halvesWith KeyPair.tripledKey)) [] ⟨1001, 0⟩
      .signatureRejected :=
  ⟨⟨_, resolve_layerFor (by decide) 60, refusesGranted_otherResource⟩, refusesGranted_tripled⟩

end Authority
end TokenAuthority
