import TokenAuthority.Proofs.Token.Signing

/-!
# The audience of access tokens

Two readers look at the audience of a payload: the one that decides whether the payload is for the ring,
and the one that makes the claim set.  They agree on every payload that states an audience, be it one name
or a list of names.  They differ on one that states none, because it has no such member or because the
member is null: it passes for any ring, and its claim set has an empty audience.

So an access token that is read names the audience of the ring exactly when its payload states one.
-/

namespace TokenAuthority

/-- A payload states an audience: it has a member for it that is not null. -/
def Verifier.statesAudience (payload : Json) : Bool :=
  match payload.get? "aud" with
  | none => false
  | some .null => false
  | some _ => true

namespace ClaimSet

/-- What a payload with members gives to the two fields that decide how it is verified. -/
theorem exists_slots_of_ofJson? {members : List (String × Json)} {claimSet : ClaimSet}
    (stated : ofJson? (.object members) = some claimSet) :
    ∃ audience accessTokenId,
      Json.onlyMember? members "aud" = some audience ∧
      Json.onlyMember? members "ati" = some accessTokenId ∧
      Json.withDefault? [] audienceOf? audience = some claimSet.audience ∧
      Json.optional? Json.asString? accessTokenId = some claimSet.accessTokenId := by
  unfold ofJson? at stated
  rcases Option.bind_eq_some_iff.mp stated with ⟨values, given, read⟩
  have slots := Json.map_onlyMember?_of_fields? given
  split at read
  next subject username scopes authorities roles sources grantType audience issuer issuedAt expiry
      tokenId accessTokenId clientId =>
    simp only [fields, List.map_cons, List.map_nil, List.cons.injEq] at slots
    -- the fields are read in their order, and all of them have to be well formed
    iterate 7 rcases Option.bind_eq_some_iff.mp read with ⟨_, _, read⟩
    rcases Option.bind_eq_some_iff.mp read with ⟨audienceRead, isAudience, read⟩
    iterate 4 rcases Option.bind_eq_some_iff.mp read with ⟨_, _, read⟩
    rcases Option.bind_eq_some_iff.mp read with ⟨accessTokenIdRead, isAccessTokenId, read⟩
    rcases Option.bind_eq_some_iff.mp read with ⟨_, _, read⟩
    cases read
    refine ⟨audience, accessTokenId, ?_, ?_, isAudience, isAccessTokenId⟩
    · exact slots.2.2.2.2.2.2.2.1
    · exact slots.2.2.2.2.2.2.2.2.2.2.2.2.1
  · cases read

variable {members : List (String × Json)} {claimSet : ClaimSet}

/-- A payload presents itself as that of a refresh token when its claim set is that of one. -/
theorem namesAccessToken?_eq_of_ofJson? (stated : ofJson? (.object members) = some claimSet) :
    SignedToken.namesAccessToken? (.object members) = some claimSet.accessTokenId.isSome := by
  rcases exists_slots_of_ofJson? stated with ⟨_, slot, _, only, _, read⟩
  have given : (Json.object members).fields? [⟨"ati", true⟩] = some [slot] := by
    rw [Json.fields?, List.mapM_cons, only]
    rfl
  rw [SignedToken.namesAccessToken?, given]
  cases slot with
  | none =>
      have absent : none = claimSet.accessTokenId := Option.some.inj read
      rw [← absent]
      rfl
  | some document =>
      cases document with
      | null =>
          have absent : none = claimSet.accessTokenId := Option.some.inj read
          rw [← absent]
          rfl
      | string value =>
          rw [← Option.some.inj read]
          rfl
      | _ => cases read

theorem namesAccessToken?_of_ofJson? (stated : ofJson? (.object members) = some claimSet)
    {refresh : Bool} (presented : SignedToken.namesAccessToken? (.object members) = some refresh) :
    refresh = claimSet.accessTokenId.isSome :=
  Option.some.inj (presented.symm.trans (namesAccessToken?_eq_of_ofJson? stated))

/-- For a payload that passes for an audience, its claim set names that audience exactly when the payload
states one. -/
theorem mem_audience_iff (stated : ofJson? (.object members) = some claimSet) {verifier : Verifier}
    {audience : String} (required : verifier.audience = some audience)
    (passes : verifier.isForAudience (.object members) = true) :
    audience ∈ claimSet.audience ↔ Verifier.statesAudience (.object members) = true := by
  rcases exists_slots_of_ofJson? stated with ⟨slot, _, only, _, read, _⟩
  have value := Json.get?_of_onlyMember? only
  rw [Verifier.statesAudience, value]
  rw [Verifier.isForAudience, required, Verifier.statedAudience?, value] at passes
  cases slot with
  | none =>
      have empty : [] = claimSet.audience := Option.some.inj read
      rw [← empty]
      exact iff_of_false List.not_mem_nil Bool.false_ne_true
  | some document =>
      cases document with
      | null =>
          have empty : [] = claimSet.audience := Option.some.inj read
          rw [← empty]
          exact iff_of_false List.not_mem_nil Bool.false_ne_true
      | string name =>
          have single : [name] = claimSet.audience := Option.some.inj read
          rw [← single]
          exact iff_of_true (List.contains_iff_mem.mp passes) rfl
      | array items =>
          have names : (Json.array items).asStrings? = some claimSet.audience := read
          simp only [names] at passes
          exact iff_of_true (List.contains_iff_mem.mp passes) rfl
      | _ => cases read

/-- Claims keep what a claim set says, but for its roles and the fractions of its times. -/
structure IsKeptBy (claimSet : ClaimSet) (claims : Claims) : Prop where
  subject : claims.subject = claimSet.subject
  username : claims.username = claimSet.username
  clientId : claims.clientId = claimSet.clientId
  grantType : claims.grantType = claimSet.grantType
  audience : claims.audience = claimSet.audience
  accessTokenId : claims.accessTokenId = claimSet.accessTokenId
  scopes : claims.scopes = claimSet.scopes.foldl addScopeTo []

theorem isKeptBy_of_toClaims {text : String} {claims : Claims}
    (read : claimSet.toClaims text = .ok claims) : claimSet.IsKeptBy claims := by
  unfold toClaims at read
  rcases exists_ok_of_bind read with ⟨expiry, _, read⟩
  rcases exists_ok_of_bind read with ⟨issuedAt, _, read⟩
  rw [← Except.ok.inj read]
  constructor <;> rfl

end ClaimSet

theorem Verifier.exists_members_of_isRegular {payload : Json} (regular : isRegular payload = true) :
    ∃ members, payload = .object members := by
  cases payload with
  | object members => exact ⟨members, rfl⟩
  | _ => cases regular

namespace Keyring

/-- An access token that is read names the audience of the ring exactly when its payload states any
audience at all. -/
theorem audience_mem_iff_of_readAccess (ring : Keyring) (now : Time.Instant) (text : String)
    (claims : Claims) (read : ring.readAccess now text = .ok claims) :
    ∃ token payload, SignedToken.ofText? text = some token ∧
      SignedToken.readPart token.payload = .ok payload ∧
      (ring.audience ∈ claims.audience ↔ Verifier.statesAudience payload = true) := by
  unfold readAccess at read
  split at read
  · cases read
  next other decoded =>
    split_ifs at read with refreshes
    cases read
    rcases exists_accepted_of_decode decoded with
      ⟨token, payload, refresh, claimSet, verifier, member, parts, part, presented, _, judged, taken⟩
    rcases Verifier.judgePayload_eq_accepted_iff.mp judged with ⟨stated, regular, _, _, _, passes⟩
    rcases Verifier.exists_members_of_isRegular regular with ⟨members, rfl⟩
    have kept := ClaimSet.isKeptBy_of_toClaims taken
    -- the claims are not those of a refresh token, so the audience was asked for
    have access : refresh = false := by
      rw [ClaimSet.namesAccessToken?_of_ofJson? stated presented, ← kept.accessTokenId]
      exact Bool.eq_false_iff.mpr refreshes
    have required : verifier.audience = some ring.audience := by
      rw [access] at member
      rcases List.mem_map.mp member with ⟨key, _, rfl⟩
      rfl
    refine ⟨token, .object members, parts, part, ?_⟩
    rw [kept.audience]
    exact ClaimSet.mem_audience_iff stated required passes

/-- A payload that states the audience of the ring. -/
theorem audience_mem_iff_of_readAccess_proth :
    ∃ text claims, proth.readAccess ⟨1000, 0⟩ text = .ok claims ∧
      ∃ token payload, SignedToken.ofText? text = some token ∧
        SignedToken.readPart token.payload = .ok payload ∧
        (proth.audience ∈ claims.audience ↔ Verifier.statesAudience payload = true) := by
  rcases exists_sign?_proth
    (.object [("aud", .string proth.audience), ("exp", .integer 2000)]) with ⟨text, signed⟩
  have accepted : (proth.signingVerifier false).judgePayload (Time.Instant.clock ⟨1000, 0⟩)
      (.object [("aud", .string proth.audience), ("exp", .integer 2000)]) =
        .accepted { audience := [proth.audience], expiry := 2000 } := by
    decide +kernel
  have read := readAccess_of_sign? isReliable_proth.verifiesOwn signed (by decide +kernel) (by decide +kernel) accepted
    rfl rfl
  exact ⟨text, _, read, audience_mem_iff_of_readAccess proth ⟨1000, 0⟩ text _ read⟩

/-- A payload that states no audience is read as well, by a ring that requires one. -/
theorem exists_readAccess_without_audience :
    ∃ text claims, proth.readAccess ⟨1000, 0⟩ text = .ok claims ∧ proth.audience ∉ claims.audience := by
  rcases exists_sign?_proth (.object [("sub", .string "S"), ("exp", .integer 2000)]) with
    ⟨text, signed⟩
  have accepted : (proth.signingVerifier false).judgePayload (Time.Instant.clock ⟨1000, 0⟩)
      (.object [("sub", .string "S"), ("exp", .integer 2000)]) =
        .accepted { subject := some "S", expiry := 2000 } := by
    decide +kernel
  have read := readAccess_of_sign? isReliable_proth.verifiesOwn signed (by decide +kernel) (by decide +kernel) accepted
    rfl rfl
  exact ⟨text, _, read, List.not_mem_nil⟩

end Keyring
end TokenAuthority
