import TokenAuthority.Proofs.Json.Records
import TokenAuthority.Proofs.Token.Construction
import TokenAuthority.Token.Verification

/-!
# Claim sets, written and read

A claim set writes a member for each field that has a value, so reading its document is the round trip
of a record.  Both times have to fit into 64 bits with a sign; whatever the other fields hold, they come
back as they were.

The last section follows canonical claims through the claim set and back.  Only the fractions of a second
are lost, and the text of the token and its type are those that reading sets.
-/

namespace TokenAuthority
namespace ClaimSet

/-- What is written for each field, in order. -/
def slots (claimSet : ClaimSet) : List (String × Option Json) :=
  [("sub", claimSet.subject.map .string), ("user_name", claimSet.username.map .string),
    ("scope", some (Json.strings claimSet.scopes)),
    ("authorities", some (Json.strings claimSet.authorities)),
    ("roles", some (Json.strings claimSet.roles)), ("sources", some (Json.strings claimSet.sources)),
    ("grant_type", claimSet.grantType.map .string), ("aud", some (Json.strings claimSet.audience)),
    ("iss", claimSet.issuer.map .string), ("iat", claimSet.issuedAt.map .integer),
    ("exp", some (.integer claimSet.expiry)), ("jti", claimSet.tokenId.map .string),
    ("ati", claimSet.accessTokenId.map .string), ("client_id", claimSet.clientId.map .string)]

theorem toJson_eq_sparse (claimSet : ClaimSet) :
    claimSet.toJson = .object (Json.sparse claimSet.slots) := by
  simp only [toJson, slots, Json.sparse, List.flatMap_cons, List.flatMap_nil, Json.member?,
    List.append_assoc, List.append_nil, List.cons_append, List.nil_append]

theorem names_slots (claimSet : ClaimSet) :
    claimSet.slots.map Prod.fst = fields.map Json.Field.name :=
  rfl

theorem nodup_names_slots (claimSet : ClaimSet) : (claimSet.slots.map Prod.fst).Nodup := by
  rw [names_slots]
  decide

/-- What is written for each field if something else is written for the scopes and the audience. -/
def slotsWith (claimSet : ClaimSet) (scopes audience : Option Json) : List (String × Option Json) :=
  [("sub", claimSet.subject.map .string), ("user_name", claimSet.username.map .string), ("scope", scopes),
    ("authorities", some (Json.strings claimSet.authorities)),
    ("roles", some (Json.strings claimSet.roles)), ("sources", some (Json.strings claimSet.sources)),
    ("grant_type", claimSet.grantType.map .string), ("aud", audience),
    ("iss", claimSet.issuer.map .string), ("iat", claimSet.issuedAt.map .integer),
    ("exp", some (.integer claimSet.expiry)), ("jti", claimSet.tokenId.map .string),
    ("ati", claimSet.accessTokenId.map .string), ("client_id", claimSet.clientId.map .string)]

theorem slots_eq_slotsWith (claimSet : ClaimSet) : claimSet.slots =
    claimSet.slotsWith (some (Json.strings claimSet.scopes)) (some (Json.strings claimSet.audience)) :=
  rfl

/-- Each field of the document is what was written for it. -/
theorem fields?_toJson (claimSet : ClaimSet) :
    claimSet.toJson.fields? fields = some (claimSet.slots.map Prod.snd) := by
  rw [toJson_eq_sparse]
  exact Json.fields?_sparse claimSet.names_slots.symm claimSet.nodup_names_slots

/-! ## Reading what was written -/

@[simp] theorem withDefault?_scopes (scopes : List String) :
    Json.withDefault? [] scopesOf? (some (Json.strings scopes)) = some scopes :=
  Json.asStrings?_strings scopes

@[simp] theorem withDefault?_audience (audience : List String) :
    Json.withDefault? [] audienceOf? (some (Json.strings audience)) = some audience :=
  Json.asStrings?_strings audience

@[simp] theorem withDefault?_strings (values : List String) :
    Json.withDefault? [] Json.asStrings? (some (Json.strings values)) = some values :=
  Json.asStrings?_strings values

/-- The times of a claim set fit into 64 bits with a sign. -/
structure HasSignedTimes (claimSet : ClaimSet) : Prop where
  issuedAt : ∀ seconds ∈ claimSet.issuedAt, IsSigned64 seconds
  expiry : IsSigned64 claimSet.expiry

theorem isWritable_of_mem_strings (values : List String) :
    ∀ document ∈ some (Json.strings values), document.isWritable = true := by
  rintro _ ⟨⟩
  exact Json.isWritable_strings values

theorem isWritable_slotsWith {claimSet : ClaimSet} (times : claimSet.HasSignedTimes)
    {scopes audience : Option Json} (scopesWritable : ∀ document ∈ scopes, document.isWritable = true)
    (audienceWritable : ∀ document ∈ audience, document.isWritable = true) :
    (Json.object (Json.sparse (claimSet.slotsWith scopes audience))).isWritable = true := by
  have string : ∀ value : Option String, ∀ document ∈ value.map Json.string,
      document.isWritable = true := by
    intro value document member
    rcases Option.map_eq_some_iff.mp member with ⟨text, _, rfl⟩
    simp [Json.isWritable]
  have integer : ∀ number : Int, IsSigned64 number → (Json.integer number).isWritable = true := by
    intro number signed
    rw [Json.isWritable, decide_eq_true_eq]
    exact Or.inl signed
  have issuedAt : ∀ document ∈ claimSet.issuedAt.map Json.integer, document.isWritable = true := by
    intro document member
    rcases Option.map_eq_some_iff.mp member with ⟨number, same, rfl⟩
    exact integer number (times.issuedAt number same)
  have expiry : ∀ document ∈ some (Json.integer claimSet.expiry), document.isWritable = true := by
    intro document member
    rw [← Option.some.inj member]
    exact integer claimSet.expiry times.expiry
  apply Json.isWritable_sparse
  intro slot listed
  simp only [slotsWith, List.mem_cons, List.not_mem_nil, or_false] at listed
  rcases listed with rfl | rfl | rfl | rfl | rfl | rfl | rfl | rfl | rfl | rfl | rfl | rfl | rfl | rfl
  all_goals first
    | exact string _
    | exact isWritable_of_mem_strings _
    | exact issuedAt
    | exact expiry
    | exact scopesWritable
    | exact audienceWritable

/-- A claim set whose times fit is determined by its text. -/
theorem isWritable_toJson {claimSet : ClaimSet} (times : claimSet.HasSignedTimes) :
    claimSet.toJson.isWritable = true := by
  rw [toJson_eq_sparse, slots_eq_slotsWith]
  exact isWritable_slotsWith times (isWritable_of_mem_strings _) (isWritable_of_mem_strings _)

/-- A document states a claim set if its fields do, and if the scopes and the audience are read from what it
gives for them. -/
theorem ofJson?_of_fields? {document : Json} {claimSet : ClaimSet} (times : claimSet.HasSignedTimes)
    {scopes audience : Option Json}
    (given : document.fields? fields = some ((claimSet.slotsWith scopes audience).map Prod.snd))
    (scopesRead : Json.withDefault? [] scopesOf? scopes = some claimSet.scopes)
    (audienceRead : Json.withDefault? [] audienceOf? audience = some claimSet.audience) :
    ofJson? document = some claimSet := by
  have expiry : Json.required? Json.asInt64? (some (.integer claimSet.expiry)) =
      some claimSet.expiry := Json.asInt64?_integer times.expiry
  have values : (claimSet.slotsWith scopes audience).map Prod.snd = [claimSet.subject.map .string,
      claimSet.username.map .string, scopes,
      some (Json.strings claimSet.authorities), some (Json.strings claimSet.roles),
      some (Json.strings claimSet.sources), claimSet.grantType.map .string,
      audience, claimSet.issuer.map .string,
      claimSet.issuedAt.map .integer, some (.integer claimSet.expiry), claimSet.tokenId.map .string,
      claimSet.accessTokenId.map .string, claimSet.clientId.map .string] := rfl
  rw [ofJson?, given, values]
  dsimp only [Option.bind_eq_bind, Option.bind_some]
  rw [Json.optional?_string claimSet.subject, Json.optional?_string claimSet.username, scopesRead,
    withDefault?_strings claimSet.authorities, withDefault?_strings claimSet.roles,
    withDefault?_strings claimSet.sources, Json.optional?_string claimSet.grantType, audienceRead,
    Json.optional?_string claimSet.issuer, Json.optional?_int64 times.issuedAt, expiry,
    Json.optional?_string claimSet.tokenId, Json.optional?_string claimSet.accessTokenId,
    Json.optional?_string claimSet.clientId]
  rfl

/-- A claim set is what its document states. -/
theorem ofJson?_toJson {claimSet : ClaimSet} (times : claimSet.HasSignedTimes) :
    ofJson? claimSet.toJson = some claimSet := by
  apply ofJson?_of_fields? times (claimSet.slots_eq_slotsWith ▸ claimSet.fields?_toJson)
  · exact withDefault?_scopes claimSet.scopes
  · exact withDefault?_audience claimSet.audience

/-- The times of a claim set that is read fit. -/
theorem hasSignedTimes_of_ofJson? {document : Json} {claimSet : ClaimSet}
    (stated : ofJson? document = some claimSet) : claimSet.HasSignedTimes := by
  unfold ofJson? at stated
  rcases Option.bind_eq_some_iff.mp stated with ⟨values, _, read⟩
  split at read
  · -- both times stand behind nine other fields, which have to be well formed
    iterate 9 rcases Option.bind_eq_some_iff.mp read with ⟨_, _, read⟩
    rcases Option.bind_eq_some_iff.mp read with ⟨issuedAt, isIssuedAt, read⟩
    rcases Option.bind_eq_some_iff.mp read with ⟨expiry, isExpiry, read⟩
    iterate 3 rcases Option.bind_eq_some_iff.mp read with ⟨_, _, read⟩
    cases read
    rcases Option.bind_eq_some_iff.mp isExpiry with ⟨document, _, isNumber⟩
    exact ⟨Json.isSigned64_of_optional? isIssuedAt, Json.isSigned64_of_asInt64? isNumber⟩
  · cases read

/-- A document of a claim set has no other time claim. -/
theorem isRegular_toJson (claimSet : ClaimSet) : Verifier.isRegular claimSet.toJson = true := by
  have absent : "nbf" ∉ claimSet.slots.map Prod.fst := by
    rw [names_slots]
    decide
  rw [toJson_eq_sparse, Verifier.isRegular, Json.onlyMember?_sparse_of_not_mem absent]

/-- A document presents itself as that of a refresh token exactly when it names an access token. -/
theorem namesAccessToken?_toJson (claimSet : ClaimSet) :
    SignedToken.namesAccessToken? claimSet.toJson = some claimSet.accessTokenId.isSome := by
  have listed : ("ati", claimSet.accessTokenId.map Json.string) ∈ claimSet.slots := by
    simp only [slots, List.mem_cons, true_or, or_true]
  have only := Json.onlyMember?_sparse claimSet.nodup_names_slots listed
  rw [toJson_eq_sparse, SignedToken.namesAccessToken?, Json.fields?, List.mapM_cons, only,
    List.mapM_nil]
  cases claimSet.accessTokenId <;> rfl

/-- A document states the audience of its claim set. -/
theorem statedAudience?_toJson (claimSet : ClaimSet) :
    Verifier.statedAudience? claimSet.toJson = some claimSet.audience := by
  have listed : ("aud", some (Json.strings claimSet.audience)) ∈ claimSet.slots := by
    simp only [slots, List.mem_cons, true_or, or_true]
  have only := Json.onlyMember?_sparse claimSet.nodup_names_slots listed
  rw [toJson_eq_sparse, Verifier.statedAudience?, Json.get?_of_onlyMember? only]
  exact Json.asStrings?_strings claimSet.audience

end ClaimSet

/-! ## Claims, through a claim set and back -/

namespace Time.Instant

theorem isSigned64_of_isRepresentable {seconds : Int} (representable : isRepresentable seconds = true) :
    IsSigned64 seconds := by
  have bounds := isRepresentable_iff.mp representable
  unfold IsSigned64
  omega

theorem ofSeconds?_seconds {instant : Instant}
    (representable : isRepresentable instant.seconds = true) :
    ofSeconds? instant.seconds = some instant.truncate := by
  rw [ofSeconds?, if_pos representable]
  rfl

end Time.Instant

namespace Claims

/-- What reading a token makes of the claims that it was made of: times lose their fraction of a second,
and the text and the type of the token are recorded. -/
def readFrom (claims : Claims) (text : String) : Claims :=
  { claims with
    issuedAt := claims.issuedAt.map Time.Instant.truncate
    expiresAt := claims.expiresAt.map Time.Instant.truncate
    token := some text
    tokenType := some ClaimSet.tokenType }

end Claims

namespace ClaimSet

variable {claims : Claims} {claimSet : ClaimSet}

/-- Claims with an expiry have a claim set. -/
theorem exists_ofClaims {expiry : Time.Instant} (expires : claims.expiresAt = some expiry) :
    ∃ claimSet, ofClaims claims = .ok claimSet ∧ claimSet.expiry = expiry.seconds := by
  rw [ofClaims, expires]
  exact ⟨_, rfl, rfl⟩

theorem kept_of_ofClaims (written : ofClaims claims = .ok claimSet) :
    claimSet.audience = claims.audience ∧ claimSet.accessTokenId = claims.accessTokenId := by
  rw [ofClaims] at written
  split at written
  · cases written
  · rw [← Except.ok.inj written]
    exact ⟨rfl, rfl⟩

theorem hasSignedTimes_of_isSigned64 (written : ofClaims claims = .ok claimSet)
    (issued : ∀ instant ∈ claims.issuedAt, IsSigned64 instant.seconds)
    (expires : ∀ instant ∈ claims.expiresAt, IsSigned64 instant.seconds) : claimSet.HasSignedTimes := by
  rw [ofClaims] at written
  split at written
  · cases written
  next expiry same =>
    rw [← Except.ok.inj written]
    refine ⟨?_, expires expiry same⟩
    intro seconds member
    rcases Option.map_eq_some_iff.mp member with ⟨instant, present, rfl⟩
    exact issued instant present

theorem hasSignedTimes_of_ofClaims (canonical : claims.IsCanonical)
    (written : ofClaims claims = .ok claimSet) : claimSet.HasSignedTimes := by
  apply hasSignedTimes_of_isSigned64 written
  · intro instant present
    exact Time.Instant.isSigned64_of_isRepresentable (canonical.issuedAt_representable instant present)
  · intro instant present
    exact Time.Instant.isSigned64_of_isRepresentable (canonical.expiresAt_representable instant present)

/-- The assignments are read back from their role claims. -/
theorem addRoleClaims_claim {roles : List Assignment}
    (ordered : OrderedSet.IsOrdered Assignment.compare roles)
    (normal : ∀ assignment ∈ roles, assignment.IsNormal) {claims : Claims} (empty : claims.roles = []) :
    claims.addRoleClaims (roles.map Assignment.claim) = { claims with roles } := by
  have read : ((roles.map Assignment.claim).filterMap fun claim =>
      (Assignment.ofClaim claim).toOption) = roles := by
    have each : ∀ assignment ∈ roles,
        (Assignment.ofClaim assignment.claim).toOption = some assignment := by
      intro assignment member
      rw [Assignment.ofClaim_claim (normal assignment member)]
      rfl
    rw [List.filterMap_map]
    exact (List.filterMap_congr each).trans List.filterMap_some
  rw [Claims.addRoleClaims, read, Claims.addRoles, empty,
    OrderedSet.insertAll_nil ordered]

/-- Canonical claims come back from their claim set. -/
theorem toClaims_of_ofClaims (canonical : claims.IsCanonical) (written : ofClaims claims = .ok claimSet)
    (text : String) : claimSet.toClaims text = .ok (claims.readFrom text) := by
  rw [ofClaims] at written
  split at written
  · cases written
  next expiry expires =>
    have expiryRead := Time.Instant.ofSeconds?_seconds (canonical.expiresAt_representable expiry expires)
    have issuedAtRead : optionalInstantOf .issuedAt (claims.issuedAt.map Time.Instant.seconds) =
        .ok (claims.issuedAt.map Time.Instant.truncate) := by
      cases issued : claims.issuedAt with
      | none => rfl
      | some instant =>
          have representable := canonical.issuedAt_representable instant issued
          rw [Option.map_some, optionalInstantOf, instantOf,
            Time.Instant.ofSeconds?_seconds representable]
          rfl
    have scopesRead := foldl_addScopeTo_of_nodup [] claims.scopes canonical.scopes_nodup
    rw [← Except.ok.inj written, toClaims, instantOf, expiryRead, issuedAtRead]
    simp only [Claims.addScopes, addRoleClaims_claim canonical.roles_isOrdered canonical.roles_normal]
    rw [scopesRead]
    simp only [Claims.readFrom, expires]
    rfl

/-- A claim set stands for claims in a token: it says of them what decides how the token is verified, and the
claims are what is taken from it. -/
structure StandsFor (claimSet : ClaimSet) (claims : Claims) (text : String) : Prop where
  times : claimSet.HasSignedTimes
  audience : claimSet.audience = claims.audience
  accessTokenId : claimSet.accessTokenId = claims.accessTokenId
  expiry : ∀ expiry, claims.expiresAt = some expiry → claimSet.expiry = expiry.seconds
  taken : claimSet.toClaims text = .ok (claims.readFrom text)

theorem standsFor_of_ofClaims (canonical : claims.IsCanonical) (written : ofClaims claims = .ok claimSet)
    (text : String) : claimSet.StandsFor claims text where
  times := hasSignedTimes_of_ofClaims canonical written
  audience := (kept_of_ofClaims written).1
  accessTokenId := (kept_of_ofClaims written).2
  expiry := by
    intro expiry expires
    rcases exists_ofClaims expires with ⟨other, again, same⟩
    cases written.symm.trans again
    exact same
  taken := toClaims_of_ofClaims canonical written text

end ClaimSet
end TokenAuthority
