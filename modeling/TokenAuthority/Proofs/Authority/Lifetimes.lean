import TokenAuthority.Proofs.Authority.Agreement
import TokenAuthority.Proofs.Authority.AuditTrail
import TokenAuthority.Proofs.Config.Validity

/-!
# Lifetimes

A token expires as many seconds after its issue as the settings say.  A validity may be any number of 64 bits, so
this second need not be representable.  Then there is no expiry at all: it is never an earlier second than the exact
one, as a sum that wraps around would be.

So a call for tokens either fails, and the service stays as it was, or its tokens have the lifetimes of the settings.
With settings that were checked, both tokens then expire after their issue and the refresh token not before the
access token, and whoever decodes them accepts these times.
-/

namespace TokenAuthority

namespace Time.Instant

/-- An instant that a clock shows: its second is representable, and it is in no leap second. -/
structure IsShown (instant : Instant) : Prop where
  representable : isRepresentable instant.seconds = true
  nanoseconds_lt : instant.nanoseconds < 1000000000

end Time.Instant

/-! ## Expiries -/

section

variable {now : Time.Instant} (shown : now.IsShown) (validity : UInt64)

include shown

/-- A duration that is too long to be added leads beyond the last second as well. -/
theorem expiryAfter_eq_ite : expiryAfter now validity =
    if Time.Instant.isRepresentable (now.seconds + validity.toNat) then
      .ok { now with seconds := now.seconds + validity.toNat }
    else .error (.validityOutOfRange validity) := by
  unfold expiryAfter Time.Instant.addSeconds?
  by_cases short : validity.toNat ≤ Time.Instant.longestDuration
  · rw [if_pos short]
    by_cases representable : Time.Instant.isRepresentable (now.seconds + validity.toNat) = true
    · rw [if_pos representable, if_pos representable]
    · rw [if_neg representable, if_neg representable]
  · have beyond : ¬ Time.Instant.isRepresentable (now.seconds + validity.toNat) = true := by
      have bounds := Time.Instant.isRepresentable_iff.mp shown.representable
      rw [Time.Instant.isRepresentable_iff]
      unfold Time.Instant.longestDuration at short
      omega
    rw [if_neg short, if_neg beyond]

/-- The expiry is exact. -/
theorem expiryAfter_eq_ok_iff {expiry : Time.Instant} : expiryAfter now validity = .ok expiry ↔
    expiry.IsShown ∧ expiry.seconds = now.seconds + validity.toNat ∧
      expiry.nanoseconds = now.nanoseconds := by
  rw [expiryAfter_eq_ite shown]
  constructor
  · intro computed
    split at computed
    next representable =>
      cases computed
      exact ⟨⟨representable, shown.nanoseconds_lt⟩, rfl, rfl⟩
    · cases computed
  · rintro ⟨inRange, seconds, nanoseconds⟩
    rw [← seconds, if_pos inRange.representable, ← nanoseconds]

/-- There is none exactly if the exact one is not representable. -/
theorem expiryAfter_eq_error_iff {error : TokenError} : expiryAfter now validity = .error error ↔
    Time.Instant.isRepresentable (now.seconds + validity.toNat) = false ∧
      error = .validityOutOfRange validity := by
  rw [expiryAfter_eq_ite shown]
  constructor
  · intro failed
    split at failed
    · cases failed
    next beyond =>
      cases failed
      exact ⟨Bool.eq_false_of_not_eq_true beyond, rfl⟩
  · rintro ⟨beyond, rfl⟩
    rw [beyond, if_neg Bool.false_ne_true]

end

/-! ## The times of tokens -/

/-- A claim set was issued at a second and expires later, and whoever decodes it accepts both times. -/
structure ClaimSet.LivesFrom (claimSet : ClaimSet) (issued : Int) : Prop where
  issuedAt : claimSet.issuedAt = some issued
  later : issued < claimSet.expiry
  issuedAccepted : instantOf .issuedAt issued = .ok ⟨issued, 0⟩
  expiryAccepted : instantOf .expiry claimSet.expiry = .ok ⟨claimSet.expiry, 0⟩

/-- Tokens were issued at a second and expire later, the refresh token not before the access token. -/
def GrantedTokens.LiveFrom (granted : GrantedTokens) (issued : Int) : Prop :=
  ∃ access, SignedToken.claimSet? granted.accessToken = some access ∧ access.LivesFrom issued ∧
    ∀ text, granted.refreshToken = some text → ∃ refresh,
      SignedToken.claimSet? text = some refresh ∧ refresh.LivesFrom issued ∧
        access.expiry ≤ refresh.expiry

section

variable {claimSet : ClaimSet} {now expiry : Time.Instant} {validity : UInt64}

/-- A claim set whose expiry was computed for a validity lives from its issue on. -/
theorem ClaimSet.livesFrom_of_expiryAfter (shown : now.IsShown) (positive : 0 < validity)
    (computed : expiryAfter now.truncate validity = .ok expiry)
    (issuedAt : claimSet.issuedAt = some now.seconds) (expires : claimSet.expiry = expiry.seconds) :
    claimSet.LivesFrom now.seconds := by
  rcases of_expiryAfter computed with ⟨exactly, representable, _⟩
  have seconds : expiry.seconds = now.seconds + validity.toNat := exactly
  have long : 0 < validity.toNat := UInt64.lt_iff_toNat_lt.mp positive
  constructor
  case issuedAt => exact issuedAt
  case later => omega
  case issuedAccepted => exact instantOf_of_isRepresentable .issuedAt shown.representable
  case expiryAccepted => exact instantOf_of_isRepresentable .expiry (by rwa [expires])

end

namespace Keyring

variable {ring : Keyring} {settings : Config.TokenSettings} {now : Time.Instant} {ids : FreshIds}
  {request : GrantRequest} {profile : Option Profile} {expiry : Time.Instant} {granted : GrantedTokens}

theorem Issues.liveFrom (issues : ring.Issues settings now ids request profile expiry granted)
    (valid : settings.IsValid) (shown : now.IsShown) : granted.LiveFrom now.seconds := by
  rcases issues.exists_accessClaimSet with ⟨access, signed, times, _, _, issuedAt, expires, _⟩
  have lives := access.livesFrom_of_expiryAfter shown valid.accessValidity issues.expires issuedAt expires
  refine ⟨access, NamedKey.claimSet?_of_sign? signed times, lives, ?_⟩
  intro text given
  rcases issues.exists_refreshClaimSet given with
    ⟨refresh, later, computed, refreshSigned, refreshTimes, _, refreshIssuedAt, refreshExpires, _⟩
  have refreshLives :=
    refresh.livesFrom_of_expiryAfter shown valid.refreshValidity computed refreshIssuedAt refreshExpires
  refine ⟨refresh, NamedKey.claimSet?_of_sign? refreshSigned refreshTimes, refreshLives, ?_⟩
  have accessSeconds := (of_expiryAfter issues.expires).1
  have refreshSeconds := (of_expiryAfter computed).1
  have ordered := UInt64.le_iff_toNat_le.mp valid.ordered
  omega

end Keyring

namespace Authority

/-- The instant at which somebody asks for tokens. -/
def Operation.askedAt? : Operation → Option Time.Instant
  | grant now _ _ _ => some now
  | refresh now _ _ _ => some now
  | _ => none

variable {authority : Authority} {operation : Operation} {now : Time.Instant}

/-- Whatever call tokens were handed out for, they come from a grant. -/
theorem exists_issues_of_answer {granted : GrantedTokens} (asked : operation.askedAt? = some now)
    (answered : operation.answer? authority = some (.ok granted)) :
    ∃ ids request profile expiry,
      authority.keyring.Issues authority.settings now ids request profile expiry granted := by
  cases operation with
  | grant other ids request profile =>
      cases asked
      rcases exists_ok_of_map (Option.some.inj answered) with ⟨⟨_, next⟩, success, rfl⟩
      rcases exists_issues_of_grant success with ⟨expiry, issues⟩
      exact ⟨ids, request, profile, expiry, issues⟩
  | refresh other ids token profile =>
      cases asked
      rcases exists_ok_of_map (Option.some.inj answered) with ⟨⟨_, next⟩, success, rfl⟩
      rcases exists_readRefresh_of_refresh success with ⟨previous, _, _, grants⟩
      rcases exists_issues_of_grant grants with ⟨expiry, issues⟩
      exact ⟨ids, _, _, expiry, issues⟩
  | _ => cases asked

/-- A call for tokens is answered. -/
theorem exists_answer_of_askedAt (asked : operation.askedAt? = some now) :
    ∃ answer, operation.answer? authority = some answer := by
  cases operation with
  | grant => exact ⟨_, rfl⟩
  | refresh => exact ⟨_, rfl⟩
  | _ => cases asked

/-- The expiry for a validity is the instant exactly so many seconds later if this one is representable, and an
error otherwise.  Under every configuration that is resolved, a call for tokens fails and leaves the service as it
is, or its tokens live from the second of the call on. -/
theorem lives_of_answer :
    (∀ now : Time.Instant, now.IsShown → ∀ validity : UInt64,
      (∀ expiry, expiryAfter now validity = .ok expiry ↔ expiry.IsShown ∧
        expiry.seconds = now.seconds + validity.toNat ∧ expiry.nanoseconds = now.nanoseconds) ∧
      ∀ error, expiryAfter now validity = .error error ↔
        Time.Instant.isRepresentable (now.seconds + validity.toNat) = false ∧
          error = .validityOutOfRange validity) ∧
    ∀ (layer : Config.Layer) (settings : Config.Settings), layer.resolve = .ok settings →
      ∀ authority : Authority, authority.settings = settings.token →
        ∀ (operation : Operation) (now : Time.Instant), operation.askedAt? = some now → now.IsShown →
          (∃ error, operation.answer? authority = some (.error error) ∧
            authority.after operation = authority) ∨
          ∃ granted, operation.answer? authority = some (.ok granted) ∧ granted.LiveFrom now.seconds := by
  refine ⟨?_, ?_⟩
  · intro now shown validity
    exact ⟨fun _ => expiryAfter_eq_ok_iff shown validity, fun _ => expiryAfter_eq_error_iff shown validity⟩
  · intro layer settings resolved authority configured operation now asked shown
    rcases layer.checks.valid_of_ok resolved with ⟨valid, rfl⟩
    rcases exists_answer_of_askedAt asked with ⟨answer, answered⟩
    cases answer with
    | error error => exact Or.inl ⟨error, answered, after_of_answer_error answered⟩
    | ok granted =>
        rcases exists_issues_of_answer asked answered with ⟨ids, request, profile, expiry, issues⟩
        rw [configured] at issues
        exact Or.inr ⟨granted, answered, issues.liveFrom valid.token shown⟩

/-- Expiries at the last representable second and beyond it, and tokens under the usual settings. -/
theorem lives_of_answer_asking :
    expiryAfter ⟨1000, 5⟩ 8210266875799 = .ok ⟨8210266876799, 5⟩ ∧
      expiryAfter ⟨1000, 5⟩ 8210266875800 = .error (.validityOutOfRange 8210266875800) ∧
      expiryAfter ⟨1000, 5⟩ 18446744073709551615 = .error (.validityOutOfRange 18446744073709551615) ∧
      ∃ granted text, (asking (some enrolled)).answer? issuing = some (.ok granted) ∧
        granted.refreshToken = some text ∧ granted.LiveFrom 1000 := by
  rcases lives_of_answer with ⟨exactly, lives⟩
  have shown : Time.Instant.IsShown ⟨1000, 5⟩ := ⟨rfl, by decide⟩
  have opens : ∃ granted next, issuing.grant ⟨1000, 5⟩ threeIds
      ⟨"client", "password", ["SUBJECT.READ"]⟩ (some enrolled) = .ok (granted, next) :=
    issuing.exists_grant_of_signsAll Keyring.isReliable_proth.signs rfl rfl rfl
  rcases opens with ⟨granted, next, opened⟩
  have answered : (asking (some enrolled)).answer? issuing = some (.ok granted) := by
    rw [asking, Operation.answer?, opened]
    rfl
  have resolved : (layerFor "res_ManagementPortal" 60).resolve =
      .ok (settingsFor "res_ManagementPortal" 60) := resolve_layerFor rfl 60
  refine ⟨?_, ?_, ?_, granted, ?_⟩
  · exact ((exactly _ shown _).1 _).mpr ⟨⟨rfl, by decide⟩, rfl, rfl⟩
  · exact ((exactly _ shown _).2 _).mpr ⟨rfl, rfl⟩
  · exact ((exactly _ shown _).2 _).mpr ⟨rfl, rfl⟩
  · have isPerson : some enrolled ≠ none := Option.some_ne_none enrolled
    rcases exists_issues_of_grant opened with ⟨expiry, issues⟩
    rcases Option.ne_none_iff_exists'.mp (mt issues.refreshToken_eq_none_iff.mp isPerson) with
      ⟨text, given⟩
    rcases lives _ _ resolved issuing rfl (asking (some enrolled)) _ rfl shown with
      ⟨error, failed, _⟩ | ⟨other, same, live⟩
    · cases answered.symm.trans failed
    · cases answered.symm.trans same
      exact ⟨text, answered, given, live⟩

end Authority
end TokenAuthority
