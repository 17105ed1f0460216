import TokenAuthority.Proofs.Token.Expiry

/-!
# Longer leeways

A longer leeway is to let a ring decode more tokens and never fewer.  The ring puts its clock back by the
leeway and compares the result with the expiry.  The leeway is a setting that nothing bounds, and the seconds
are words of 64 bits, so there is a regime in which the clock cannot be put back.

Up to the clock, the longer of two leeways decodes to the same claims whatever the shorter one decodes.  Beyond
the clock the program breaks off at every token that would be decoded with a shorter leeway.  With no leeway at
all is a token reported as expired before its expiry and the leeway have passed.
-/

namespace TokenAuthority

/-- The payload of a text states an expiry, whoever may have signed it. -/
def SignedToken.StatesExpiry (text : String) (expiry : Int) : Prop :=
  ∃ token payload claimSet, ofText? text = some token ∧ readPart token.payload = .ok payload ∧
    ClaimSet.ofJson? payload = some claimSet ∧ claimSet.expiry = expiry

theorem SignedToken.StatesExpiry.eq {text : String} {expiry other : Int} (states : StatesExpiry text expiry)
    (statesOther : StatesExpiry text other) : expiry = other := by
  rcases states with ⟨token, payload, claimSet, parts, read, stated, rfl⟩
  rcases statesOther with ⟨_, _, _, otherParts, otherRead, otherStated, rfl⟩
  cases parts.symm.trans otherParts
  cases read.symm.trans otherRead
  cases stated.symm.trans otherStated
  rfl

/-! ## What is reported as expired -/

/-- A claim set whose times are out of range is refused for that, not as expired. -/
theorem ClaimSet.toClaims_ne_expired (claimSet : ClaimSet) (text : String) :
    claimSet.toClaims text ≠ .error .expired := by
  have instant : ∀ claim seconds, instantOf claim seconds ≠ .error .expired := by
    intro claim seconds
    unfold instantOf
    intro refused
    split at refused <;> cases refused
  have optional : ∀ claim seconds, optionalInstantOf claim seconds ≠ .error .expired := by
    intro claim seconds refused
    cases seconds with
    | none => cases refused
    | some seconds => exact instant claim seconds (error_of_map refused)
  intro refused
  unfold toClaims at refused
  rcases error_or_ok_of_bind refused with expires | ⟨expiry, _, refused⟩
  · exact instant _ _ expires
  · rcases error_or_ok_of_bind refused with issued | ⟨issuedAt, _, refused⟩
    · exact optional _ _ issued
    · cases refused

namespace Verifier

variable {verifier : Verifier} {token : SignedToken} {now : UInt64}

/-- A payload is reported as expired only for the expiry that its claim set states, at a clock that can be put
back by the leeway. -/
theorem isExpired_of_judgePayload {payload : Json}
    (refused : verifier.judgePayload now payload = .refused .expired) :
    verifier.leeway ≤ now ∧ ∃ claimSet, ClaimSet.ofJson? payload = some claimSet ∧ 0 ≤ claimSet.expiry ∧
      verifier.isExpired now claimSet.expiry = true := by
  unfold judgePayload at refused
  split at refused
  · cases refused
  next claimSet stated =>
    split_ifs at refused with irregular negative beyond expired
    · cases refused
    · cases refused
    · cases refused
    · exact ⟨UInt64.not_lt.mp beyond, claimSet, stated, Int.not_lt.mp negative, expired⟩

/-- A token is reported as expired only for its payload. -/
theorem exists_payload_of_judge_eq_expired (refused : verifier.judge now token = .refused .expired) :
    ∃ payload, SignedToken.readPart token.payload = .ok payload ∧
      verifier.judgePayload now payload = .refused .expired := by
  cases signed : token.isSignedBy verifier.key with
  | false =>
      rcases judge_of_not_isSignedBy signed now with passed | ⟨fault, malformed⟩
      · rw [passed] at refused
        cases refused
      · rw [malformed] at refused
        cases refused
  | true =>
      rw [judge_of_isSignedBy signed] at refused
      split at refused
      · cases refused
      next payload read => exact ⟨payload, read, refused⟩

/-- It is one of the verifiers that reports a token as expired. -/
theorem exists_refused_of_verifyWith {verifiers : List Verifier} {otherAudience : Bool}
    (expired : verifyWith now token otherAudience verifiers = .error .expired) :
    ∃ verifier ∈ verifiers, verifier.judge now token = .refused .expired := by
  induction verifiers generalizing otherAudience with
  | nil => cases otherAudience <;> cases expired
  | cons verifier verifiers ih =>
      have later : ∀ {flag : Bool}, verifyWith now token flag verifiers = .error .expired →
          ∃ other ∈ verifier :: verifiers, other.judge now token = .refused .expired := by
        intro flag expired
        rcases ih expired with ⟨other, member, refused⟩
        exact ⟨other, List.mem_cons_of_mem verifier member, refused⟩
      rw [verifyWith] at expired
      split at expired
      · exact later expired
      · exact later expired
      next error refused =>
        cases expired
        exact ⟨verifier, List.mem_cons_self, refused⟩
      · cases expired

end Verifier

namespace Keyring

variable {ring : Keyring} {text : String} {claims : Claims} {now : Time.Instant}

/-- What a ring reports as expired states an expiry that, put off by the leeway, lies before the clock. -/
theorem exists_expiry_of_decode_eq_expired (expired : ring.decode now text = .error .expired) :
    ∃ expiry, SignedToken.StatesExpiry text expiry ∧ expiry + ring.leeway.toNat < now.clock.toNat := by
  unfold decode at expired
  split at expired
  · cases expired
  · cases expired
  next refresh token _ parts =>
    split at expired
    next error verified =>
      cases expired
      rcases Verifier.exists_refused_of_verifyWith verified with ⟨verifier, member, refused⟩
      rcases Verifier.exists_payload_of_judge_eq_expired refused with ⟨payload, read, judged⟩
      rcases Verifier.isExpired_of_judgePayload judged with ⟨begun, claimSet, stated, positive, past⟩
      refine ⟨claimSet.expiry, ⟨token, payload, claimSet, parts, read, stated, rfl⟩, ?_⟩
      rw [← leeway_of_mem_verifiers member]
      by_contra valid
      have current := isExpired_eq_false (ClaimSet.hasSignedTimes_of_ofJson? stated).expiry positive begun
        (Int.not_lt.mp valid)
      rw [current] at past
      cases past
    next claimSet verified => exact absurd expired (claimSet.toClaims_ne_expired text)

/-! ## One ring with different leeways -/

/-- The ring with another leeway. -/
def withLeeway (ring : Keyring) (leeway : UInt64) : Keyring :=
  { ring with leeway }

/-- The leeway is of no account for what a ring admits. -/
theorem Admits.withLeeway (admits : ring.Admits text claims) (leeway : UInt64) :
    (ring.withLeeway leeway).Admits text claims := by
  rcases admits.states with
    ⟨token, payload, claimSet, parts, read, stated, regular, positive, passes, taken⟩
  exact ⟨admits.signed, token, payload, claimSet, parts, read, stated, regular, positive, passes, taken⟩

/-- With every leeway that can be taken from the clock, an admitted token is decoded to its claims unless its one
expiry has passed. -/
theorem Admits.exists_decode_withLeeway_eq (admits : ring.Admits text claims) :
    ∃ expiry : Int, IsSigned64 expiry ∧ 0 ≤ expiry ∧ ∀ (leeway : UInt64) (now : Time.Instant),
      (ring.withLeeway leeway).decode now text =
        if now.clock < leeway then .error .overflow
        else if (ring.withLeeway leeway).isPast now.clock expiry then .error .expired
        else .ok claims := by
  rcases admits.exists_decode_eq with ⟨expiry, expires, fits, positive, _⟩
  refine ⟨expiry, fits, positive, ?_⟩
  intro leeway
  rcases (admits.withLeeway leeway).exists_decode_eq with ⟨other, otherExpires, _, _, decided⟩
  cases expires.symm.trans otherExpires
  exact decided

/-- An expiry that has not passed with one leeway has not passed with a longer one. -/
theorem isPast_withLeeway_of_le {less more clock : UInt64} (longer : less ≤ more) (begun : more ≤ clock)
    {expiry : Int} (fits : IsSigned64 expiry) (positive : 0 ≤ expiry)
    (current : (ring.withLeeway less).isPast clock expiry = false) :
    (ring.withLeeway more).isPast clock expiry = false := by
  have valid : clock.toNat ≤ expiry + less.toNat :=
    le_of_isExpired_eq_false positive (UInt64.le_trans longer begun) current
  have more_toNat := UInt64.le_iff_toNat_le.mp longer
  refine isExpired_eq_false fits positive begun ?_
  change clock.toNat ≤ expiry + more.toNat
  omega

/-- Of two leeways up to the clock, the longer one decodes to the same claims whatever the shorter one decodes.
With a longer one beyond the clock, the program breaks off there.  With every leeway, a text is reported as expired
only if the expiry that it states, put off by the leeway, lies before the clock. -/
theorem decode_withLeeway_of_le (ring : Keyring) (less more : UInt64) (longer : less ≤ more)
    (now : Time.Instant) (text : String) :
    (∀ claims, (ring.withLeeway less).decode now text = .ok claims →
      (ring.withLeeway more).decode now text =
        if more ≤ now.clock then .ok claims else .error .overflow) ∧
    (∀ leeway expiry, SignedToken.StatesExpiry text expiry →
      (ring.withLeeway leeway).decode now text = .error .expired →
        expiry + leeway.toNat < now.clock.toNat) := by
  constructor
  · intro claims decoded
    have admits : ring.Admits text claims := (admits_of_decode decoded).withLeeway ring.leeway
    rcases admits.exists_decode_withLeeway_eq with ⟨expiry, fits, positive, decided⟩
    rw [decided]
    by_cases begun : more ≤ now.clock
    · have current : (ring.withLeeway less).isPast now.clock expiry = false := by
        rw [Bool.eq_false_iff]
        intro past
        rw [decided, if_neg (UInt64.not_lt.mpr (UInt64.le_trans longer begun)), past] at decoded
        cases decoded
      rw [if_neg (UInt64.not_lt.mpr begun), if_pos begun,
        isPast_withLeeway_of_le longer begun fits positive current]
      rfl
    · rw [if_pos (UInt64.not_le.mp begun), if_neg begun]
  · intro leeway expiry states expired
    rcases exists_expiry_of_decode_eq_expired expired with ⟨other, statesOther, late⟩
    cases states.eq statesOther
    exact late

theorem statesExpiry_of_sign? {key : NamedKey} {payload : Json} (writable : payload.isWritable = true)
    {claimSet : ClaimSet} (stated : ClaimSet.ofJson? payload = some claimSet)
    (signed : key.sign? payload = some text) : SignedToken.StatesExpiry text claimSet.expiry := by
  rcases NamedKey.exists_isFrom_of_sign? writable signed with ⟨token, parts, made⟩
  exact ⟨token, payload, claimSet, parts, made.payload, stated, rfl⟩

/-- What the payload `expiringPayload` states. -/
def expiringClaimSet : ClaimSet where
  audience := [proth.audience]
  expiry := 2000

/-- A token of this payload is decoded whenever the ring accepts the payload. -/
theorem exists_decode_expiringPayload (now : Time.Instant)
    (accepted : (proth.signingVerifier false).judgePayload now.clock expiringPayload =
      .accepted expiringClaimSet) :
    ∃ text claims, SignedToken.StatesExpiry text 2000 ∧
      (proth.withLeeway 10).decode now text = .ok claims := by
  rcases exists_sign?_proth expiringPayload with ⟨text, signed⟩
  have stated := (Verifier.judgePayload_eq_accepted_iff.mp accepted).1
  exact ⟨text, _, statesExpiry_of_sign? (by decide +kernel) stated signed,
    decode_of_sign? isReliable_proth.verifiesOwn signed (by decide +kernel) (by decide +kernel) accepted⟩

/-- In the last second of the shorter leeway, and in the last one of the longer leeway. -/
theorem decode_withLeeway_of_le_proth :
    ∃ text claims, (proth.withLeeway 10).decode ⟨2010, 0⟩ text = .ok claims ∧
      (proth.withLeeway 1000).decode ⟨2010, 0⟩ text = .ok claims ∧
      (proth.withLeeway 1000).decode ⟨3000, 0⟩ text ≠ .error .expired := by
  rcases exists_decode_expiringPayload ⟨2010, 0⟩ (by decide +kernel) with ⟨text, claims, states, decoded⟩
  have longer := decode_withLeeway_of_le proth 10 1000 (by decide) ⟨2010, 0⟩ text
  have later := decode_withLeeway_of_le proth 10 1000 (by decide) ⟨3000, 0⟩ text
  refine ⟨text, claims, decoded, longer.1 claims decoded, ?_⟩
  intro expired
  exact absurd (later.2 1000 2000 states expired) (by decide)

/-- The settings let a leeway of 5000 seconds pass.  In second 1000, a ring with this leeway breaks off at a token
that it decodes with a leeway of ten seconds, and that does not expire before second 2000. -/
theorem exists_overflow_of_longer_leeway :
    Config.TokenLayer.resolve { leeway := some 5000 } = .ok { leeway := 5000 } ∧
      ∃ text claims, SignedToken.StatesExpiry text 2000 ∧
        (proth.withLeeway 10).decode ⟨1000, 0⟩ text = .ok claims ∧
        (proth.withLeeway 5000).decode ⟨1000, 0⟩ text = .error .overflow := by
  refine ⟨rfl, ?_⟩
  rcases exists_decode_expiringPayload ⟨1000, 0⟩ (by decide +kernel) with ⟨text, claims, states, decoded⟩
  rcases (admits_of_decode decoded).exists_decode_withLeeway_eq with ⟨expiry, _, _, decided⟩
  refine ⟨text, claims, states, decoded, ?_⟩
  exact (decided 5000 ⟨1000, 0⟩).trans (if_pos (by decide))

end Keyring
end TokenAuthority
