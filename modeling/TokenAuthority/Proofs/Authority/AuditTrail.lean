import Mathlib.Data.List.Forall2
import TokenAuthority.Proofs.Authority.Issuance

/-!
# The audit trail of a run

Grants and refreshes are the calls of the service; each is answered with tokens or with an error.  A sink
that keeps events holds after a run one event for each call that was answered with tokens, in the order of
the calls, and the event tells of that call and of its tokens.  A call that is answered with an error changes
nothing at all, so it leaves no event either.

A sink only listens.  Services that differ in their sinks alone give the same answers, and differ in their
sinks alone after every operation; a sink that refuses every event is no exception.
-/

namespace TokenAuthority

namespace Authority

/-- The same service with another sink. -/
def withSink (authority : Authority) (sink : Audit.Sink) : Authority :=
  { authority with sink }

/-- What the service answers to a call.  The other operations ask for nothing. -/
def Operation.answer? (authority : Authority) : Operation → Option (Except TokenError GrantedTokens)
  | grant now ids request profile => some ((authority.grant now ids request profile).map Prod.fst)
  | refresh now ids token profile => some ((authority.refresh now ids token profile).map Prod.fst)
  | _ => none

/-- The calls of a run with their answers. -/
def calls (authority : Authority) : List Operation → List (Operation × Except TokenError GrantedTokens)
  | [] => []
  | operation :: operations =>
    ((operation.answer? authority).map (operation, ·)).toList ++ (authority.after operation).calls operations

/-- The calls of a run that were answered with tokens. -/
def grants (authority : Authority) (operations : List Operation) : List (Operation × GrantedTokens) :=
  (authority.calls operations).filterMap fun call => call.2.toOption.map (call.1, ·)

end Authority

namespace Audit.Event

/-- An event tells of the tokens that were handed out. -/
structure TellsOf (event : Event) (granted : GrantedTokens) : Prop where
  action : event.action = grantAction
  tokenType : event.tokenType = GrantedTokens.tokenType
  scope : event.scope = granted.scopes
  expiresAt : event.expiresAt = granted.expiresAt
  access : ∃ access, SignedToken.claimSet? granted.accessToken = some access ∧
    event.principal = access.username ∧ event.clientId = access.clientId ∧
      event.grantType = access.grantType
  nobody : event.principal = none ↔ event.grantType = some Claims.clientCredentials

/-- An event says when somebody asked, under which client and for whom. -/
structure Asks (event : Event) (now : Time.Instant) (id : Uuid) (clientId grantType : String)
    (profile : Option Profile) : Prop where
  id : event.id = id
  timestamp : event.timestamp = now
  clientId : event.clientId = some clientId
  grantType : event.grantType = some grantType
  principal : event.principal = profile.map Profile.username

/-- An event answers to a call: a refresh is for the client of the refresh token. -/
inductive AsksFor (event : Event) : Authority.Operation → Prop where
  | grant {now : Time.Instant} {ids : FreshIds} {request : GrantRequest} {profile : Option Profile}
    (asks : event.Asks now ids.event request.clientId request.grantType profile) :
    AsksFor event (.grant now ids request profile)
  | refresh {now : Time.Instant} {ids : FreshIds} {token : String} {profile : Profile} {previous : ClaimSet}
    (states : SignedToken.claimSet? token = some previous)
    (asks : event.Asks now ids.event (previous.clientId.getD "") GrantRequest.refreshType (some profile)) :
    AsksFor event (.refresh now ids token profile)

/-- An event records a call that was answered with tokens. -/
structure Records (event : Event) (call : Authority.Operation × GrantedTokens) : Prop where
  asksFor : event.AsksFor call.1
  tellsOf : event.TellsOf call.2

end Audit.Event

namespace Authority

variable {authority : Authority}

/-! ## One call -/

/-- A grant offers one event to the sink and changes nothing else. -/
theorem exists_event_of_grant {now : Time.Instant} {ids : FreshIds} {request : GrantRequest}
    {profile : Option Profile} {granted : GrantedTokens} {next : Authority}
    (success : authority.grant now ids request profile = .ok (granted, next)) :
    ∃ event : Audit.Event, next = authority.withSink (authority.sink.offer event) ∧
      event.Asks now ids.event request.clientId request.grantType profile ∧ event.TellsOf granted := by
  rcases eq_of_grant success with ⟨access, made, rfl⟩
  rcases Keyring.exists_issues_of_grant made with ⟨expiry, issues, rfl⟩
  rcases issues.exists_ofClaims with ⟨stated, written, signed, times⟩
  have clientId := request.clientId_grantedClaims authority.settings now.truncate expiry
    ids.access.text profile
  have grantType := request.grantType_grantedClaims authority.settings now.truncate expiry
    ids.access.text profile
  have username := request.username_grantedClaims authority.settings now.truncate expiry
    ids.access.text profile
  have machine := GrantRequest.isClientCredentials_iff issues.admitted
  refine ⟨_, rfl, ⟨rfl, rfl, clientId, grantType, username⟩, rfl, rfl, rfl, rfl,
    ⟨stated, NamedKey.claimSet?_of_sign? signed times, ?_⟩, ?_⟩
  · rw [ClaimSet.ofClaims, GrantRequest.expiresAt_grantedClaims] at written
    cases written
    exact ⟨rfl, rfl, rfl⟩
  · rw [Audit.Event.ofGrant, username, grantType, Option.map_eq_none_iff, Option.some.injEq, ← machine]
    exact beq_iff_eq

theorem exists_event_of_refresh {now : Time.Instant} {ids : FreshIds} {token : String} {profile : Profile}
    {granted : GrantedTokens} {next : Authority}
    (success : authority.refresh now ids token profile = .ok (granted, next)) :
    ∃ event : Audit.Event, next = authority.withSink (authority.sink.offer event) ∧
      event.AsksFor (.refresh now ids token profile) ∧ event.TellsOf granted := by
  rcases exists_readRefresh_of_refresh success with ⟨claims, read, _, grants⟩
  rcases exists_event_of_grant grants with ⟨event, offered, asks, tells⟩
  rcases (Keyring.of_readRefresh read).1 with ⟨stated, states, taken⟩
  have client : (GrantRequest.ofRefresh claims).clientId = stated.clientId.getD "" := by
    rw [GrantRequest.ofRefresh, (ClaimSet.isKeptBy_of_toClaims taken).clientId]
  rw [client] at asks
  exact ⟨event, offered, .refresh states asks, tells⟩

variable {operation : Operation}

theorem exists_event_of_answer {granted : GrantedTokens}
    (answered : operation.answer? authority = some (.ok granted)) :
    ∃ event : Audit.Event, authority.after operation = authority.withSink (authority.sink.offer event) ∧
      event.Records (operation, granted) := by
  cases operation with
  | grant now ids request profile =>
      rcases exists_ok_of_map (Option.some.inj answered) with ⟨⟨_, next⟩, success, rfl⟩
      rcases exists_event_of_grant success with ⟨event, offered, asks, tells⟩
      refine ⟨event, ?_, .grant asks, tells⟩
      rw [after, success, ← offered]
      rfl
  | refresh now ids token profile =>
      rcases exists_ok_of_map (Option.some.inj answered) with ⟨⟨_, next⟩, success, rfl⟩
      rcases exists_event_of_refresh success with ⟨event, offered, asksFor, tells⟩
      refine ⟨event, ?_, asksFor, tells⟩
      rw [after, success, ← offered]
      rfl
  | _ => cases answered

/-- A call that is answered with an error changes nothing. -/
theorem after_of_answer_error {error : TokenError}
    (answered : operation.answer? authority = some (.error error)) :
    authority.after operation = authority := by
  cases operation with
  | grant now ids request profile =>
      rw [after]
      cases outcome : authority.grant now ids request profile with
      | error _ => rfl
      | ok result =>
          rw [Operation.answer?, outcome] at answered
          cases answered
  | refresh now ids token profile =>
      rw [after]
      cases outcome : authority.refresh now ids token profile with
      | error _ => rfl
      | ok result =>
          rw [Operation.answer?, outcome] at answered
          cases answered
  | _ => cases answered

theorem sink_after_of_answer_none (unasked : operation.answer? authority = none) :
    (authority.after operation).sink = authority.sink := by
  cases operation with
  | grant now ids request profile => cases unasked
  | refresh now ids token profile => cases unasked
  | reload files settings =>
      rw [after, reload]
      cases Keyring.load files settings.keystore settings.token.resource settings.token.leeway <;> rfl
  | _ => rfl

/-! ## Runs -/

theorem grants_cons_of_none (unasked : operation.answer? authority = none) (operations : List Operation) :
    authority.grants (operation :: operations) = (authority.after operation).grants operations := by
  rw [grants, calls, unasked]
  rfl

theorem grants_cons_of_error {error : TokenError}
    (answered : operation.answer? authority = some (.error error)) (operations : List Operation) :
    authority.grants (operation :: operations) = authority.grants operations := by
  rw [grants, calls, answered, after_of_answer_error answered]
  rfl

theorem grants_cons_of_ok {granted : GrantedTokens}
    (answered : operation.answer? authority = some (.ok granted)) (operations : List Operation) :
    authority.grants (operation :: operations) =
      (operation, granted) :: (authority.after operation).grants operations := by
  rw [grants, calls, answered]
  rfl

/-- A sink that keeps events holds one for each call that was answered with tokens. -/
theorem exists_events_run {events : List Audit.Event} (keeps : authority.sink = .memory events)
    (operations : List Operation) :
    ∃ added, (authority.run operations).sink = .memory (events ++ added) ∧
      List.Forall₂ (fun call event => event.Records call) (authority.grants operations) added := by
  induction operations generalizing authority events with
  | nil =>
      refine ⟨[], ?_, .nil⟩
      rw [List.append_nil]
      exact keeps
  | cons operation operations ih =>
      rw [run_cons]
      cases answered : operation.answer? authority with
      | none =>
          rw [← sink_after_of_answer_none answered] at keeps
          rw [grants_cons_of_none answered]
          exact ih keeps
      | some answer =>
          cases answer with
          | error error =>
              rw [grants_cons_of_error answered, after_of_answer_error answered]
              exact ih keeps
          | ok granted =>
              rcases exists_event_of_answer answered with ⟨event, offered, records⟩
              have kept : (authority.after operation).sink = .memory (events ++ [event]) := by
                rw [offered, withSink, keeps]
                rfl
              rcases ih kept with ⟨added, holds, recorded⟩
              refine ⟨event :: added, ?_, ?_⟩
              · rw [holds, List.append_assoc, List.singleton_append]
              · rw [grants_cons_of_ok answered]
                exact .cons records recorded

/-! ## Sinks that refuse -/

theorem answer?_withSink (operation : Operation) (sink : Audit.Sink) :
    operation.answer? (authority.withSink sink) = operation.answer? authority := by
  have grants (now : Time.Instant) (ids : FreshIds) (request : GrantRequest)
      (profile : Option Profile) :
      ((authority.withSink sink).grant now ids request profile).map Prod.fst =
        (authority.grant now ids request profile).map Prod.fst := by
    unfold grant withSink
    cases authority.keyring.grant authority.settings now ids request profile <;> rfl
  cases operation with
  | grant now ids request profile => exact congrArg some (grants now ids request profile)
  | refresh now ids token profile =>
      apply congrArg some
      unfold refresh
      dsimp only [withSink]
      cases authority.keyring.readRefresh now authority.approvals token with
      | error error => rfl
      | ok previous =>
          dsimp only
          split
          · exact grants now ids _ _
          · rfl
  | _ => rfl

/-- Services that differ in their sinks alone still do so after an operation. -/
theorem exists_after_withSink (operation : Operation) (sink : Audit.Sink) :
    ∃ other, (authority.withSink sink).after operation = (authority.after operation).withSink other := by
  rcases (authority.withSink sink).exists_after_eq operation with ⟨other, same⟩
  rcases authority.exists_after_eq operation with ⟨_, listened⟩
  refine ⟨other, ?_⟩
  rw [same, listened]
  rfl

theorem calls_withSink (sink : Audit.Sink) (operations : List Operation) :
    (authority.withSink sink).calls operations = authority.calls operations := by
  induction operations generalizing authority sink with
  | nil => rfl
  | cons operation operations ih =>
      rcases authority.exists_after_withSink operation sink with ⟨other, same⟩
      rw [calls, calls, answer?_withSink, same, ih]

/-- A sink that keeps events holds one for each call that was answered with tokens, in their order; a call
that is answered with an error leaves the service as it is; and with a sink that refuses every event, all
calls are answered as with any other. -/
theorem recorded_run (authority : Authority) (operations : List Operation) :
    (∀ events, ∃ added,
      ((authority.withSink (.memory events)).run operations).sink = .memory (events ++ added) ∧
        List.Forall₂ (fun call event => event.Records call)
          ((authority.withSink (.memory events)).grants operations) added) ∧
      (∀ operation error, operation.answer? (authority.run operations) = some (.error error) →
        authority.run (operations ++ [operation]) = authority.run operations) ∧
      ∀ sink, (authority.withSink .broken).calls operations = (authority.withSink sink).calls operations := by
  refine ⟨fun events => exists_events_run rfl operations, ?_, ?_⟩
  · intro operation error answered
    rw [run, List.foldl_append]
    exact after_of_answer_error answered
  · intro sink
    rw [calls_withSink, calls_withSink]

/-- A request of a person's client, for the person or by mistake for nobody. -/
def asking (profile : Option Profile) : Operation :=
  .grant ⟨1000, 5⟩ threeIds ⟨"client", "password", ["SUBJECT.READ"]⟩ profile

/-- A call that fails is followed by one that succeeds, and the sink holds the event of the second. -/
theorem recorded_run_asking :
    ∃ event, (issuing.run [asking none, asking (some enrolled)]).sink = .memory [event] ∧
      event.principal = some "user" ∧ event.clientId = some "client" ∧
      issuing.run [asking none] = issuing ∧
      (issuing.withSink .broken).calls [asking none, asking (some enrolled)] =
        issuing.calls [asking none, asking (some enrolled)] := by
  have fails : (asking none).answer? issuing =
      some (.error (.invalidGrant (.subjectRequired "password"))) :=
    rfl
  have succeeds : ∃ granted, (asking (some enrolled)).answer? issuing = some (.ok granted) := by
    have opens : ∃ granted next, issuing.grant ⟨1000, 5⟩ threeIds
        ⟨"client", "password", ["SUBJECT.READ"]⟩ (some enrolled) = .ok (granted, next) :=
      issuing.exists_grant_of_signsAll Keyring.isReliable_proth.signs rfl rfl rfl
    rcases opens with ⟨granted, next, opened⟩
    refine ⟨granted, ?_⟩
    rw [asking, Operation.answer?, opened]
    rfl
  rcases succeeds with ⟨granted, succeeds⟩
  have grants : issuing.grants [asking none, asking (some enrolled)] =
      [(asking (some enrolled), granted)] := by
    rw [grants_cons_of_error fails, grants_cons_of_ok succeeds]
    rfl
  have same : issuing.withSink (.memory []) = issuing := rfl
  rcases recorded_run issuing [asking none, asking (some enrolled)] with ⟨keeps, _, listens⟩
  rcases keeps [] with ⟨events, holds, recorded⟩
  have answers := listens (.memory [])
  have unchanged := (recorded_run issuing []).2.1 (asking none) _ fails
  rw [same, List.nil_append] at holds
  rw [same, grants] at recorded
  rw [same] at answers
  rcases recorded with _ | ⟨records, _ | _⟩
  rcases records.asksFor with ⟨asks⟩
  exact ⟨_, holds, asks.principal, asks.clientId, unchanged, answers⟩

end Authority
end TokenAuthority
