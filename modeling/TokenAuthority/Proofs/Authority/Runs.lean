import TokenAuthority.Authority
import TokenAuthority.Proofs.Token.Approvals
import TokenAuthority.Proofs.Token.Grants

/-!
# Runs of the authority

What happens to the service is a list of operations: grants, refreshes, new keys, configurations that are
loaded, and changes of the approvals.  An operation that fails leaves the service as it was.

Only new keys and configurations that are loaded put a ring in place.  The ring after a run is therefore the
last one that was put in place, or the first one if there was none, and the settings of tokens never change.
-/

namespace TokenAuthority

theorem Keyring.kept_of_load {files : Files.Tree} {settings : Config.KeystoreSettings} {audience : String}
    {leeway : UInt64} {ring : Keyring} (loaded : Keyring.load files settings audience leeway = .ok ring) :
    ring.audience = audience ∧ ring.leeway = leeway := by
  unfold Keyring.load Keyring.loadWith at loaded
  split at loaded
  · cases loaded
  · rcases exists_ok_of_bind loaded with ⟨signing, _, loaded⟩
    rcases exists_ok_of_bind loaded with ⟨keys, _, loaded⟩
    rw [← Except.ok.inj loaded]
    exact ⟨rfl, rfl⟩

namespace Authority

/-- Something that is done to the service. -/
inductive Operation where
  | grant (now : Time.Instant) (ids : FreshIds) (request : GrantRequest) (profile : Option Profile)
  | refresh (now : Time.Instant) (ids : FreshIds) (token : String) (profile : Profile)
  | replace (keyring : Keyring)
  /-- Loads a configuration from files. -/
  | reload (files : Files.Tree) (settings : Config.Settings)
  | approve (username clientId : String) (scopes : List String)
  | revoke (username clientId scope : String)
  | revokeAll (username clientId : String)

namespace Operation

/-- The ring that an operation puts in place. -/
def keyring? : Operation → Option Keyring
  | replace keyring => some keyring
  | reload files settings =>
    (Keyring.load files settings.keystore settings.token.resource settings.token.leeway).toOption
  | _ => none

/-- The audience for which an operation makes the service verify access tokens: the resource of the
configuration that is loaded, or the audience of the ring. -/
def audience? : Operation → Option String
  | replace keyring => some keyring.audience
  | reload files settings =>
    (Keyring.load files settings.keystore settings.token.resource settings.token.leeway).toOption.map
      fun _ => settings.token.resource
  | _ => none

theorem audience?_eq (operation : Operation) :
    operation.audience? = operation.keyring?.map Keyring.audience := by
  cases operation with
  | reload files settings =>
      simp only [audience?, keyring?]
      cases loaded : Keyring.load files settings.keystore settings.token.resource
          settings.token.leeway with
      | error error => rfl
      | ok ring => exact congrArg some (Keyring.kept_of_load loaded).1.symm
  | _ => rfl

/-- What an operation does to the approvals, if it does anything. -/
def change? : Operation → Option Approvals.Change
  | approve username clientId scopes => some (.approve username clientId scopes)
  | revoke username clientId scope => some (.revoke username clientId scope)
  | revokeAll username clientId => some (.revokeAll username clientId)
  | _ => none

end Operation

variable (authority : Authority)

/-- The service after an operation. -/
def after : Operation → Authority
  | .grant now ids request profile =>
    ((authority.grant now ids request profile).toOption.map Prod.snd).getD authority
  | .refresh now ids token profile =>
    ((authority.refresh now ids token profile).toOption.map Prod.snd).getD authority
  | .replace keyring => authority.replace keyring
  | .reload files settings =>
    (authority.reload files settings.keystore settings.token).toOption.getD authority
  | .approve username clientId scopes =>
    { authority with approvals := authority.approvals.approve username clientId scopes }
  | .revoke username clientId scope =>
    { authority with approvals := authority.approvals.revoke username clientId scope }
  | .revokeAll username clientId =>
    { authority with approvals := authority.approvals.revokeAll username clientId }

/-- The service after operations, one after the other. -/
def run (operations : List Operation) : Authority :=
  operations.foldl after authority

theorem run_cons (operation : Operation) (operations : List Operation) :
    authority.run (operation :: operations) = (authority.after operation).run operations :=
  rfl

variable {authority}

/-! ## Steps -/

/-- A service is started with the settings of the configuration, for its resource. -/
theorem kept_of_start {files : Files.Tree} {keystore : Config.KeystoreSettings}
    {settings : Config.TokenSettings} {sink : Audit.Sink} {initial : Authority}
    (started : start files keystore settings sink = .ok initial) :
    initial.settings = settings ∧ initial.keyring.audience = settings.resource := by
  rcases exists_ok_of_map started with ⟨ring, loaded, rfl⟩
  exact ⟨rfl, (Keyring.kept_of_load loaded).1⟩

theorem eq_of_grant {now : Time.Instant} {ids : FreshIds} {request : GrantRequest}
    {profile : Option Profile} {granted : GrantedTokens} {next : Authority}
    (success : authority.grant now ids request profile = .ok (granted, next)) :
    ∃ access, authority.keyring.grant authority.settings now ids request profile = .ok (granted, access) ∧
      next = { authority with
        sink := authority.sink.offer (Audit.Event.ofGrant now ids.event granted access) } := by
  unfold grant at success
  split at success
  · cases success
  next made access equation =>
    cases success
    exact ⟨access, equation, rfl⟩

theorem exists_issues_of_grant {now : Time.Instant} {ids : FreshIds} {request : GrantRequest}
    {profile : Option Profile} {granted : GrantedTokens} {next : Authority}
    (success : authority.grant now ids request profile = .ok (granted, next)) :
    ∃ expiry, authority.keyring.Issues authority.settings now ids request profile expiry granted := by
  rcases eq_of_grant success with ⟨access, made, _⟩
  rcases Keyring.exists_issues_of_grant made with ⟨expiry, issues, _⟩
  exact ⟨expiry, issues⟩

/-- A refresh reads a refresh token of the person, and grants what it asks for. -/
theorem exists_readRefresh_of_refresh {now : Time.Instant} {ids : FreshIds} {token : String}
    {profile : Profile} {granted : GrantedTokens} {next : Authority}
    (success : authority.refresh now ids token profile = .ok (granted, next)) :
    ∃ previous, authority.keyring.readRefresh now authority.approvals token = .ok previous ∧
      previous.subject = some profile.subject ∧
      authority.grant now ids (GrantRequest.ofRefresh previous) (some profile) = .ok (granted, next) := by
  unfold refresh at success
  split at success
  · cases success
  next previous read =>
    split at success
    next same => exact ⟨previous, read, same, success⟩
    · cases success

theorem refresh_eq_grant {now : Time.Instant} {ids : FreshIds} {token : String} {profile : Profile}
    {previous : Claims}
    (read : authority.keyring.readRefresh now authority.approvals token = .ok previous)
    (same : previous.subject = some profile.subject) :
    authority.refresh now ids token profile =
      authority.grant now ids (GrantRequest.ofRefresh previous) (some profile) := by
  unfold refresh
  rw [read]
  exact if_pos same

/-- A service whose signing key signs every message grants every request that is admitted, unless the tokens would
expire beyond the representable years. -/
theorem exists_grant_of_signsAll (signs : authority.keyring.signing.pair.SignsAll)
    {now expiry later : Time.Instant} {ids : FreshIds} {request : GrantRequest}
    {profile : Option Profile} (admitted : request.refusal? profile = none)
    (expires : expiryAfter now.truncate authority.settings.accessValidity = .ok expiry)
    (refreshable : expiryAfter now.truncate authority.settings.refreshValidity = .ok later) :
    ∃ granted next, authority.grant now ids request profile = .ok (granted, next) := by
  have made : ∃ granted access,
      authority.keyring.grant authority.settings now ids request profile = .ok (granted, access) :=
    Keyring.exists_grant_of_signsAll signs admitted expires refreshable
  rcases made with ⟨granted, access, made⟩
  unfold grant
  rw [made]
  exact ⟨_, _, rfl⟩

theorem kept_of_grant {now : Time.Instant} {ids : FreshIds} {request : GrantRequest}
    {profile : Option Profile} {granted : GrantedTokens} {next : Authority}
    (success : authority.grant now ids request profile = .ok (granted, next)) :
    next.keyring = authority.keyring ∧ next.settings = authority.settings := by
  rcases eq_of_grant success with ⟨access, _, rfl⟩
  exact ⟨rfl, rfl⟩

/-- What an operation leaves behind, but for the sink: its ring is put in place if it has one, the approvals
take its change, and the settings stay as they are. -/
theorem exists_after_eq (authority : Authority) (operation : Operation) :
    ∃ sink, authority.after operation =
      { keyring := operation.keyring?.getD authority.keyring
        settings := authority.settings
        approvals := authority.approvals.changes operation.change?.toList
        sink } := by
  cases operation with
  | grant now ids request profile =>
      rw [after]
      cases success : authority.grant now ids request profile with
      | error error => exact ⟨authority.sink, rfl⟩
      | ok result =>
          rcases eq_of_grant success with ⟨access, _, next⟩
          exact ⟨_, next⟩
  | refresh now ids token profile =>
      rw [after]
      cases success : authority.refresh now ids token profile with
      | error error => exact ⟨authority.sink, rfl⟩
      | ok result =>
          rcases exists_readRefresh_of_refresh success with ⟨previous, _, _, granted⟩
          rcases eq_of_grant granted with ⟨access, _, next⟩
          exact ⟨_, next⟩
  | reload files settings =>
      refine ⟨authority.sink, ?_⟩
      rw [after, reload, Operation.keyring?]
      cases Keyring.load files settings.keystore settings.token.resource settings.token.leeway <;> rfl
  | _ => exact ⟨authority.sink, rfl⟩

theorem keyring_after (authority : Authority) (operation : Operation) :
    (authority.after operation).keyring = operation.keyring?.getD authority.keyring := by
  rcases authority.exists_after_eq operation with ⟨sink, same⟩
  rw [same]

theorem settings_after (authority : Authority) (operation : Operation) :
    (authority.after operation).settings = authority.settings := by
  rcases authority.exists_after_eq operation with ⟨sink, same⟩
  rw [same]

theorem approvals_after (authority : Authority) (operation : Operation) :
    (authority.after operation).approvals = authority.approvals.changes operation.change?.toList := by
  rcases authority.exists_after_eq operation with ⟨sink, same⟩
  rw [same]

/-! ## Runs -/

/-- The ring after a run is the last one that was put in place. -/
theorem keyring_run (authority : Authority) (operations : List Operation) :
    (authority.run operations).keyring =
      (operations.filterMap Operation.keyring?).getLast?.getD authority.keyring := by
  induction operations generalizing authority with
  | nil => rfl
  | cons operation operations ih =>
      rw [run_cons, ih, keyring_after, List.filterMap_cons]
      cases operation.keyring? with
      | none => rfl
      | some ring => rw [List.getLast?_cons, Option.getD_some, Option.getD_some]

theorem settings_run (authority : Authority) (operations : List Operation) :
    (authority.run operations).settings = authority.settings := by
  induction operations generalizing authority with
  | nil => rfl
  | cons operation operations ih => rw [run_cons, ih, settings_after]

/-- Access tokens are verified for the audience that an operation set last. -/
theorem audience_run (authority : Authority) (operations : List Operation) :
    (authority.run operations).keyring.audience =
      (operations.filterMap Operation.audience?).getLast?.getD authority.keyring.audience := by
  have audiences : operations.filterMap Operation.audience? =
      (operations.filterMap Operation.keyring?).map Keyring.audience := by
    rw [List.map_filterMap, funext Operation.audience?_eq]
  rw [keyring_run, audiences, List.getLast?_map]
  cases (operations.filterMap Operation.keyring?).getLast? <;> rfl

end Authority
end TokenAuthority
