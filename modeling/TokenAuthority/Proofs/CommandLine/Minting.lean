import TokenAuthority.CommandLine.Run
import TokenAuthority.Proofs.Authority.Decisions
import TokenAuthority.Proofs.CommandLine.Words
import TokenAuthority.Proofs.Config.Layering
import TokenAuthority.Proofs.Json.Layout
import TokenAuthority.Proofs.Keys.Stores

/-!
# Minting and checking

A token that a command line mints is checked by another one.  In between, the arguments become a profile and a
request, these become claims, the claims a signed text, and the text is printed in a document over several
lines.  The check reads the settings and the keys again, verifies the text, takes the claims out of it, and
makes a target of the names that it is given.

Nothing of this changes the decision.  Under the same configuration, and while the token is valid, a check
prints what is decided for claims that are made directly of the arguments of the mint, if its permission was
asked for, and denies it otherwise.  The target is made of all the names that are given, so that none of them
is passed over.  What has to be assumed is that the signing pair verifies its own signatures.
-/

namespace TokenAuthority

/-! ## The names of a target -/

/-- The organization, the project, the subject and the source of which a target is made. -/
def Target.names : Target → Option String × Option String × Option String × Option String
  | everything => (none, none, none, none)
  | organization place => (some place, none, none, none)
  | project place => (none, some place, none, none)
  | organizationOrProject outer place => (some outer, some place, none, none)
  | subject place person => (none, some place, some person, none)
  | source place person device => (none, some place, some person, some device)

/-- A target is made of all the names that are given, each in its place. -/
theorem Target.ofNames?_eq_some_iff {organization project subject source : Option String} {target : Target} :
    ofNames? organization project subject source = some target ↔
      target.names = (organization, project, subject, source) := by
  constructor
  · intro made
    unfold ofNames? at made
    split at made <;> cases made <;> rfl
  · intro named
    cases target <;> cases named <;> rfl

/-! ## The document of granted tokens -/

namespace GrantedTokens

/-- What is written for each field, in order. -/
def slots (granted : GrantedTokens) : List (String × Option Json) :=
  [("access_token", some (.string granted.accessToken)),
    ("refresh_token", granted.refreshToken.map .string), ("token_type", some (.string tokenType)),
    ("expires_in", some (.integer granted.expiresIn)), ("scope", some (Json.strings granted.scopes)),
    ("jti", some (.string granted.tokenId))]

theorem toJson_eq_sparse (granted : GrantedTokens) :
    granted.toJson = .object (Json.sparse granted.slots) := by
  simp only [toJson, slots, Json.sparse, List.flatMap_cons, List.flatMap_nil, Json.member?,
    List.append_nil, List.cons_append, List.nil_append]

theorem get?_accessToken (granted : GrantedTokens) :
    granted.toJson.get? "access_token" = some (.string granted.accessToken) := by
  have distinct : (granted.slots.map Prod.fst).Nodup := by
    change ["access_token", "refresh_token", "token_type", "expires_in", "scope", "jti"].Nodup
    decide
  rw [toJson_eq_sparse]
  exact Json.get?_of_onlyMember? (Json.onlyMember?_sparse distinct List.mem_cons_self)

theorem isWritable_toJson {granted : GrantedTokens} (lasts : Json.IsWritableInteger granted.expiresIn) :
    granted.toJson.isWritable = true := by
  rw [toJson_eq_sparse]
  apply Json.isWritable_sparse
  simp only [slots, List.forall_mem_cons, Option.mem_def, Option.some.injEq, forall_eq', Json.isWritable,
    Json.isWritable_strings, decide_eq_true lasts, true_and]
  refine ⟨?_, nofun⟩
  intro document given
  rcases Option.map_eq_some_iff.mp given with ⟨text, _, rfl⟩
  rfl

end GrantedTokens

namespace CommandLine

/-! ## What is asked for -/

/-- The outcome of a command that may fail. -/
def Outcome.ofResult : Except (List String) Outcome → Outcome
  | .error failure => .ofFailure failure
  | .ok outcome => outcome

/-- A command whose outcome has the code of success has not failed. -/
theorem Outcome.eq_ok_of_code {result : Except (List String) Outcome} (success : (ofResult result).code = 0) :
    result = .ok (ofResult result) := by
  cases result with
  | error failure => cases failure <;> cases success
  | ok outcome => rfl

/-- The outcome of a decision: a denial says what was denied, and ends with code 1. -/
def Outcome.ofDecision (permission : Permission) (target : Target) : Bool → Outcome
  | true => { output := "granted\n" }
  | false =>
    { code := 1
      output := Denial.message { permission, level := target.level, referent := target.referent } ++ "\n" }

/-- Words ask for a command, which is to be carried out under settings. -/
def Asks (surroundings : Surroundings) (words : List String) (command : Command)
    (settings : Config.Settings) : Prop :=
  ∃ invocation, Invocation.ofArguments surroundings.environment words = .ok invocation ∧
    invocation.command = command ∧ invocation.settings surroundings = .ok settings

/-- The service that the settings start. -/
def Surroundings.start (surroundings : Surroundings) (settings : Config.Settings) :
    Except KeyError Authority :=
  Authority.start surroundings.files settings.keystore settings.token (.log [])

section

variable {surroundings : Surroundings} {words : List String} {command : Command}
  {settings : Config.Settings}

theorem Asks.outcome_eq (asks : Asks surroundings words command settings) :
    outcome surroundings words = .ofResult (do
      let authority ← (surroundings.start settings).mapError fun error =>
        "failed to load key material" :: error.report
      command.run authority surroundings.now surroundings.ids) := by
  rcases asks with ⟨invocation, read, rfl, resolved⟩
  rw [outcome, read]
  simp only [Invocation.run, resolved]
  rfl

/-- A command is run with the service that the settings start. -/
theorem Asks.outcome_of_start (asks : Asks surroundings words command settings) {authority : Authority}
    (started : surroundings.start settings = .ok authority) :
    outcome surroundings words = .ofResult (command.run authority surroundings.now surroundings.ids) := by
  rw [asks.outcome_eq, started]
  rfl

/-- A command that succeeds has been run. -/
theorem Asks.exists_run (asks : Asks surroundings words command settings)
    (success : (outcome surroundings words).code = 0) :
    ∃ authority, surroundings.start settings = .ok authority ∧
      command.run authority surroundings.now surroundings.ids = .ok (outcome surroundings words) := by
  rw [asks.outcome_eq] at success ⊢
  rcases exists_ok_of_bind (Outcome.eq_ok_of_code success) with ⟨authority, started, ran⟩
  exact ⟨authority, eq_ok_of_mapError started, ran⟩

end

/-! ## Minting -/

/-- Role claims that are all parsed give the assignments that they state. -/
theorem parseRoles_eq_filterMap {roleClaims : List String} {roles : List Assignment}
    (parsed : parseRoles roleClaims = .ok roles) :
    roles = roleClaims.filterMap fun claim => (Assignment.ofClaim claim).toOption := by
  induction roleClaims generalizing roles with
  | nil => cases parsed; rfl
  | cons claim roleClaims ih =>
      rw [parseRoles, List.mapM_cons] at parsed
      rcases exists_ok_of_bind parsed with ⟨role, first, parsed⟩
      rcases exists_ok_of_bind parsed with ⟨others, rest, parsed⟩
      cases parsed
      rw [List.filterMap_cons, eq_ok_of_mapError first, ih rest]
      rfl

/-- A profile tells of a person what the arguments of a mint tell. -/
structure MintArguments.Tells (arguments : MintArguments) (subject : String) (person : Profile) : Prop where
  subject : person.subject = subject
  roles : person.roles = arguments.roles.filterMap fun claim => (Assignment.ofClaim claim).toOption
  authorities : person.authorities = arguments.authorities
  sources : person.sources = arguments.sources

theorem MintArguments.exists_tells {arguments : MintArguments} {subject : String}
    (named : arguments.subject = some subject) {profile : Option Profile}
    (made : arguments.profile = .ok profile) :
    ∃ person, profile = some person ∧ arguments.Tells subject person := by
  rw [MintArguments.profile, named] at made
  rcases exists_ok_of_map made with ⟨roles, parsed, rfl⟩
  exact ⟨_, rfl, rfl, parseRoles_eq_filterMap parsed, rfl, rfl⟩

/-- A mint succeeds if its arguments make a profile and the request is granted, and prints what is granted. -/
theorem runMint_eq_ok_iff {authority : Authority} {now : Time.Instant} {ids : FreshIds}
    {arguments : MintArguments} {outcome : Outcome} :
    Command.runMint authority now ids arguments = .ok outcome ↔
      ∃ profile granted next, arguments.profile = .ok profile ∧
        authority.grant now ids arguments.request profile = .ok (granted, next) ∧
        outcome = printed granted.toJson := by
  constructor
  · intro ran
    rcases exists_ok_of_bind ran with ⟨profile, made, ran⟩
    rcases exists_ok_of_bind ran with ⟨⟨granted, next⟩, success, ran⟩
    cases ran
    exact ⟨profile, granted, next, made, eq_ok_of_mapError success, rfl⟩
  · rintro ⟨profile, granted, next, made, success, rfl⟩
    rw [Command.runMint, made]
    simp only [bind, Except.bind, success]
    rfl

/-! ## Checking -/

/-- A check of a token that is read, for a permission of the catalog and a target, decides. -/
theorem runCheck_of_readAccess {keyring : Keyring} {now : Time.Instant} {arguments : CheckArguments}
    {claims : Claims} (read : keyring.readAccess now arguments.token = .ok claims)
    {permission : Permission} (named : arguments.permission = permission.scope) {target : Target}
    (made : arguments.target = .ok target) :
    Command.runCheck keyring now arguments =
      .ok (.ofDecision permission target (claims.isGranted permission target)) := by
  rw [Command.runCheck, read, Command.withClaims, Command.checkClaims, named, Permission.ofScope_scope, made]
  simp only [Except.mapError, bind, Except.bind, Claims.check]
  cases claims.isGranted permission target <;> rfl

/-- A check uses all names that it is given. -/
theorem CheckArguments.names_of_target {arguments : CheckArguments} {target : Target}
    (made : arguments.target = .ok target) :
    target.names = (arguments.organization, arguments.project, arguments.subject, arguments.source) := by
  unfold CheckArguments.target at made
  split at made
  next other named =>
    cases made
    exact Target.ofNames?_eq_some_iff.mp named
  · split at made <;> cases made

/-! ## From the one to the other -/

section

variable {settings : Config.Settings}

/-- The service that is started verifies what its settings say. -/
theorem Surroundings.kept_of_start {surroundings : Surroundings} {authority : Authority}
    (started : surroundings.start settings = .ok authority) :
    authority.settings = settings.token ∧ authority.keyring.audience = settings.token.resource ∧
      authority.keyring.leeway = settings.token.leeway := by
  rcases exists_ok_of_map started with ⟨ring, loaded, rfl⟩
  exact ⟨rfl, Keyring.kept_of_load loaded⟩

/-- A mint for a subject that succeeds has issued an access token for a person of whom the arguments tell, and
has printed it. -/
theorem Asks.exists_issues {surroundings : Surroundings} {words : List String} {arguments : MintArguments}
    (asks : Asks surroundings words (.mint arguments) settings) {subject : String}
    (named : arguments.subject = some subject) (success : (outcome surroundings words).code = 0) :
    ∃ authority person expiry granted, surroundings.start settings = .ok authority ∧
      arguments.Tells subject person ∧
      authority.keyring.Issues settings.token surroundings.now surroundings.ids arguments.request
        (some person) expiry granted ∧
      outcome surroundings words = printed granted.toJson := by
  rcases asks.exists_run success with ⟨authority, started, ran⟩
  rcases runMint_eq_ok_iff.mp ran with ⟨profile, granted, next, made, success, prints⟩
  rcases MintArguments.exists_tells named made with ⟨person, rfl, tells⟩
  rcases Authority.exists_issues_of_grant success with ⟨expiry, issues⟩
  rw [(Surroundings.kept_of_start started).1] at issues
  exact ⟨authority, person, expiry, granted, started, tells, issues, prints⟩

/-- What a mint prints is read as the document of the tokens. -/
theorem ofText?_printed_of_issues {ring : Keyring} {token : Config.TokenSettings} {now : Time.Instant}
    {ids : FreshIds} {request : GrantRequest} {profile : Option Profile} {expiry : Time.Instant}
    {granted : GrantedTokens} (issues : ring.Issues token now ids request profile expiry granted) :
    Json.ofText? (printed granted.toJson).output = some granted.toJson := by
  have lasts : granted.expiresIn = token.accessValidity.toNat := by
    rw [issues.expiresIn, (of_expiryAfter issues.expires).1]
    exact add_sub_cancel_left _ _
  have short := token.accessValidity.toNat_lt
  refine Json.ofText?_indented _ (GrantedTokens.isWritable_toJson (Or.inr ?_))
  rw [lasts, IsUnsigned64]
  omega

/-- The access token of a mint that succeeds is decided, as long as it is valid under the same configuration,
like claims that are made directly of what was given to the mint, with every scope of the catalog.  Only the
scopes that were asked for are allowed.  The check uses all names that it is given.  The signing pair of the
configuration verifies its own signatures. -/
theorem outcome_check_of_mint (mintedIn : Surroundings) (mintWords : List String) (asked : MintArguments)
    (settings : Config.Settings) (mints : Asks mintedIn mintWords (.mint asked) settings)
    (subject : String) (named : asked.subject = some subject)
    (begins : Time.Instant.isRepresentable mintedIn.now.seconds = true)
    (own : ∀ authority, mintedIn.start settings = .ok authority → authority.keyring.signing.pair.VerifiesOwn)
    (success : (outcome mintedIn mintWords).code = 0) :
    ∃ document token, Json.ofText? (outcome mintedIn mintWords).output = some document ∧
      document.get? "access_token" = some (.string token) ∧
      ∀ (later : Surroundings) (checkWords : List String) (checked : CheckArguments)
        (permission : Permission) (target : Target),
        Asks later checkWords (.check checked) settings → later.files = mintedIn.files →
        checked.token = token → checked.permission = permission.scope → checked.target = .ok target →
        settings.token.leeway ≤ later.now.clock →
        later.now.clock.toNat ≤ mintedIn.now.seconds + settings.token.accessValidity.toNat +
          settings.token.leeway.toNat →
        target.names = (checked.organization, checked.project, checked.subject, checked.source) ∧
          outcome later checkWords = .ofDecision permission target
            (decide (permission.scope ∈ asked.scopes) &&
              (Claims.ofBearer subject asked.roles asked.authorities asked.sources).isGranted permission
                target) := by
  rcases mints.exists_issues named success with
    ⟨authority, person, expiry, granted, started, tells, issues, prints⟩
  rcases Surroundings.kept_of_start started with ⟨_, audience, leeway⟩
  have normal : ∀ assignment ∈ person.roles, assignment.IsNormal := by
    rw [tells.roles]
    exact fun _ => Claims.isNormal_of_mem_filterMap
  have read := ofText?_printed_of_issues issues
  rw [← prints] at read
  refine ⟨granted.toJson, granted.accessToken, read, granted.get?_accessToken, ?_⟩
  intro later checkWords checked permission target checks sameFiles sameToken spelled made begun valid
  have startsAgain : later.start settings = .ok authority := by
    rw [Surroundings.start, sameFiles]
    exact started
  rw [← leeway] at begun valid
  have reads := issues.readAccess_accessToken (own authority started) normal begins audience begun (by
    rw [(of_expiryAfter issues.expires).1]
    exact valid)
  rw [← sameToken] at reads
  have decided := issues.isGranted_readFrom tells.roles permission target
  rw [tells.subject, tells.authorities, tells.sources] at decided
  refine ⟨checked.names_of_target made, ?_⟩
  rw [checks.outcome_of_start startsAgain, Command.run, runCheck_of_readAccess reads spelled made, sameToken,
    decided]
  rfl

end

/-! ## A participant's device -/

/-- Variables that state a configuration for a store of one pair. -/
def sampleVariables : Config.Environment :=
  [("RADAR_AUTH_KEYSTORE_LOCATIONS", "keys"), ("RADAR_AUTH_KEYSTORE_PASSWORD", "secret"),
    ("RADAR_AUTH_KEYSTORE_SIGNING_KEY_ALIAS", "main")]

def sampleSettings : Config.Settings where
  keystore := .ofPair
  token := {}
  logging := {}

/-- The store, the variables and a clock. -/
def surroundingsAt (seconds : Int) : Surroundings where
  files := .ofPair Rsa.prothKey.halves
  environment := sampleVariables
  now := ⟨seconds, 5⟩
  ids := ⟨⟨1⟩, ⟨2⟩, ⟨3⟩⟩

theorem load_sampleVariables (encoded : EncodedPair) :
    Config.load (.ofPair encoded) sampleVariables Config.defaultPath = .ok sampleSettings := by
  rw [Config.load, Config.Source.resolve, Config.Source.ordered_eq_byRank]
  rfl

def sampleAuthority : Authority where
  keyring := { signing := ⟨"main", KeyPair.proth⟩, audience := "res_ManagementPortal", leeway := 60 }
  settings := {}
  sink := .log []

theorem start_sampleSettings (seconds : Int) :
    (surroundingsAt seconds).start sampleSettings = .ok sampleAuthority := by
  change (Keyring.load (.ofPair Rsa.prothKey.halves) .ofPair _ _).map _ = _
  rw [Keyring.load_prothKey]
  rfl

theorem verifiesOwn_sampleSettings (authority : Authority)
    (started : (surroundingsAt 1000).start sampleSettings = .ok authority) :
    authority.keyring.signing.pair.VerifiesOwn := by
  rw [start_sampleSettings] at started
  rw [← Except.ok.inj started]
  exact KeyPair.isReliable_proth.verifiesOwn

/-- A participant of one project asks for two scopes, of which the role can use one. -/
def participantArguments : MintArguments where
  clientId := "client"
  subject := some "S"
  roles := ["P:PARTICIPANT"]
  scopes := ["SUBJECT.READ", "SUBJECT.DELETE"]
  sources := ["device"]

def participantWords : List String :=
  ["mint", "--client-id=client", "--subject=S", "--role=P:PARTICIPANT", "--scope", "SUBJECT.READ",
    "--scope", "SUBJECT.DELETE", "--source=device"]

theorem asks_participantWords (seconds : Int) :
    Asks (surroundingsAt seconds) participantWords (.mint participantArguments) sampleSettings := by
  have read : Invocation.ofArguments sampleVariables participantWords =
      .ok { command := .mint participantArguments } := by rfl
  exact ⟨_, read, rfl, load_sampleVariables _⟩

/-- The profile of the participant. -/
def participantOfDevice : Profile where
  subject := "S"
  username := "S"
  roles := [.within .participant "P"]
  sources := ["device"]

theorem code_participantWords : (outcome (surroundingsAt 1000) participantWords).code = 0 := by
  have grants : ∃ granted next, sampleAuthority.grant (surroundingsAt 1000).now (surroundingsAt 1000).ids
      participantArguments.request (some participantOfDevice) = .ok (granted, next) :=
    sampleAuthority.exists_grant_of_signsAll KeyPair.isReliable_proth.signs rfl rfl rfl
  rcases grants with ⟨granted, next, success⟩
  rw [(asks_participantWords 1000).outcome_of_start (start_sampleSettings 1000), Command.run,
    runMint_eq_ok_iff.mpr ⟨_, granted, next, rfl, success, rfl⟩]
  rfl

/-- A check whether the participant may read with a device. -/
def readingWith (device token : String) : CheckArguments where
  token
  permission := "SUBJECT.READ"
  project := some "P"
  subject := some "S"
  source := some device

theorem asks_readingWith (device token : String) (seconds : Int) :
    Asks (surroundingsAt seconds) (readingWith device token).words (.check (readingWith device token))
      sampleSettings :=
  ⟨_, (readingWith device token).ofArguments_words ⟨fun _ => rfl, fun _ => rfl⟩ nofun, rfl,
    load_sampleVariables _⟩

/-- The token of the participant is good for the own device, until it expires, and for no other one. -/
theorem outcome_check_of_mint_participant :
    ∃ document token,
      Json.ofText? (outcome (surroundingsAt 1000) participantWords).output = some document ∧
      document.get? "access_token" = some (.string token) ∧
      outcome (surroundingsAt 1900) (readingWith "device" token).words = { output := "granted\n" } ∧
      outcome (surroundingsAt 1900) (readingWith "other" token).words =
        { code := 1, output := "permission SUBJECT.READ denied at source scope other\n" } := by
  rcases outcome_check_of_mint (surroundingsAt 1000) participantWords participantArguments sampleSettings
      (asks_participantWords 1000) "S" rfl rfl verifiesOwn_sampleSettings code_participantWords with
    ⟨document, token, read, given, checks⟩
  have own := checks (surroundingsAt 1900) _ (readingWith "device" token) ⟨.subject, .read⟩
    (.source "P" "S" "device") (asks_readingWith "device" token 1900) rfl rfl rfl rfl (by decide) (by decide)
  have other := checks (surroundingsAt 1900) _ (readingWith "other" token) ⟨.subject, .read⟩
    (.source "P" "S" "other") (asks_readingWith "other" token 1900) rfl rfl rfl rfl (by decide) (by decide)
  refine ⟨document, token, read, given, own.2.trans ?_, other.2.trans ?_⟩
  · decide +kernel
  · decide +kernel

end CommandLine
end TokenAuthority
