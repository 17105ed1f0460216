import TokenAuthority.Access.Decision
import TokenAuthority.Access.Target
import TokenAuthority.Authority
import TokenAuthority.CommandLine.Outcome
import TokenAuthority.CommandLine.Reading

/-!
# Carrying out commands

A command is carried out in three steps, each of which may fail: the configuration is resolved, the keys
are loaded, and the command is run with them. Everything that a command depends on besides its words is
given: files, environment variables, the time, and new identifiers.
-/

namespace TokenAuthority
namespace CommandLine

/-- What a command depends on besides its words. -/
structure Surroundings where
  files : Files.Tree
  environment : Config.Environment
  now : Time.Instant
  ids : FreshIds

/-- The lines of a document that is printed. -/
def printed (document : Json) : Outcome :=
  { output := document.indented ++ "\n" }

/-- The assignments that role claims state; the first claim that states none is a failure. -/
def parseRoles (claims : List String) : Except (List String) (List Assignment) :=
  claims.mapM fun claim =>
    (Assignment.ofClaim claim).mapError fun error =>
      ["invalid role claim " ++ Text.quoted claim, error.message]

namespace MintArguments

/-- The profile of the subject, if there is one. A subject without a name of its own is called by its
identifier. -/
def profile (arguments : MintArguments) : Except (List String) (Option Profile) :=
  match arguments.subject with
  | none => .ok none
  | some subject =>
    (parseRoles arguments.roles).map fun roles =>
      some {
        subject
        username := arguments.username.getD subject
        roles
        authorities := arguments.authorities
        sources := arguments.sources }

/-- What the client asks for. -/
def request (arguments : MintArguments) : GrantRequest :=
  { clientId := arguments.clientId
    grantType := if arguments.clientCredentials then Claims.clientCredentials else arguments.grantType
    scopes := arguments.scopes }

end MintArguments

/-- The target that the names of a check make up. -/
def CheckArguments.target (arguments : CheckArguments) : Except (List String) Target :=
  match Target.ofNames? arguments.organization arguments.project arguments.subject arguments.source with
  | some target => .ok target
  | none =>
    if arguments.organization.isSome && arguments.subject.isSome then
      .error ["--organization cannot be combined with --subject"]
    else .error ["--subject needs --project and --source needs --subject"]

namespace Command

/-- Grants tokens and prints them. -/
def runMint (authority : Authority) (now : Time.Instant) (ids : FreshIds) (arguments : MintArguments) :
    Except (List String) Outcome := do
  let profile ← arguments.profile
  let (granted, _) ← (authority.grant now ids arguments.request profile).mapError fun error =>
    [error.message]
  return printed granted.toJson

/-- Goes on with the claims of a token, or reports why there are none. -/
def withClaims (claims : Except TokenError Claims) (next : Claims → Except (List String) Outcome) :
    Except (List String) Outcome :=
  match claims with
  | .error .overflow => .ok (.brokenOff TokenError.overflow.message)
  | .error error => .error [error.message]
  | .ok claims => next claims

/-- Verifies a token and prints its claims. -/
def runInspect (keyring : Keyring) (now : Time.Instant) (token : String) :
    Except (List String) Outcome :=
  withClaims (keyring.decode now token) fun claims => do
    let claimSet ← (ClaimSet.ofClaims claims).mapError fun error => [error.message]
    return printed claimSet.toJson

/-- Checks a permission against claims. A denial is printed and ends with code 1. -/
def checkClaims (arguments : CheckArguments) (claims : Claims) : Except (List String) Outcome := do
  let permission ← (Permission.ofScope arguments.permission).mapError fun error => [error.message]
  let target ← arguments.target
  match claims.check permission target with
  | .ok () => return { output := "granted\n" }
  | .error denial => return { code := 1, output := denial.message ++ "\n" }

/-- Checks a permission against an access token. -/
def runCheck (keyring : Keyring) (now : Time.Instant) (arguments : CheckArguments) :
    Except (List String) Outcome :=
  withClaims (keyring.readAccess now arguments.token) (checkClaims arguments)

/-- Runs a command with the keys and settings of an authority. -/
def run (authority : Authority) (now : Time.Instant) (ids : FreshIds) :
    Command → Except (List String) Outcome
  | publish => .ok (printed authority.keyring.published.toJson)
  | mint arguments => runMint authority now ids arguments
  | inspect token => runInspect authority.keyring now token
  | check arguments => runCheck authority.keyring now arguments

end Command

namespace Invocation

/-- The configuration that an invocation uses. -/
def settings (invocation : Invocation) (surroundings : Surroundings) :
    Except Config.ConfigError Config.Settings :=
  Config.load surroundings.files surroundings.environment invocation.configPath

/-- Carries out an invocation. -/
def run (invocation : Invocation) (surroundings : Surroundings) : Except (List String) Outcome := do
  let settings ← (invocation.settings surroundings).mapError fun error =>
    "failed to load configuration" :: error.report
  let authority ← (Authority.start surroundings.files settings.keystore settings.token
    (.log [])).mapError fun error => "failed to load key material" :: error.report
  invocation.command.run authority surroundings.now surroundings.ids

end Invocation

/-- The outcome of a command line. -/
def outcome (surroundings : Surroundings) (arguments : List String) : Outcome :=
  match Invocation.ofArguments surroundings.environment arguments with
  | .error stop => .ofStop stop
  | .ok invocation =>
    match invocation.run surroundings with
    | .error failure => .ofFailure failure
    | .ok outcome => outcome

end CommandLine
end TokenAuthority
