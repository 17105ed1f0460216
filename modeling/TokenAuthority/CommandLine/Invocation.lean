import TokenAuthority.CommandLine.Options
import TokenAuthority.Config.Environment

/-!
# Invocations

What a command line asks for: one of four commands, with the configuration to use. The path of the
configuration file may also stand in an environment variable.
-/

namespace TokenAuthority
namespace CommandLine

/-- What tokens are asked for. -/
structure MintArguments where
  clientId : String
  subject : Option String := none
  username : Option String := none
  clientCredentials : Bool := false
  grantType : String := "authorization_code"
  roles : List String := []
  authorities : List String := []
  scopes : List String := []
  sources : List String := []
deriving DecidableEq, Repr

/-- What is checked. -/
structure CheckArguments where
  token : String
  permission : String
  organization : Option String := none
  project : Option String := none
  subject : Option String := none
  source : Option String := none
deriving DecidableEq, Repr

/-- A command. -/
inductive Command where
  /-- Print the public keys. -/
  | publish
  /-- Grant tokens and print them. -/
  | mint (arguments : MintArguments)
  /-- Verify a token and print its claims. -/
  | inspect (token : String)
  /-- Check a permission against an access token. -/
  | check (arguments : CheckArguments)
deriving DecidableEq, Repr

/-- What a command line asks for. -/
structure Invocation where
  /-- The path of the configuration file, if it is not the default one. -/
  config : Option String := none
  /-- Log in JSON. -/
  jsonLogs : Bool := false
  command : Command
deriving DecidableEq, Repr

def helpRule : OptionRule := ⟨"help", some 'h', .stop .help⟩

def mainRules : List OptionRule :=
  [⟨"config", some 'c', .filledValue⟩, ⟨"json-logs", none, .flag⟩, helpRule,
    ⟨"version", some 'V', .stop .version⟩]

def mintRules : List OptionRule :=
  [⟨"client-id", none, .value⟩, ⟨"subject", none, .value⟩, ⟨"user-name", none, .value⟩,
    ⟨"client-credentials", none, .flag⟩, ⟨"grant-type", none, .value⟩, ⟨"role", none, .values⟩,
    ⟨"authority", none, .values⟩, ⟨"scope", none, .values⟩, ⟨"source", none, .values⟩, helpRule]

def checkRules : List OptionRule :=
  [⟨"permission", none, .value⟩, ⟨"organization", none, .value⟩, ⟨"project", none, .value⟩,
    ⟨"subject", none, .value⟩, ⟨"source", none, .value⟩, helpRule]

namespace Command

/-- A command without options and operands. -/
def ofPublish (words : Words) : Except Stop Command :=
  match words.operands with
  | [] => .ok publish
  | _ => .error .misuse

/-- A mint needs a client, and either a subject or to be for the client itself. -/
def ofMint (words : Words) : Except Stop Command :=
  let subject := words.value? "subject"
  let clientCredentials := words.has "client-credentials"
  match words.operands, words.value? "client-id" with
  | [], some clientId =>
    if subject.isSome == clientCredentials then .error .misuse
    else
      let usual : MintArguments := { clientId }
      .ok (mint {
        clientId
        subject
        username := words.value? "user-name"
        clientCredentials
        grantType := (words.value? "grant-type").getD usual.grantType
        roles := words.values "role"
        authorities := words.values "authority"
        scopes := words.values "scope"
        sources := words.values "source" })
  | _, _ => .error .misuse

/-- An inspection needs a token. -/
def ofInspect (words : Words) : Except Stop Command :=
  match words.operands with
  | [token] => .ok (inspect token)
  | _ => .error .misuse

/-- A check needs a token and a permission; a source needs its subject, and a subject its project. -/
def ofCheck (words : Words) : Except Stop Command :=
  match words.operands, words.value? "permission" with
  | [token], some permission =>
    if words.has "subject" ∧ !words.has "project" ∨ words.has "source" ∧ !words.has "subject" then
      .error .misuse
    else
      .ok (check {
        token
        permission
        organization := words.value? "organization"
        project := words.value? "project"
        subject := words.value? "subject"
        source := words.value? "source" })
  | _, _ => .error .misuse

/-- The names of the commands, each with its options and what is made of its words. -/
def table : List (String × List OptionRule × (Words → Except Stop Command)) :=
  [("jwks", [helpRule], ofPublish), ("mint", mintRules, ofMint), ("inspect", [helpRule], ofInspect),
    ("check", checkRules, ofCheck)]

def helpName : String := "help"

/-- Why a request for a description of commands is not carried out as a command. -/
def describe : List String → Stop
  | [] => .help
  | [name] => if name = helpName ∨ table.any (fun (other, _) => other == name) then .help else .misuse
  | _ => .misuse

/-- The command with a name. -/
def ofArguments (name : String) (arguments : List String) : Except Stop Command :=
  if name = helpName then .error (describe arguments)
  else
    match table.find? fun (other, _) => other == name with
    | none => .error .misuse
    | some (_, rules, command) => do command (← Words.ofArguments rules arguments)

end Command

namespace Invocation

/-- The environment variable with the path of the configuration file. -/
def configVariable : String := "RADAR_AUTH_CONFIG"

/-- What the words of a command line ask for. -/
def ofArguments (environment : Config.Environment) (arguments : List String) :
    Except Stop Invocation := do
  let (words, name, rest) ← Words.upToCommand mainRules {} arguments
  let command ← Command.ofArguments name rest
  let config ← match words.value? "config", environment.get? configVariable with
    | some path, _ => .ok (some path)
    | none, some path => if path.isEmpty then .error .misuse else .ok (some path)
    | none, none => .ok none
  return { config, jsonLogs := words.has "json-logs", command }

end Invocation
end CommandLine
end TokenAuthority
