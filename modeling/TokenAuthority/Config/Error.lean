/-!
# Configuration errors

The causes for which no configuration can be resolved, each with the sentence that reports it.
-/

namespace TokenAuthority
namespace Config

/-- What is wrong with resolved settings. -/
inductive Fault where
  | passwordMissing
  | signingAliasBlank
  | locationsMissing
  | resourceMissing
  | validityZero
  | refreshShorterThanAccess (refresh access : UInt64)
  | other (text : String)
deriving DecidableEq, Repr

def Fault.message : Fault → String
  | passwordMissing => "keystore password is required"
  | signingAliasBlank => "keystore signing_key_alias cannot be empty"
  | locationsMissing => "keystore locations cannot be empty"
  | resourceMissing => "token resource_id cannot be empty"
  | validityZero => "token validity must be greater than zero"
  | refreshShorterThanAccess refresh access =>
    "refresh_token_validity_secs (" ++ toString refresh.toNat ++
      ") must not be shorter than access_token_validity_secs (" ++ toString access.toNat ++ ")"
  | other text => text

/-- Why a secret cannot be loaded. -/
inductive SecretError where
  | unreadable (path : String)
  | emptyPath (name : String)
deriving DecidableEq, Repr

/-- The sentence that reports a secret that cannot be loaded. -/
def SecretError.message : SecretError → String
  | unreadable path => "failed to read secret file at " ++ path
  | emptyPath name => "secret file path in " ++ name ++ " is empty"

/-- Why no configuration can be resolved. -/
inductive ConfigError where
  | invalidNumber (key value : String)
  | malformedFile (path : String)
  | unreadableFile (path : String)
  | invalid (fault : Fault)
  | secret (error : SecretError)
deriving DecidableEq, Repr

/-- The sentence that reports why no configuration can be resolved. -/
def ConfigError.message : ConfigError → String
  | invalidNumber key value => "Invalid value for " ++ key ++ ": invalid u64 value '" ++ value ++ "'"
  | malformedFile path => "Failed to parse TOML config at " ++ path
  | unreadableFile path => "Failed to read config file " ++ path
  | invalid fault => "Validation error: " ++ fault.message
  | secret error => "Secret loading error: " ++ error.message

/-- The sentence, and those of the causes behind it. -/
def ConfigError.report : ConfigError → List String
  | secret error => [message (secret error), error.message]
  | error => [error.message]

end Config
end TokenAuthority
