import TokenAuthority.Config.Layer
import TokenAuthority.Files
import TokenAuthority.Text.Blank

/-!
# Settings from environment variables

A setting is the variable whose name joins the start common to all of them, the section and the setting.
An empty variable counts as unset, lists are written with commas, and numbers in decimal. The password
may also be the content of a file that a second variable names, which then wins.
-/

namespace TokenAuthority
namespace Config

/-- The environment variables that are set. -/
abbrev Environment := List (String × String)

namespace Environment

/-- The value of a variable. -/
def get? (environment : Environment) (name : String) : Option String :=
  (environment.find? fun (other, _) => other == name).map Prod.snd

/-- The value of a variable that is not empty. -/
def text? (environment : Environment) (name : String) : Option String :=
  (environment.get? name).filter fun value => !value.isEmpty

/-- The parts of a list between commas, without blanks around them and without empty ones. -/
def partsOf (value : String) : List String :=
  ((Text.splitAll ',' value).map Text.trim).filter fun part => !part.isEmpty

/-- The list in a variable. -/
def list? (environment : Environment) (name : String) : Option (List String) :=
  (environment.text? name).map partsOf

/-- The value of decimal digits, of which there must be at least one. -/
def naturalOf? (digits : List Char) : Option Nat :=
  if digits.isEmpty then none
  else digits.foldlM (fun value digit =>
    if '0' ≤ digit ∧ digit ≤ '9' then some (10 * value + (digit.toNat - 48)) else none) 0

/-- The number of 64 bits that a text denotes; one plus sign may stand in front. -/
def numberOf? (text : String) : Option UInt64 :=
  let digits := match text.toList with
    | '+' :: digits => digits
    | digits => digits
  (naturalOf? digits).bind fun value => if value < UInt64.size then some (UInt64.ofNat value) else none

/-- The number in a variable. -/
def number? (environment : Environment) (name : String) : Except ConfigError (Option UInt64) :=
  match environment.text? name with
  | none => .ok none
  | some value =>
    match numberOf? value with
    | some number => .ok (some number)
    | none => .error (.invalidNumber name value)

/-- The variable that names the file of a secret. -/
def fileVariable (name : String) : String := name ++ "_FILE"

/-- The content of a secret's file: one line end at the end of the file does not belong to it. -/
def withoutLineEnd (content : String) : String :=
  if content.toList.getLast? = some '\n' then String.ofList content.toList.dropLast else content

/-- The secret in a variable, or in the file that the variable for files names. -/
def secret? (environment : Environment) (files : Files.Tree) (name : String) :
    Except SecretError (Option Secret) :=
  match environment.get? (fileVariable name) with
  | some path =>
    if path.isEmpty then .error (.emptyPath (fileVariable name))
    else
      match files.readText path with
      | .ok content => .ok (some ⟨withoutLineEnd content⟩)
      | .error _ => .error (.unreadable path)
  | none => .ok ((environment.get? name).map Secret.mk)

/-- The start of the variables. -/
def defaultStart : String := "RADAR_AUTH"

/-- What follows the start in the names of the variables that state settings. -/
def settingNames : List String :=
  ["KEYSTORE_LOCATIONS", "KEYSTORE_PASSWORD", "KEYSTORE_PASSWORD_FILE", "KEYSTORE_SIGNING_KEY_ALIAS",
    "KEYSTORE_CHECKING_KEY_ALIASES", "TOKEN_ACCESS_VALIDITY_SECS", "TOKEN_REFRESH_VALIDITY_SECS",
    "TOKEN_LEEWAY_SECS", "TOKEN_ISSUER", "TOKEN_RESOURCE_ID", "LOG_LEVEL"]

/-- The layer that the variables with the given start state. -/
def layer (environment : Environment) (files : Files.Tree) (start : String) :
    Except ConfigError Layer := do
  let name := fun (setting : String) => start ++ "_" ++ setting
  let password ← (environment.secret? files (name "KEYSTORE_PASSWORD")).mapError ConfigError.secret
  let keystore : KeystoreLayer :=
    { locations := environment.list? (name "KEYSTORE_LOCATIONS")
      password
      signingAlias := environment.text? (name "KEYSTORE_SIGNING_KEY_ALIAS")
      checkingAliases := environment.list? (name "KEYSTORE_CHECKING_KEY_ALIASES") }
  let accessValidity ← environment.number? (name "TOKEN_ACCESS_VALIDITY_SECS")
  let refreshValidity ← environment.number? (name "TOKEN_REFRESH_VALIDITY_SECS")
  let leeway ← environment.number? (name "TOKEN_LEEWAY_SECS")
  let token : TokenLayer :=
    { issuer := environment.text? (name "TOKEN_ISSUER")
      resource := environment.text? (name "TOKEN_RESOURCE_ID")
      accessValidity
      refreshValidity
      leeway }
  return {
    keystore := some keystore
    token := some token
    logging := some { level := environment.text? (name "LOG_LEVEL") } }

end Environment
end Config
end TokenAuthority
