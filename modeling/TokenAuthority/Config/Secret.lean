import TokenAuthority.Json.Record

/-!
# Secrets

A value that must not appear in any text by accident. It is written as a placeholder wherever it is
printed or encoded, and is read only by asking for it.
-/

namespace TokenAuthority
namespace Config

/-- A text that is kept out of all output. -/
structure Secret where
  expose : String
deriving DecidableEq, Inhabited

namespace Secret

/-- What is printed in place of a secret. -/
def placeholder : String := "[REDACTED]"

/-- The printed form of a secret. -/
def display (_ : Secret) : String := placeholder

/-- The printed form of a secret in a report on a structure. -/
def report (_ : Secret) : String := "Secret(\"" ++ placeholder ++ "\")"

def toJson (_ : Secret) : Json := .string placeholder

def ofJson? (document : Json) : Option Secret :=
  document.asString?.map Secret.mk

end Secret
end Config
end TokenAuthority
