import TokenAuthority.Json.Record
import TokenAuthority.Json.Writer
import TokenAuthority.Time.Rfc3339
import TokenAuthority.Uuid

/-!
# Audit events

The record of one grant of tokens, and its line of JSON. Every member is written, with null for the ones
without a value, and a line ends with a line feed that cannot occur inside it.
-/

namespace TokenAuthority
namespace Audit

/-- One grant of tokens. -/
structure Event where
  id : Uuid
  timestamp : Time.Instant
  action : String
  /-- The user to whom tokens were granted; machine clients have none. -/
  principal : Option String
  tokenType : String
  scope : List String
  expiresAt : Time.Instant
  clientId : Option String
  grantType : Option String
deriving DecidableEq, Repr, Inhabited

namespace Event

def grantAction : String := "token.granted"

/-- The members of an event, in the order in which they are written. -/
def fields : List Json.Field :=
  [⟨"id", false⟩, ⟨"timestamp", false⟩, ⟨"action", false⟩, ⟨"principal", false⟩,
    ⟨"token_type", false⟩, ⟨"scope", false⟩, ⟨"expires_at", false⟩, ⟨"client_id", false⟩,
    ⟨"grant_type", false⟩]

def toJson (event : Event) : Json :=
  .object
    [("id", .string event.id.text), ("timestamp", .string event.timestamp.text),
      ("action", .string event.action), ("principal", Json.stringOrNull event.principal),
      ("token_type", .string event.tokenType), ("scope", Json.strings event.scope),
      ("expires_at", .string event.expiresAt.text),
      ("client_id", Json.stringOrNull event.clientId),
      ("grant_type", Json.stringOrNull event.grantType)]

/-- An identifier written as a string. -/
def identifierOf? (document : Json) : Option Uuid :=
  document.asString?.bind Uuid.ofText?

/-- An instant written as a string. -/
def instantOf? (document : Json) : Option Time.Instant :=
  document.asString?.bind Time.Instant.ofText?

def ofJson? (document : Json) : Option Event := do
  let [id, timestamp, action, principal, tokenType, scope, expiresAt, clientId, grantType] ←
    document.fields? fields | none
  return {
    id := ← Json.required? identifierOf? id
    timestamp := ← Json.required? instantOf? timestamp
    action := ← Json.required? Json.asString? action
    principal := ← Json.optional? Json.asString? principal
    tokenType := ← Json.required? Json.asString? tokenType
    scope := ← Json.required? Json.asStrings? scope
    expiresAt := ← Json.required? instantOf? expiresAt
    clientId := ← Json.optional? Json.asString? clientId
    grantType := ← Json.optional? Json.asString? grantType }

/-- The line of an event, with its end. -/
def line (event : Event) : String :=
  event.toJson.compact ++ "\n"

end Event

/-- The lines of events, one a line. -/
def lines (events : List Event) : String :=
  String.join (events.map Event.line)

end Audit
end TokenAuthority
