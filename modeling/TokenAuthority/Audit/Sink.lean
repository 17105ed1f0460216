import TokenAuthority.Audit.Event

/-!
# Where audit events go

A sink takes the event of each grant. One keeps them, one writes each of them to the log as a record of
text fields, and one is broken and refuses every event.
-/

namespace TokenAuthority
namespace Audit

/-- A record of the log: its fields in order. -/
abbrev LogRecord := List (String × String)

def logMessage : String := "audit event"

/-- The record of an event; a field without a value is left out. -/
def Event.logRecord (event : Event) : LogRecord :=
  [("message", logMessage), ("id", event.id.text), ("timestamp", event.timestamp.text),
    ("action", event.action)] ++
    (event.principal.map (("principal", ·))).toList ++
    [("token_type", event.tokenType), ("scope", String.intercalate " " event.scope),
      ("expires_at", event.expiresAt.text)] ++
    (event.clientId.map (("client_id", ·))).toList ++
    (event.grantType.map (("grant_type", ·))).toList

/-- A destination of events, with what has arrived there. -/
inductive Sink where
  | memory (events : List Event)
  | log (records : List LogRecord)
  | broken
deriving DecidableEq, Repr, Inhabited

namespace Sink

def name : Sink → String
  | memory _ => "memory"
  | log _ => "log"
  | broken => "broken"

/-- The sink after an event, unless it refuses the event. -/
def publish? (sink : Sink) (event : Event) : Option Sink :=
  match sink with
  | memory events => some (memory (events ++ [event]))
  | log records => some (log (records ++ [event.logRecord]))
  | broken => none

/-- The sink after an event that is lost where the sink refuses it. -/
def offer (sink : Sink) (event : Event) : Sink :=
  (sink.publish? event).getD sink

def events : Sink → List Event
  | memory events => events
  | log _ => []
  | broken => []

end Sink
end Audit
end TokenAuthority
