import TokenAuthority.Collections

/-!
# Approvals

Which scopes a user has approved for a client. They are consulted when a refresh token is used, so that
a revocation takes effect at the next refresh. Approving, revoking one scope and revoking all of a
client's scopes touch only the user and client they name.
-/

namespace TokenAuthority

/-- For a user and a client, the set of scopes that the user has approved for the client. -/
structure Approvals where
  scopes : Table (String × String) (List String) := {}
deriving DecidableEq, Repr, Inhabited

namespace Approvals

/-- The scopes that a user approves for a client, in their order. -/
def standing (approvals : Approvals) (username clientId : String) : List String :=
  (approvals.scopes.get? (username, clientId)).getD []

def approve (approvals : Approvals) (username clientId : String) (scopes : List String) : Approvals :=
  ⟨approvals.scopes.insert (username, clientId)
    (OrderedSet.insertAll Ord.compare (approvals.standing username clientId) scopes)⟩

/-- Takes one approval back. Where the user has approved nothing for the client, nothing changes. -/
def revoke (approvals : Approvals) (username clientId scope : String) : Approvals :=
  match approvals.scopes.get? (username, clientId) with
  | some standing =>
    ⟨approvals.scopes.insert (username, clientId) (standing.filter fun other => other != scope)⟩
  | none => approvals

def revokeAll (approvals : Approvals) (username clientId : String) : Approvals :=
  ⟨approvals.scopes.erase (username, clientId)⟩

/-- The user approves every one of the scopes for the client; no scope needs no approval. -/
def isApproved (approvals : Approvals) (username clientId : String) (scopes : List String) : Bool :=
  scopes.isEmpty ||
    match approvals.scopes.get? (username, clientId) with
    | some standing => scopes.all fun scope => standing.contains scope
    | none => false

end Approvals
end TokenAuthority
