import TokenAuthority.Access.Target
import TokenAuthority.Catalog.RuleTable
import TokenAuthority.Token.Claims

/-!
# Access decisions

Whether claims grant a permission on a target. The scope of the permission has to be among the scopes of
the claims in any case. Then machine clients and bearers of a global role that holds the permission are
granted it everywhere, and for all others the target decides:

* everything: some assignment holds the permission, whatever it refers to;
* an organization or a project: some role assigned for it holds the permission;
* a subject: as for its project, except that a bearer whose only role in the project is participant is
  granted nothing but its own subject;
* a source: as for its subject, and the source is bound to the claims.
-/

namespace TokenAuthority

/-- A permission that was refused on a target. -/
structure Denial where
  permission : Permission
  level : Level
  referent : Option String
deriving DecidableEq, Repr

namespace Denial

def message (denial : Denial) : String :=
  let place := "permission " ++ denial.permission.scope ++ " denied at " ++ denial.level.name ++ " scope"
  match denial.referent with
  | some referent => place ++ " " ++ referent
  | none => place

def status : Nat := 403

end Denial

namespace Claims

def hasScope (claims : Claims) (permission : Permission) : Bool :=
  claims.scopes.contains permission.scope

def hasGlobalAuthority (claims : Claims) (permission : Permission) : Bool :=
  claims.globalRoles.any fun role => role.holds permission

/-- Neither organization nor project limits the claims in the use of the permission. -/
def isUnlimited (claims : Claims) (permission : Permission) : Bool :=
  claims.isClientCredentials || claims.hasGlobalAuthority permission

def anyHolds (roles : List Role) (permission : Permission) : Bool :=
  roles.any fun role => role.holds permission

/-- What the roles of limited claims grant on a subject of a project. -/
def rolesGrantOnSubject (claims : Claims) (permission : Permission) (project subject : String) : Bool :=
  if claims.rolesInProject project = [.participant] then
    claims.subject == some subject && Role.participant.holds permission
  else anyHolds (claims.rolesInProject project) permission

def rolesGrant (claims : Claims) (permission : Permission) : Target → Bool
  | .everything => claims.assignments.any fun assignment => assignment.role.holds permission
  | .organization organization => anyHolds (claims.rolesInOrganization organization) permission
  | .project project => anyHolds (claims.rolesInProject project) permission
  | .organizationOrProject organization project =>
    anyHolds (claims.rolesInOrganization organization) permission ||
      anyHolds (claims.rolesInProject project) permission
  | .subject project subject => claims.rolesGrantOnSubject permission project subject
  | .source project subject _ => claims.rolesGrantOnSubject permission project subject

/-- The part of a target beyond roles: a source has to be bound to the claims. -/
def reaches (claims : Claims) : Target → Bool
  | .source _ _ source => claims.sources.contains source
  | _ => true

def isGranted (claims : Claims) (permission : Permission) (target : Target) : Bool :=
  claims.hasScope permission &&
    (claims.isUnlimited permission || claims.rolesGrant permission target) && claims.reaches target

/-- The refusal of a permission on a target, unless it is granted. -/
def check (claims : Claims) (permission : Permission) (target : Target) : Except Denial Unit :=
  if claims.isGranted permission target then .ok ()
  else .error { permission, level := target.level, referent := target.referent }

end Claims
end TokenAuthority
