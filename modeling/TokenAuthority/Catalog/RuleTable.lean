import TokenAuthority.Catalog.Role
import TokenAuthority.Collections

/-!
# The rule table

Which roles hold which permissions. The table is built from rules, which are applied one after the other:
each gives some permissions to one role, and none takes anything away. The entities for audit, authorities
and users are never readable through a blanket rule.
-/

namespace TokenAuthority

/-- For every permission the set of roles that hold it, if any was given the permission. -/
structure RuleTable where
  allowed : Table Permission (List Role) := {}
deriving DecidableEq, Repr, Inhabited

namespace RuleTable

/-- The roles that hold a permission, in catalog order. -/
def allowedRoles (table : RuleTable) (permission : Permission) : List Role :=
  (table.allowed.get? permission).getD []

def isRoleAllowed (table : RuleTable) (permission : Permission) (role : Role) : Bool :=
  (table.allowedRoles permission).contains role

/-- The permissions that a role holds, in catalog order. -/
def permissionsOf (table : RuleTable) (role : Role) : List Permission :=
  Permission.all.filter fun permission => table.isRoleAllowed permission role

/-- Puts a role among those that hold a permission. -/
def grantOne (role : Role) (table : RuleTable) (permission : Permission) : RuleTable :=
  ⟨table.allowed.insert permission (OrderedSet.insert Role.compare role (table.allowedRoles permission))⟩

/-- A rule: permissions that a role is given. -/
def grant (table : RuleTable) (permissions : List Permission) (role : Role) : RuleTable :=
  permissions.foldl (grantOne role) table

/-- Everything that can be done to an entity. -/
def ofEntity (entity : Entity) : List Permission :=
  Operation.all.map fun operation => ⟨entity, operation⟩

/-- The blanket rule: reading what the staff of a project shares. -/
def broadReads : List Permission :=
  (Entity.all.filter fun entity => !([Entity.audit, .authority, .user].contains entity)).map fun entity =>
    ⟨entity, .read⟩

/-- The rules, in the order in which they are applied. There is none for the administrators of organizations
and none for inactive participants. -/
def rules : List (Role × List Permission) :=
  [(.sysAdmin, Permission.all),
    (.projectAdmin, Permission.all.filter fun permission => permission != ⟨.project, .create⟩),
    (.projectOwner, ofEntity .subject),
    (.projectOwner, broadReads),
    (.projectAffiliate, [⟨.subject, .create⟩, ⟨.subject, .read⟩, ⟨.subject, .update⟩]),
    (.projectAffiliate, broadReads),
    (.projectAnalyst, broadReads),
    (.projectAnalyst, [⟨.source, .update⟩]),
    (.participant, [⟨.subject, .read⟩, ⟨.subject, .update⟩, ⟨.measurement, .create⟩, ⟨.measurement, .read⟩])]

/-- The table with rules applied to it. -/
def applyAll (table : RuleTable) (rules : List (Role × List Permission)) : RuleTable :=
  rules.foldl (fun table rule => table.grant rule.2 rule.1) table

/-- The table of all rules. -/
def build : RuleTable :=
  ({} : RuleTable).applyAll rules

end RuleTable

/-- A role holds a permission if the rules give it. -/
def Role.holds (role : Role) (permission : Permission) : Bool :=
  RuleTable.build.isRoleAllowed permission role

end TokenAuthority
