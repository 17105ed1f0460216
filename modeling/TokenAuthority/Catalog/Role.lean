import TokenAuthority.Catalog.Permission

/-!
# Roles

The role catalog: which roles there are, what they are called, and at which tier each of them acts.
-/

namespace TokenAuthority

/-- The tier at which a role acts. -/
inductive Tier where
  | global
  | organization
  | project
deriving DecidableEq, Repr

namespace Tier

def all : List Tier :=
  [global, organization, project]

def name : Tier → String
  | global => "global"
  | organization => "organization"
  | project => "project"

def ofName? (name : String) : Option Tier :=
  all.find? fun tier => tier.name == name

end Tier

/-- The roles a person can have. -/
inductive Role where
  | sysAdmin
  | organizationAdmin
  | projectAdmin
  | projectOwner
  | projectAffiliate
  | projectAnalyst
  | participant
  | inactiveParticipant
deriving DecidableEq, Repr

namespace Role

/-- Every role, in catalog order. -/
def all : List Role :=
  [sysAdmin, organizationAdmin, projectAdmin, projectOwner, projectAffiliate, projectAnalyst,
    participant, inactiveParticipant]

def rank : Role → Nat
  | sysAdmin => 0
  | organizationAdmin => 1
  | projectAdmin => 2
  | projectOwner => 3
  | projectAffiliate => 4
  | projectAnalyst => 5
  | participant => 6
  | inactiveParticipant => 7

/-- The order of the catalog. -/
def compare (left right : Role) : Ordering :=
  Ord.compare left.rank right.rank

def name : Role → String
  | sysAdmin => "SYS_ADMIN"
  | organizationAdmin => "ORGANIZATION_ADMIN"
  | projectAdmin => "PROJECT_ADMIN"
  | projectOwner => "PROJECT_OWNER"
  | projectAffiliate => "PROJECT_AFFILIATE"
  | projectAnalyst => "PROJECT_ANALYST"
  | participant => "PARTICIPANT"
  | inactiveParticipant => "INACTIVE_PARTICIPANT"

/-- What an authority has in front of the name of its role. -/
def authorityStart : String := "ROLE_"

def authority (role : Role) : String :=
  authorityStart ++ role.name

def tier : Role → Tier
  | sysAdmin => .global
  | organizationAdmin => .organization
  | _ => .project

/-- A role that a person has as the subject of a study, not as a member of its staff. -/
def isPersonal : Role → Bool
  | participant => true
  | inactiveParticipant => true
  | _ => false

/-- The characters of a name without the start of an authority, if it has one. Only one is taken off. -/
def withoutAuthorityStart (text : List Char) : List Char :=
  (Text.dropFront? authorityStart.toList text).getD text

def ofName? (text : String) : Option Role :=
  all.find? fun role => role.name.toList == withoutAuthorityStart text.toList

/-- The role that a name or an authority denotes, or the text as unknown. -/
def parse (text : String) : Except CatalogError Role :=
  match ofName? text with
  | some role => .ok role
  | none => .error (.unknownRole text)

end Role
end TokenAuthority
