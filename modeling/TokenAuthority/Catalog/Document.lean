import TokenAuthority.Catalog.Assignment
import TokenAuthority.Json.Record

/-!
# The catalog in documents

How permissions, tiers, roles and role assignments stand in a JSON document: as their scope name, their
name, or their role claim. Unlike in a token, an unknown one is not dropped but makes the document
unreadable.
-/

namespace TokenAuthority

namespace Permission

/-- The document of a permission, its scope name. -/
def toJson (permission : Permission) : Json :=
  .string permission.scope

def ofJson? (document : Json) : Option Permission :=
  document.asString?.bind fun scope => (ofScope scope).toOption

end Permission

namespace Tier

/-- The document of a tier, its name. -/
def toJson (tier : Tier) : Json :=
  .string tier.name

def ofJson? (document : Json) : Option Tier :=
  document.asChoice?.bind ofName?

end Tier

namespace Role

/-- The document of a role, its name. -/
def toJson (role : Role) : Json :=
  .string role.name

/-- The role that a document names. Here the authority of a role is no name for it. -/
def ofJson? (document : Json) : Option Role :=
  document.asChoice?.bind fun name => all.find? fun role => role.name == name

end Role

namespace Assignment

/-- The document of an assignment, its role claim. -/
def toJson (assignment : Assignment) : Json :=
  .string assignment.claim

def ofJson? (document : Json) : Option Assignment :=
  document.asString?.bind fun claim => (ofClaim claim).toOption

end Assignment

end TokenAuthority
