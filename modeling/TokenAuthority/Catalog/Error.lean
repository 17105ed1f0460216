/-!
# Names outside the catalog

The three ways in which a name or a claim fails to denote something of the catalog of permissions and
roles. Each carries the text that was looked up, unchanged.
-/

namespace TokenAuthority

/-- Why a name or a claim is not in the catalog. -/
inductive CatalogError where
  | permissionNotFound (name : String)
  | unknownRole (name : String)
  | invalidRoleClaim (claim : String)
deriving DecidableEq, Repr

namespace CatalogError

def message : CatalogError → String
  | permissionNotFound name => "permission not found: " ++ name
  | unknownRole name => "unknown role: " ++ name
  | invalidRoleClaim claim => "invalid role claim: " ++ claim

def status : CatalogError → Nat
  | permissionNotFound _ => 500
  | unknownRole _ => 401
  | invalidRoleClaim _ => 401

end CatalogError
end TokenAuthority
