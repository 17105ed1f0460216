import TokenAuthority.Catalog.Error
import TokenAuthority.Text.Split

/-!
# Permissions

A permission is the right to perform one operation on one kind of entity. The catalog is the full
product of twelve entities and four operations. Its scope name, `ENTITY.OPERATION`, is what a client
requests and what a token carries.
-/

namespace TokenAuthority

/-- The kinds of things that permissions are about. -/
inductive Entity where
  | sourceType
  | sourceData
  | source
  | subject
  | user
  | role
  | organization
  | project
  | oauthClients
  | audit
  | authority
  | measurement
deriving DecidableEq, Repr

namespace Entity

/-- Every entity, in catalog order. -/
def all : List Entity :=
  [sourceType, sourceData, source, subject, user, role, organization, project, oauthClients, audit,
    authority, measurement]

def name : Entity → String
  | sourceType => "SOURCETYPE"
  | sourceData => "SOURCEDATA"
  | source => "SOURCE"
  | subject => "SUBJECT"
  | user => "USER"
  | role => "ROLE"
  | organization => "ORGANIZATION"
  | project => "PROJECT"
  | oauthClients => "OAUTHCLIENTS"
  | audit => "AUDIT"
  | authority => "AUTHORITY"
  | measurement => "MEASUREMENT"

def ofName? (name : String) : Option Entity :=
  all.find? fun entity => entity.name == name

/-- The entity with the given name, or the name as not found. -/
def lookup (name : String) : Except CatalogError Entity :=
  match ofName? name with
  | some entity => .ok entity
  | none => .error (.permissionNotFound name)

end Entity

/-- What can be done to an entity. -/
inductive Operation where
  | create
  | read
  | update
  | delete
deriving DecidableEq, Repr

namespace Operation

/-- Every operation, in catalog order. -/
def all : List Operation :=
  [create, read, update, delete]

def name : Operation → String
  | create => "CREATE"
  | read => "READ"
  | update => "UPDATE"
  | delete => "DELETE"

def ofName? (name : String) : Option Operation :=
  all.find? fun operation => operation.name == name

/-- The operation with the given name, or the name as not found. -/
def lookup (name : String) : Except CatalogError Operation :=
  match ofName? name with
  | some operation => .ok operation
  | none => .error (.permissionNotFound name)

end Operation

/-- The right to perform an operation on a kind of entity. -/
structure Permission where
  entity : Entity
  operation : Operation
deriving DecidableEq, Repr

namespace Permission

/-- Every permission, by entity and then by operation. -/
def all : List Permission :=
  Entity.all.flatMap fun entity => Operation.all.map fun operation => { entity, operation }

def scope (permission : Permission) : String :=
  permission.entity.name ++ "." ++ permission.operation.name

/-- The permission with the given entity and operation names. Either name can be the one that is
missing; the error names both. -/
def lookup (entity operation : String) : Except CatalogError Permission :=
  match Entity.ofName? entity, Operation.ofName? operation with
  | some entity, some operation => .ok { entity, operation }
  | _, _ => .error (.permissionNotFound (entity ++ "." ++ operation))

/-- The permission that a scope names: what stands before the first point is the entity, what stands
after it the operation. -/
def ofScope (scope : String) : Except CatalogError Permission :=
  match Text.splitFirst? '.' scope with
  | some (entity, operation) => lookup entity operation
  | none => .error (.permissionNotFound scope)

end Permission
end TokenAuthority
