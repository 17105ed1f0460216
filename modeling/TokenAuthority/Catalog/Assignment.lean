import TokenAuthority.Catalog.Role
import TokenAuthority.Collections

/-!
# Role assignments

A role together with what it refers to: an organization, a project, or nothing. An assignment is written
as a role claim, `REFERENT:ROLE`, or just `ROLE` without a referent. The referent is everything before
the last colon, so it may hold colons itself, and an empty referent is none.

Assignments are ordered by role, then by referent, with the missing referent first; a set of them is the
list in this order.
-/

namespace TokenAuthority

/-- A role and what it refers to. -/
structure Assignment where
  role : Role
  referent : Option String
deriving DecidableEq, Repr

namespace Assignment

/-- A role without a referent. -/
def bare (role : Role) : Assignment :=
  ⟨role, none⟩

/-- A role with a referent; an empty one counts as none. -/
def within (role : Role) (referent : String) : Assignment :=
  ⟨role, if referent.isEmpty then none else some referent⟩

def claim (assignment : Assignment) : String :=
  match assignment.referent with
  | some referent => referent ++ ":" ++ assignment.role.name
  | none => assignment.role.name

def ofClaim (claim : String) : Except CatalogError Assignment :=
  match Text.splitLast? ':' claim with
  | some (referent, name) =>
    match Role.ofName? name with
    | some role => .ok (within role referent)
    | none => .error (.invalidRoleClaim claim)
  | none => (Role.parse claim).map bare

/-- The order of referents: none first, then by code points. -/
def compareReferents : Option String → Option String → Ordering
  | none, none => .eq
  | none, some _ => .lt
  | some _, none => .gt
  | some left, some right => Ord.compare left right

/-- The order of assignments: by role, then by referent. -/
def compare (left right : Assignment) : Ordering :=
  (left.role.compare right.role).then
    (compareReferents left.referent right.referent)

end Assignment
end TokenAuthority
