import TokenAuthority.Catalog.Assignment

/-!
# Targets of a check

What a permission is checked against: everything, or a place in the chain from organizations and
projects down to a subject and one of its sources.
-/

namespace TokenAuthority

/-- The level at which a permission is checked. -/
inductive Level where
  | global
  | organization
  | project
  | subject
  | source
deriving DecidableEq, Repr

def Level.name : Level → String
  | global => "global"
  | organization => "organization"
  | project => "project"
  | subject => "subject"
  | source => "source"

/-- What a permission is checked against. -/
inductive Target where
  | everything
  | organization (organization : String)
  | project (project : String)
  | organizationOrProject (organization project : String)
  | subject (project subject : String)
  | source (project subject source : String)
deriving DecidableEq, Repr

namespace Target

def level : Target → Level
  | everything => .global
  | organization _ => .organization
  | project _ => .project
  | organizationOrProject _ _ => .project
  | subject _ _ => .subject
  | source _ _ _ => .source

/-- The most specific name in the chain. -/
def referent : Target → Option String
  | everything => none
  | organization name => some name
  | project name => some name
  | organizationOrProject _ name => some name
  | subject _ name => some name
  | source _ _ name => some name

/-- The target made of the names that are given, if they form a chain: a subject needs its project and
stands without an organization, a source needs its subject. -/
def ofNames? : (organization project subject source : Option String) → Option Target
  | none, none, none, none => some everything
  | some place, none, none, none => some (organization place)
  | none, some place, none, none => some (project place)
  | some outer, some place, none, none => some (organizationOrProject outer place)
  | none, some place, some person, none => some (subject place person)
  | none, some place, some person, some device => some (source place person device)
  | _, _, _, _ => none

end Target
end TokenAuthority
