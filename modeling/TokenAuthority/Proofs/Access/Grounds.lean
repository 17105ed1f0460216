import TokenAuthority.Proofs.Access.Referents
import TokenAuthority.Proofs.Catalog.Rules
import TokenAuthority.Proofs.Token.Scopes

/-!
# Grounds in the text of claims

Claims are built from texts: role claims, authorities, scopes and a grant type.  On the way to a decision
the texts are parsed, the assignments are put into a set, the roles of a place are collected and the rule
table is asked.  What comes of it can be read off the texts alone.

A permission on a project needs its scope, and then one of four grounds: a machine client, an authority or
a role claim that names the administrator, whatever the claim refers to, or a role claim that is the project
with the name of one of its roles, to which some rule gives the permission.  Without a target, any role that
is named anywhere will do.

The project must have a name.  An empty one is never a referent, so it is not what a claim with nothing in
front of its colon refers to.
-/

namespace TokenAuthority

theorem Role.tier_eq_global_iff {role : Role} : role.tier = .global ↔ role = .sysAdmin := by
  cases role <;> decide

namespace Claims

/-- Without a target any assignment of a role that holds the permission grants it, of whatever tier. -/
theorem isGranted_everything_iff {claims : Claims} {permission : Permission} :
    claims.isGranted permission .everything = true ↔
      claims.hasScope permission = true ∧
        (claims.isClientCredentials = true ∨
          ∃ assignment ∈ claims.assignments, assignment.role.holds permission = true) := by
  rw [isGranted_iff_of_reaches rfl, isUnlimited, Bool.or_eq_true, hasGlobalAuthority_iff, rolesGrant,
    List.any_eq_true, or_assoc]
  refine and_congr_right' (or_congr_right (or_iff_right_of_imp ?_))
  rintro ⟨assignment, member, _, holds⟩
  exact ⟨assignment, member, holds⟩

/-- The claims that role claims, authorities, scopes and a grant type make. -/
def stating (roleClaims authorities scopes : List String) (grantType : Option String) : Claims :=
  ((({ grantType } : Claims).addRoleClaims roleClaims).addAuthorities authorities).addScopes scopes

section

variable {roleClaims authorities scopes : List String} {grantType : Option String}
  {permission : Permission}

theorem hasScope_stating_iff :
    (stating roleClaims authorities scopes grantType).hasScope permission = true ↔
      permission.scope ∈ scopes := by
  have added : (stating roleClaims authorities scopes grantType).scopes =
      scopes.foldl addScopeTo [] := rfl
  rw [hasScope, added, List.contains_iff_mem, mem_foldl_addScopeTo]

theorem isClientCredentials_stating_iff :
    (stating roleClaims authorities scopes grantType).isClientCredentials = true ↔
      grantType = some "client_credentials" :=
  beq_iff_eq

/-- The assignments of the claims are those that some role claim states. -/
theorem mem_roles_stating {assignment : Assignment} :
    assignment ∈ (stating roleClaims authorities scopes grantType).roles ↔
      ∃ claim ∈ roleClaims, Assignment.ofClaim claim = .ok assignment := by
  have stated : ∀ claim, (Assignment.ofClaim claim).toOption = some assignment ↔
      Assignment.ofClaim claim = .ok assignment := by
    intro claim
    cases Assignment.ofClaim claim with
    | error fault => exact ⟨nofun, nofun⟩
    | ok other => exact ⟨congrArg Except.ok ∘ Option.some.inj, congrArg some ∘ Except.ok.inj⟩
  have added : (stating roleClaims authorities scopes grantType).roles =
      OrderedSet.insertAll Assignment.compare []
        (roleClaims.filterMap fun claim => (Assignment.ofClaim claim).toOption) := rfl
  simp only [added, OrderedSet.mem_insertAll, List.mem_filterMap, stated, List.not_mem_nil, or_false]

/-- A role is assigned, in any way, exactly when an authority or the last part of a role claim names it. -/
theorem exists_assignment_stating_iff (suits : Role → Prop) :
    (∃ assignment ∈ (stating roleClaims authorities scopes grantType).assignments,
        suits assignment.role) ↔
      ∃ role, suits role ∧ ((∃ authority ∈ authorities, role.IsNamedBy authority) ∨
        ∃ claim ∈ roleClaims, role.IsNamedBy (Assignment.rolePart claim)) := by
  have given : (stating roleClaims authorities scopes grantType).authorities = authorities := rfl
  simp only [assignments, given, List.mem_append, mem_roles_stating, List.mem_map, List.mem_filterMap,
    Role.ofName?_eq_some_iff, ← Assignment.exists_ofClaim_iff]
  constructor
  · rintro ⟨assignment, ⟨claim, listed, stated⟩ | ⟨role, ⟨authority, listed, named⟩, rfl⟩, suited⟩
    · exact ⟨assignment.role, suited, Or.inr ⟨claim, listed, assignment, stated, rfl⟩⟩
    · exact ⟨role, suited, Or.inl ⟨authority, listed, named⟩⟩
  · rintro ⟨role, suited, ⟨authority, listed, named⟩ | ⟨claim, listed, assignment, stated, rfl⟩⟩
    · exact ⟨.bare role, Or.inr ⟨role, ⟨authority, listed, named⟩, rfl⟩, suited⟩
    · exact ⟨assignment, Or.inl ⟨claim, listed, stated⟩, suited⟩

/-- The bearer is unlimited as a machine client, or by a text that names the administrator. -/
theorem isUnlimited_stating_iff :
    (stating roleClaims authorities scopes grantType).isUnlimited permission = true ↔
      grantType = some "client_credentials" ∨
        (∃ authority ∈ authorities, Role.sysAdmin.IsNamedBy authority) ∨
        ∃ claim ∈ roleClaims, Role.sysAdmin.IsNamedBy (Assignment.rolePart claim) := by
  rw [isUnlimited, Bool.or_eq_true, isClientCredentials_stating_iff, hasGlobalAuthority_iff]
  refine or_congr_right ((exists_assignment_stating_iff fun role =>
    role.tier = .global ∧ role.holds permission = true).trans ?_)
  simp only [Role.tier_eq_global_iff, and_assoc, exists_eq_left]
  exact and_iff_right (Role.entitles_iff_holds.mp (.sysAdmin permission))

/-- A role of a project is assigned exactly by the project and a name of the role. -/
theorem holdsAt_stating_iff {project : String} (named : project ≠ "") :
    (stating roleClaims authorities scopes grantType).HoldsAt permission .project project ↔
      ∃ role : Role, role.tier = .project ∧ role.Entitles permission ∧
        (project ++ ":" ++ role.name ∈ roleClaims ∨
          project ++ ":" ++ role.authority ∈ roleClaims) := by
  simp only [HoldsAt, mem_roles_stating, Role.entitles_iff_holds]
  constructor
  · rintro ⟨⟨role, _⟩, ⟨claim, listed, stated⟩, rfl, isProject, holds⟩
    refine ⟨role, isProject, holds, ?_⟩
    rcases (Assignment.ofClaim_eq_ok_within_iff named).mp stated with rfl | rfl
    · exact Or.inl listed
    · exact Or.inr listed
  · rintro ⟨role, isProject, holds, listed | listed⟩
    · exact ⟨⟨role, some project⟩, ⟨_, listed,
        (Assignment.ofClaim_eq_ok_within_iff named).mpr (Or.inl rfl)⟩, rfl, isProject, holds⟩
    · exact ⟨⟨role, some project⟩, ⟨_, listed,
        (Assignment.ofClaim_eq_ok_within_iff named).mpr (Or.inr rfl)⟩, rfl, isProject, holds⟩

end

/-- What claims made of texts are granted on a project that has a name, and without a target, is decided by
the texts and the rule table alone. -/
theorem isGranted_stating_iff (roleClaims authorities scopes : List String)
    (grantType : Option String) (permission : Permission) :
    (∀ project : String, project ≠ "" →
      ((stating roleClaims authorities scopes grantType).isGranted permission (.project project) = true ↔
        permission.scope ∈ scopes ∧
          (grantType = some "client_credentials" ∨
            (∃ authority ∈ authorities, authority = "SYS_ADMIN" ∨ authority = "ROLE_SYS_ADMIN") ∨
            (∃ claim ∈ roleClaims, Assignment.rolePart claim = "SYS_ADMIN" ∨
              Assignment.rolePart claim = "ROLE_SYS_ADMIN") ∨
            ∃ role : Role, role.tier = .project ∧ role.Entitles permission ∧
              (project ++ ":" ++ role.name ∈ roleClaims ∨
                project ++ ":" ++ role.authority ∈ roleClaims)))) ∧
    ((stating roleClaims authorities scopes grantType).isGranted permission .everything = true ↔
      permission.scope ∈ scopes ∧
        (grantType = some "client_credentials" ∨
          ∃ role : Role, role.Entitles permission ∧
            ((∃ authority ∈ authorities, authority = role.name ∨ authority = role.authority) ∨
              ∃ claim ∈ roleClaims, Assignment.rolePart claim = role.name ∨
                Assignment.rolePart claim = role.authority))) := by
  constructor
  · intro project named
    rw [isGranted_iff_of_reaches rfl, hasScope_stating_iff, isUnlimited_stating_iff, or_assoc, or_assoc,
      ← holdsAt_stating_iff named, ← anyHolds_rolesAt_iff]
    rfl
  · rw [isGranted_everything_iff, hasScope_stating_iff, isClientCredentials_stating_iff]
    simp only [Role.entitles_iff_holds]
    exact and_congr_right' (or_congr_right (exists_assignment_stating_iff fun role =>
      role.holds permission = true))

/-- Two claims of an owner and an analyst, one of a role that does not exist, and one of an administrator
with a referent that holds a colon. -/
def ownerAndAdministrator : List String :=
  ["P:ROLE_PROJECT_OWNER", "Q:PROJECT_ANALYST", "P:JANITOR", "a:b:ROLE_SYS_ADMIN"]

/-- The owner reads the subjects of the project by the claim for it; the administrator whom the last claim
names, whatever it refers to, reads them in every project. -/
theorem isGranted_stating_iff_owner :
    "P" ≠ "" ∧
      (stating (ownerAndAdministrator.take 3) [] ["SUBJECT.READ"] none).isGranted ⟨.subject, .read⟩
        (.project "P") = true ∧
      (stating (ownerAndAdministrator.take 3) [] ["SUBJECT.READ"] none).isGranted ⟨.subject, .delete⟩
        .everything = false ∧
      (stating ownerAndAdministrator [] ["SUBJECT.READ"] none).isGranted ⟨.subject, .read⟩
        (.project "R") = true := by
  have owner := isGranted_stating_iff (ownerAndAdministrator.take 3) [] ["SUBJECT.READ"] none
  have administrator := isGranted_stating_iff ownerAndAdministrator [] ["SUBJECT.READ"] none
    ⟨.subject, .read⟩
  refine ⟨by decide, ?_, ?_, ?_⟩
  · refine ((owner ⟨.subject, .read⟩).1 "P" (by decide)).mpr ⟨by decide, Or.inr (Or.inr (Or.inr ?_))⟩
    exact ⟨.projectOwner, rfl, .ownerOnSubject .read, Or.inr List.mem_cons_self⟩
  · rw [Bool.eq_false_iff]
    intro granted
    exact absurd ((owner ⟨.subject, .delete⟩).2.mp granted).1 (by decide)
  · refine (administrator.1 "R" (by decide)).mpr ⟨by decide, Or.inr (Or.inr (Or.inl ?_))⟩
    exact ⟨"a:b:ROLE_SYS_ADMIN", by decide, Or.inr (by decide)⟩

end Claims
end TokenAuthority
