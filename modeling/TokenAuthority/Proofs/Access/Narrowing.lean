import TokenAuthority.Proofs.Access.Referents
import TokenAuthority.Proofs.Token.Scopes

/-!
# Narrowed scopes and decisions

The roles of a person are looked at twice.  When a token is made, a scope is kept if some role of the
profile holds its permission, and nobody asks what the role refers to.  When a permission is checked, tiers,
referents and the own subject of a participant count as well.  The first look is the coarser one: whatever
grants a permission to a person is an assignment whose role holds it, and such a scope was kept.

Hence narrowing takes nothing away that could have been used.  It does not leave anything that cannot be used
either, since the check without a target asks for no more than what was asked when the token was made.

The claims into which a profile is folded must not have roles of their own, because the narrowing does not
know of these, and they must not be those of a machine client, whose scopes need no role.
-/

namespace TokenAuthority
namespace Claims

variable {claims : Claims} {permission : Permission} {target : Target}

theorem mem_assignments_of_mem_roles {assignment : Assignment} (held : assignment ∈ claims.roles) :
    assignment ∈ claims.assignments :=
  List.mem_append_left _ held

theorem HoldsAt.exists_assignment {tier : Tier} {referent : String}
    (holdsAt : claims.HoldsAt permission tier referent) :
    ∃ assignment ∈ claims.assignments, assignment.role.holds permission = true := by
  rcases holdsAt with ⟨assignment, held, _, _, holds⟩
  exact ⟨assignment, mem_assignments_of_mem_roles held, holds⟩

/-- What is unlimited about the claims of a person comes from an assignment. -/
theorem exists_assignment_of_isUnlimited (person : claims.isClientCredentials = false)
    (unlimited : claims.isUnlimited permission = true) :
    ∃ assignment ∈ claims.assignments, assignment.role.holds permission = true := by
  rw [isUnlimited, person, Bool.false_or, hasGlobalAuthority_iff] at unlimited
  rcases unlimited with ⟨assignment, member, _, holds⟩
  exact ⟨assignment, member, holds⟩

/-- What roles grant, on any target, comes from an assignment. -/
theorem exists_assignment_of_rolesGrant (granted : claims.rolesGrant permission target = true) :
    ∃ assignment ∈ claims.assignments, assignment.role.holds permission = true := by
  cases target with
  | everything =>
      rw [rolesGrant, List.any_eq_true] at granted
      exact granted
  | organization place => exact (anyHolds_rolesAt_iff.mp granted).exists_assignment
  | project place => exact (anyHolds_rolesAt_iff.mp granted).exists_assignment
  | organizationOrProject outer place =>
      rcases Bool.or_eq_true_iff.mp granted with byOrganization | byProject
      · exact (anyHolds_rolesAt_iff.mp byOrganization).exists_assignment
      · exact (anyHolds_rolesAt_iff.mp byProject).exists_assignment
  | subject place person => exact (holdsAt_of_rolesGrantOnSubject granted).exists_assignment
  | source place person device => exact (holdsAt_of_rolesGrantOnSubject granted).exists_assignment

/-- Scopes enter a decision only by the one of the permission. -/
theorem isGranted_with_scopes (claims : Claims) (scopes : List String) (permission : Permission)
    (target : Target) :
    ({ claims with scopes } : Claims).isGranted permission target =
      (scopes.contains permission.scope &&
        (claims.isUnlimited permission || claims.rolesGrant permission target) &&
          claims.reaches target) := by
  cases target <;> rfl

section

variable {base : Claims} {profile : Profile}

/-- The effective roles of a profile are those of the assignments that it brings. -/
theorem mem_effectiveRoles_iff (noRoles : base.roles = []) (noAuthorities : base.authorities = [])
    {role : Role} :
    role ∈ profile.effectiveRoles ↔
      ∃ assignment ∈ (base.withProfile profile).assignments, assignment.role = role := by
  have roles : (base.withProfile profile).roles =
      OrderedSet.insertAll Assignment.compare [] profile.roles := by
    rw [← noRoles]
    rfl
  have authorities : (base.withProfile profile).authorities = profile.authorities := by
    change base.authorities ++ profile.authorities = profile.authorities
    rw [noAuthorities, List.nil_append]
  rw [Profile.effectiveRoles, mem_rolesOf, assignments, roles, authorities]
  simp only [List.mem_append, OrderedSet.mem_insertAll, List.not_mem_nil, or_false]

/-- The scope of a permission is kept exactly when an assignment of the profile holds it. -/
theorem isGrantable_scope_iff (noRoles : base.roles = []) (noAuthorities : base.authorities = []) :
    isGrantable profile.effectiveRoles permission.scope = true ↔
      ∃ assignment ∈ (base.withProfile profile).assignments,
        assignment.role.holds permission = true := by
  simp only [isGrantable_scope, mem_effectiveRoles_iff noRoles noAuthorities]
  constructor
  · rintro ⟨_, ⟨assignment, member, rfl⟩, holds⟩
    exact ⟨assignment, member, holds⟩
  · rintro ⟨assignment, member, holds⟩
    exact ⟨assignment.role, ⟨assignment, member, rfl⟩, holds⟩

/-- Where roles grant a permission to a person, narrowing keeps its scope. -/
theorem contains_scopes_enhance (noRoles : base.roles = []) (noAuthorities : base.authorities = [])
    (person : base.isClientCredentials = false)
    (granted : ((base.withProfile profile).isUnlimited permission ||
      (base.withProfile profile).rolesGrant permission target) = true) :
    (base.enhance profile).scopes.contains permission.scope =
      base.scopes.contains permission.scope := by
  have held : isGrantable profile.effectiveRoles permission.scope = true := by
    apply (isGrantable_scope_iff noRoles noAuthorities).mpr
    rcases Bool.or_eq_true_iff.mp granted with unlimited | byRoles
    · exact exists_assignment_of_isUnlimited person unlimited
    · exact exists_assignment_of_rolesGrant byRoles
  apply Bool.eq_iff_iff.mpr
  rw [List.contains_iff_mem, List.contains_iff_mem, mem_scopes_enhance]
  exact and_iff_left held

/-- A scope that is kept names a permission that is granted without a target. -/
theorem isGranted_everything_of_mem_enhance (noRoles : base.roles = [])
    (noAuthorities : base.authorities = []) {scope : String}
    (kept : scope ∈ (base.enhance profile).scopes) :
    ∃ permission, Permission.ofScope scope = .ok permission ∧
      (base.enhance profile).isGranted permission .everything = true := by
  have grantable := (mem_scopes_enhance.mp kept).2
  rcases isGrantable_iff.mp grantable with ⟨permission, named, _⟩
  have spelled := Permission.scope_of_ofScope named
  subst spelled
  have holds : (base.withProfile profile).rolesGrant permission .everything = true :=
    List.any_eq_true.mpr ((isGrantable_scope_iff noRoles noAuthorities).mp grantable)
  have decision := isGranted_with_scopes (base.withProfile profile) (base.enhance profile).scopes
    permission .everything
  rw [List.contains_iff_mem.mpr kept, holds, Bool.or_true] at decision
  exact ⟨permission, named, decision⟩

end

/-- A profile is folded into claims without roles, with their scopes narrowed or with all of them: every
permission is granted on the same targets.  The scopes that are kept stand in their order, and each of them
names a permission that is granted somewhere. -/
theorem isGranted_enhance (base : Claims) (profile : Profile) (noRoles : base.roles = [])
    (noAuthorities : base.authorities = []) (person : base.isClientCredentials = false) :
    (∀ permission target, (base.enhance profile).isGranted permission target =
      (base.withProfile profile).isGranted permission target) ∧
    (base.enhance profile).scopes.Sublist base.scopes ∧
    ∀ scope ∈ (base.enhance profile).scopes, ∃ permission, Permission.ofScope scope = .ok permission ∧
      (base.enhance profile).isGranted permission .everything = true := by
  refine ⟨?_, base.sublist_scopes_enhance profile, ?_⟩
  · intro permission target
    have narrowed := isGranted_with_scopes (base.withProfile profile) (base.enhance profile).scopes
      permission target
    have full := isGranted_with_scopes (base.withProfile profile) base.scopes permission target
    -- the scopes matter only where roles grant the permission, and there they agree
    cases granted : (base.withProfile profile).isUnlimited permission ||
        (base.withProfile profile).rolesGrant permission target with
    | false =>
        rw [granted, Bool.and_false] at narrowed full
        exact narrowed.trans full.symm
    | true =>
        rw [contains_scopes_enhance noRoles noAuthorities person granted] at narrowed
        exact narrowed.trans full.symm
  · intro scope kept
    exact isGranted_everything_of_mem_enhance noRoles noAuthorities kept

/-- Five scopes are requested, one of them outside the catalog. -/
def requestOfFive : Claims where
  scopes := ["SUBJECT.READ", "PROJECT.DELETE", "openid", "MEASUREMENT.CREATE", "SUBJECT.DELETE"]
  grantType := some "authorization_code"

/-- A participant of one project who is an analyst in another, with authorities that add nothing. -/
def participantAndAnalyst : Profile where
  subject := "S"
  username := "user"
  roles := [.within .participant "P", .within .projectAnalyst "Q"]
  authorities := ["ROLE_USER", "ROLE_INACTIVE_PARTICIPANT"]
  sources := ["device"]

/-- Two of five scopes are kept, and with them the participant reads no more subjects than with all five. -/
theorem isGranted_enhance_participantAndAnalyst :
    (requestOfFive.enhance participantAndAnalyst).scopes = ["SUBJECT.READ", "MEASUREMENT.CREATE"] ∧
      (∀ permission target, (requestOfFive.enhance participantAndAnalyst).isGranted permission target =
        (requestOfFive.withProfile participantAndAnalyst).isGranted permission target) ∧
      (requestOfFive.enhance participantAndAnalyst).scopes.Sublist requestOfFive.scopes ∧
      ∀ scope ∈ (requestOfFive.enhance participantAndAnalyst).scopes,
        ∃ permission, Permission.ofScope scope = .ok permission ∧
          (requestOfFive.enhance participantAndAnalyst).isGranted permission .everything = true :=
  ⟨by decide +kernel, isGranted_enhance requestOfFive participantAndAnalyst rfl rfl (by decide)⟩

end Claims
end TokenAuthority
