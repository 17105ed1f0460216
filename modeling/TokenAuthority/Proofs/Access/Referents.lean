import Mathlib.Data.List.Basic
import TokenAuthority.Proofs.Access.PersonalRoles

/-!
# What an assignment refers to

An assignment of a project's or an organization's role counts only for the project or the organization that
it refers to.  An assignment of a global role counts everywhere.  It is not meant to refer to anything, but
it can be made to, and what it then refers to is not looked at.

So claims that hold no global role by an authority or without a referent are granted a permission on a place
only through an assignment for that very place, or through one of a global role that refers to some place.
-/

namespace TokenAuthority

theorem Role.mem_all (role : Role) : role ∈ Role.all := by
  cases role <;> decide

namespace Claims

/-! ## Roles as assignments -/

theorem mem_rolesOf {role : Role} {assignments : List Assignment} :
    role ∈ rolesOf assignments ↔ ∃ assignment ∈ assignments, assignment.role = role := by
  simp only [rolesOf, List.mem_filter, Role.mem_all, true_and, List.any_eq_true, beq_iff_eq]

variable {claims : Claims} {permission : Permission}

theorem mem_rolesAt {role : Role} {tier : Tier} {referent : String} :
    role ∈ claims.rolesAt tier referent ↔
      ∃ assignment ∈ claims.roles, assignment.role = role ∧ role.tier = tier ∧
        assignment.referent = some referent := by
  simp only [rolesAt, mem_rolesOf, List.mem_filter, Bool.and_eq_true, beq_iff_eq]
  constructor
  · rintro ⟨assignment, ⟨member, sameTier, refers⟩, rfl⟩
    exact ⟨assignment, member, rfl, sameTier, refers⟩
  · rintro ⟨assignment, member, rfl, sameTier, refers⟩
    exact ⟨assignment, ⟨member, sameTier, refers⟩, rfl⟩

/-- A global role that holds the permission may come from any assignment. -/
theorem hasGlobalAuthority_iff :
    claims.hasGlobalAuthority permission = true ↔
      ∃ assignment ∈ claims.assignments, assignment.role.tier = .global ∧
        assignment.role.holds permission = true := by
  simp only [hasGlobalAuthority, globalRoles, List.any_eq_true, List.mem_filter, mem_rolesOf, beq_iff_eq]
  constructor
  · rintro ⟨_, ⟨⟨assignment, member, rfl⟩, isGlobal⟩, holds⟩
    exact ⟨assignment, member, isGlobal, holds⟩
  · rintro ⟨assignment, member, isGlobal, holds⟩
    exact ⟨assignment.role, ⟨⟨assignment, member, rfl⟩, isGlobal⟩, holds⟩

/-- On a target that needs nothing beyond roles, the scope is needed, and then either an unlimited bearer or
a role. -/
theorem isGranted_iff_of_reaches {target : Target} (reached : claims.reaches target = true) :
    claims.isGranted permission target = true ↔
      claims.hasScope permission = true ∧
        (claims.isUnlimited permission = true ∨ claims.rolesGrant permission target = true) := by
  rw [isGranted, reached, Bool.and_true, Bool.and_eq_true, Bool.or_eq_true]

/-- Some assignment with the given referent gives a role of the tier that holds the permission. -/
def HoldsAt (claims : Claims) (permission : Permission) (tier : Tier) (referent : String) : Prop :=
  ∃ assignment ∈ claims.roles, assignment.referent = some referent ∧ assignment.role.tier = tier ∧
    assignment.role.holds permission = true

/-- Some assignment gives a global role that holds the permission, although it refers to a place. -/
def HoldsBeyond (claims : Claims) (permission : Permission) : Prop :=
  ∃ assignment ∈ claims.roles, (∃ place, assignment.referent = some place) ∧
    assignment.role.tier = .global ∧ assignment.role.holds permission = true

theorem anyHolds_rolesAt_iff {tier : Tier} {referent : String} :
    anyHolds (claims.rolesAt tier referent) permission = true ↔
      claims.HoldsAt permission tier referent := by
  simp only [anyHolds, List.any_eq_true, mem_rolesAt, HoldsAt]
  constructor
  · rintro ⟨role, ⟨assignment, member, rfl, sameTier, refers⟩, holds⟩
    exact ⟨assignment, member, refers, sameTier, holds⟩
  · rintro ⟨assignment, member, refers, sameTier, holds⟩
    exact ⟨assignment.role, ⟨assignment, member, rfl, sameTier, refers⟩, holds⟩

/-- Without a global role from an authority or a bare assignment, what is unlimited about the claims of a
person comes from global roles that refer to a place. -/
theorem isUnlimited_iff (person : claims.isClientCredentials = false)
    (noAuthority : ∀ authority ∈ claims.authorities, ∀ role, Role.ofName? authority = some role →
      role.tier ≠ .global)
    (noBare : ∀ assignment ∈ claims.roles, assignment.referent = none →
      assignment.role.tier ≠ .global) :
    claims.isUnlimited permission = true ↔ claims.HoldsBeyond permission := by
  rw [isUnlimited, person, Bool.false_or, hasGlobalAuthority_iff]
  simp only [assignments, List.mem_append, List.mem_map, List.mem_filterMap]
  constructor
  · rintro ⟨assignment, held | ⟨_, ⟨authority, listed, named⟩, rfl⟩, isGlobal, holds⟩
    · cases refers : assignment.referent with
      | none => exact absurd isGlobal (noBare assignment held refers)
      | some place => exact ⟨assignment, held, ⟨place, refers⟩, isGlobal, holds⟩
    · exact absurd isGlobal (noAuthority authority listed _ named)
  · rintro ⟨assignment, held, _, isGlobal, holds⟩
    exact ⟨assignment, Or.inl held, isGlobal, holds⟩

/-- What roles grant on a subject they hold in its project. -/
theorem holdsAt_of_rolesGrantOnSubject {project subject : String}
    (granted : claims.rolesGrantOnSubject permission project subject = true) :
    claims.HoldsAt permission .project project := by
  apply anyHolds_rolesAt_iff.mp
  unfold rolesGrantOnSubject at granted
  split at granted
  next alone =>
    rw [Bool.and_eq_true] at granted
    have participant : claims.rolesAt .project project = [.participant] := alone
    rw [participant, anyHolds, List.any_cons, granted.2, Bool.true_or]
  · exact granted

/-- A person without a global role from an authority or a bare assignment is granted a permission on a
project or an organization exactly by an assignment for it, or by one of a global role that refers to some
place, whichever this is; and on a subject or a source only by such an assignment for its project. -/
theorem holdsAt_or_holdsBeyond_of_isGranted (claims : Claims)
    (person : claims.isClientCredentials = false)
    (noAuthority : ∀ authority ∈ claims.authorities, ∀ role, Role.ofName? authority = some role →
      role.tier ≠ .global)
    (noBare : ∀ assignment ∈ claims.roles, assignment.referent = none →
      assignment.role.tier ≠ .global)
    (permission : Permission) :
    (∀ project, claims.isGranted permission (.project project) = true ↔
      claims.hasScope permission = true ∧
        (claims.HoldsAt permission .project project ∨ claims.HoldsBeyond permission)) ∧
    (∀ project subject, claims.isGranted permission (.subject project subject) = true →
      claims.HoldsAt permission .project project ∨ claims.HoldsBeyond permission) ∧
    (∀ project subject source,
      claims.isGranted permission (.source project subject source) = true →
        claims.HoldsAt permission .project project ∨ claims.HoldsBeyond permission) ∧
    (∀ organization, claims.isGranted permission (.organization organization) = true ↔
      claims.hasScope permission = true ∧
        (claims.HoldsAt permission .organization organization ∨ claims.HoldsBeyond permission)) := by
  have unlimited_iff : claims.isUnlimited permission = true ↔ claims.HoldsBeyond permission :=
    isUnlimited_iff person noAuthority noBare
  have onPlace : ∀ target, claims.reaches target = true →
      (claims.isGranted permission target = true ↔ claims.hasScope permission = true ∧
        (claims.rolesGrant permission target = true ∨ claims.HoldsBeyond permission)) := by
    intro target reached
    rw [isGranted, reached, Bool.and_true, Bool.and_eq_true, Bool.or_eq_true, unlimited_iff,
      or_comm (a := claims.HoldsBeyond permission)]
  have onSubject : ∀ project subject, claims.isGranted permission (.subject project subject) = true →
      claims.HoldsAt permission .project project ∨ claims.HoldsBeyond permission := by
    intro project subject granted
    exact ((onPlace (.subject project subject) rfl).mp granted).2.imp_left
      holdsAt_of_rolesGrantOnSubject
  refine ⟨fun project => ?_, onSubject, fun project subject source granted => ?_,
    fun organization => ?_⟩
  · rw [onPlace (.project project) rfl, ← anyHolds_rolesAt_iff]
    rfl
  · exact onSubject project subject (isGranted_subject_of_source granted)
  · rw [onPlace (.organization organization) rfl, ← anyHolds_rolesAt_iff]
    rfl

/-- An owner reads the subjects of the project by the assignment for it. -/
theorem holdsAt_or_holdsBeyond_of_isGranted_owner :
    (inProject [.projectOwner]).isGranted ⟨.subject, .read⟩ (.source "P" "other" "device") = true ∧
      ((inProject [.projectOwner]).HoldsAt ⟨.subject, .read⟩ .project "P" ∨
        (inProject [.projectOwner]).HoldsBeyond ⟨.subject, .read⟩) :=
  ⟨by decide, (holdsAt_or_holdsBeyond_of_isGranted (inProject [.projectOwner]) (by decide) (by decide)
    (by decide) ⟨.subject, .read⟩).2.2.1 "P" "other" "device" (by decide)⟩

/-- Claims whose one role claim gives a global role and refers to a project. -/
def scopedAdministrator : Claims :=
  { scopes := ["SUBJECT.READ"], sources := ["device"] : Claims }.addRoleClaims ["P:SYS_ADMIN"]

/-- A global role that refers to a project is granted its permissions on every place, though no assignment
refers to that place. -/
theorem isGranted_elsewhere_scopedAdministrator :
    scopedAdministrator.isClientCredentials = false ∧
      (∀ authority ∈ scopedAdministrator.authorities, ∀ role,
        Role.ofName? authority = some role → role.tier ≠ .global) ∧
      (∀ assignment ∈ scopedAdministrator.roles, assignment.referent = none →
        assignment.role.tier ≠ .global) ∧
      (∀ target ∈ [Target.project "Q", .subject "Q" "S", .source "Q" "S" "device", .organization "Q"],
        scopedAdministrator.isGranted ⟨.subject, .read⟩ target = true) ∧
      ∀ assignment ∈ scopedAdministrator.roles, assignment.referent ≠ some "Q" := by
  have roles : scopedAdministrator.roles = [⟨.sysAdmin, some "P"⟩] := by decide +kernel
  refine ⟨by decide +kernel, ?_, ?_, by decide +kernel, ?_⟩
  · intro authority listed
    cases listed
  · rw [roles]
    decide
  · rw [roles]
    decide

end Claims
end TokenAuthority
