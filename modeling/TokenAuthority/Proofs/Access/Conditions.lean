import Mathlib.Data.List.Perm.Basic
import TokenAuthority.Proofs.Access.Grounds

/-!
# Decisions as conditions

What roles grant on a target, as a condition on the assignments.  One rule is not written as such: a bearer
whose only role in the project is participant is held to the own subject.  Read as a condition it says that
some role of the project has to hold the permission, and that the subject is the bearer's own or some role
of the project is not participant.

In this form the set of roles is nowhere asked to be without anything.  Every condition is one that more
assignments can only help to fulfil, and on a target other than everything it mentions no assignments but
those of global roles and those that the target is about.  So one step covers two questions, what may be
added to claims and what may be left out of them: claims that have of everything a decision looks at as much
as others have are granted what these are granted.
-/

namespace TokenAuthority

namespace Target

/-- The places for which roles count on the target, and the tier that the roles have to be of. -/
def places : Target → List (Tier × String)
  | everything => []
  | organization place => [(.organization, place)]
  | project place => [(.project, place)]
  | organizationOrProject outer place => [(.organization, outer), (.project, place)]
  | subject place _ => [(.project, place)]
  | source place _ _ => [(.project, place)]

/-- An assignment for one of the places of the target, of a role of the tier of the place. -/
def concerns (target : Target) (assignment : Assignment) : Bool :=
  assignment.referent.any fun place => target.places.contains (assignment.role.tier, place)

/-- The subject that the target names. -/
def subject? : Target → Option String
  | subject _ person => some person
  | source _ person _ => some person
  | _ => none

/-- The source that the target names. -/
def source? : Target → Option String
  | source _ _ device => some device
  | _ => none

theorem concerns_of_mem_places {target : Target} {assignment : Assignment} {place : String}
    (refers : assignment.referent = some place)
    (listed : (assignment.role.tier, place) ∈ target.places) : target.concerns assignment = true := by
  rw [concerns, refers]
  exact List.contains_iff_mem.mpr listed

end Target

namespace Claims

variable {claims : Claims} {permission : Permission} {project subject : String}

theorem nodup_rolesOf (assignments : List Assignment) : (rolesOf assignments).Nodup := by
  have distinct : Role.all.Nodup := by decide
  exact distinct.filter _

/-- A role is the only one exactly when it is there and no other is. -/
theorem rolesOf_eq_singleton_iff {role : Role} {assignments : List Assignment} :
    rolesOf assignments = [role] ↔
      role ∈ rolesOf assignments ∧ ∀ other ∈ rolesOf assignments, other = role := by
  constructor
  · intro alone
    rw [alone]
    exact ⟨List.mem_singleton_self role, fun other => List.mem_singleton.mp⟩
  · rintro ⟨present, only⟩
    apply List.perm_singleton.mp
    apply (List.perm_ext_iff_of_nodup (nodup_rolesOf assignments) (List.nodup_singleton role)).mpr
    intro other
    rw [List.mem_singleton]
    constructor
    · exact only other
    · rintro rfl
      exact present

/-- The claims assign a role of the project other than participant. -/
def HoldsOtherRole (claims : Claims) (project : String) : Prop :=
  ∃ assignment ∈ claims.roles, assignment.referent = some project ∧
    assignment.role.tier = .project ∧ assignment.role ≠ .participant

/-- Participant is the only role in the project exactly when it is one and there is no role besides. -/
theorem rolesInProject_eq_participant_iff :
    claims.rolesInProject project = [.participant] ↔
      Role.participant ∈ claims.rolesInProject project ∧ ¬ claims.HoldsOtherRole project := by
  have alone : (∀ role ∈ claims.rolesAt .project project, role = .participant) ↔
      ¬ claims.HoldsOtherRole project := by
    constructor
    · rintro only ⟨assignment, member, refers, isProject, other⟩
      exact other (only _ (mem_rolesAt.mpr ⟨assignment, member, rfl, isProject, refers⟩))
    · intro none role present
      rcases mem_rolesAt.mp present with ⟨assignment, member, rfl, isProject, refers⟩
      by_contra other
      exact none ⟨assignment, member, refers, isProject, other⟩
  exact rolesOf_eq_singleton_iff.trans (and_congr_right' alone)

/-- On a subject some role of the project has to hold the permission, and the subject is the bearer's own or
some role of the project is not participant. -/
theorem rolesGrantOnSubject_iff :
    claims.rolesGrantOnSubject permission project subject = true ↔
      claims.HoldsAt permission .project project ∧
        (claims.subject = some subject ∨ claims.HoldsOtherRole project) := by
  by_cases alone : claims.rolesInProject project = [.participant]
  · have noOther := (rolesInProject_eq_participant_iff.mp alone).2
    have held : claims.HoldsAt permission .project project ↔
        Role.participant.holds permission = true := by
      rw [← anyHolds_rolesAt_iff]
      change anyHolds (claims.rolesInProject project) permission = true ↔ _
      rw [alone, anyHolds, List.any_cons, List.any_nil, Bool.or_false]
    rw [rolesGrantOnSubject, if_pos alone, Bool.and_eq_true, beq_iff_eq, held, or_iff_left noOther]
    exact and_comm
  · have beside : claims.HoldsAt permission .project project → claims.HoldsOtherRole project := by
      rintro ⟨assignment, member, refers, isProject, _⟩
      by_contra noOther
      -- the one role there is would be participant, and so participant would be alone
      have same : assignment.role = .participant := by
        by_contra other
        exact noOther ⟨assignment, member, refers, isProject, other⟩
      exact alone (rolesInProject_eq_participant_iff.mpr
        ⟨mem_rolesAt.mpr ⟨assignment, member, same, rfl, refers⟩, noOther⟩)
    rw [rolesGrantOnSubject, if_neg alone, ← anyHolds_rolesAt_iff]
    refine (and_iff_left_of_imp fun held => Or.inr (beside ?_)).symm
    exact anyHolds_rolesAt_iff.mp held

/-- The claims assign a global role, with whatever referent. -/
def HoldsGlobal (claims : Claims) : Prop :=
  ∃ assignment ∈ claims.assignments, assignment.role.tier = .global

/-- Any global role will do for any permission. -/
theorem hasGlobalAuthority_iff_holdsGlobal :
    claims.hasGlobalAuthority permission = true ↔ claims.HoldsGlobal := by
  have holdsAll : ∀ role : Role, role.tier = .global → role.holds permission = true := by
    intro role isGlobal
    rw [Role.tier_eq_global_iff.mp isGlobal]
    exact Role.entitles_iff_holds.mp (.sysAdmin permission)
  rw [hasGlobalAuthority_iff]
  constructor
  · rintro ⟨assignment, member, isGlobal, _⟩
    exact ⟨assignment, member, isGlobal⟩
  · rintro ⟨assignment, member, isGlobal⟩
    exact ⟨assignment, member, isGlobal, holdsAll assignment.role isGlobal⟩

/-- Of all that a decision on the target looks at, the other claims have what the claims have. -/
structure IsCoveredBy (claims other : Claims) (permission : Permission) (target : Target) : Prop where
  scope : permission.scope ∈ claims.scopes → permission.scope ∈ other.scopes
  machine : claims.isClientCredentials = true → other.isClientCredentials = true
  global : claims.HoldsGlobal → other.HoldsGlobal
  roles : ∀ assignment ∈ claims.roles, target.concerns assignment = true → assignment ∈ other.roles
  /-- Only without a target do the assignments for other places matter. -/
  anywhere : target = .everything → claims.assignments ⊆ other.assignments
  subject : ∀ name ∈ target.subject?, claims.subject = some name → other.subject = some name
  source : ∀ name ∈ target.source?, name ∈ claims.sources → name ∈ other.sources

namespace IsCoveredBy

variable {other : Claims} {target : Target}

theorem exists_assignment (covered : claims.IsCoveredBy other permission target) {tier : Tier}
    {place : String} (listed : (tier, place) ∈ target.places) (suits : Role → Prop)
    (held : ∃ assignment ∈ claims.roles, assignment.referent = some place ∧
      assignment.role.tier = tier ∧ suits assignment.role) :
    ∃ assignment ∈ other.roles, assignment.referent = some place ∧ assignment.role.tier = tier ∧
      suits assignment.role := by
  rcases held with ⟨assignment, member, refers, rfl, suited⟩
  have concerned := Target.concerns_of_mem_places refers listed
  exact ⟨assignment, covered.roles assignment member concerned, refers, rfl, suited⟩

theorem holdsAt (covered : claims.IsCoveredBy other permission target) {tier : Tier} {place : String}
    (listed : (tier, place) ∈ target.places) (holds : claims.HoldsAt permission tier place) :
    other.HoldsAt permission tier place :=
  covered.exists_assignment listed (fun role => role.holds permission = true) holds

theorem holdsOtherRole (covered : claims.IsCoveredBy other permission target)
    (listed : (.project, project) ∈ target.places) (besides : claims.HoldsOtherRole project) :
    other.HoldsOtherRole project :=
  covered.exists_assignment listed (fun role => role ≠ .participant) besides

theorem anyHolds_rolesAt (covered : claims.IsCoveredBy other permission target) {tier : Tier}
    {place : String} (listed : (tier, place) ∈ target.places)
    (holds : anyHolds (claims.rolesAt tier place) permission = true) :
    anyHolds (other.rolesAt tier place) permission = true :=
  anyHolds_rolesAt_iff.mpr (covered.holdsAt listed (anyHolds_rolesAt_iff.mp holds))

theorem rolesGrantOnSubject (covered : claims.IsCoveredBy other permission target)
    (listed : (.project, project) ∈ target.places) (named : subject ∈ target.subject?)
    (granted : claims.rolesGrantOnSubject permission project subject = true) :
    other.rolesGrantOnSubject permission project subject = true := by
  rcases rolesGrantOnSubject_iff.mp granted with ⟨holds, own | besides⟩
  · exact rolesGrantOnSubject_iff.mpr
      ⟨covered.holdsAt listed holds, Or.inl (covered.subject subject named own)⟩
  · exact rolesGrantOnSubject_iff.mpr
      ⟨covered.holdsAt listed holds, Or.inr (covered.holdsOtherRole listed besides)⟩

theorem rolesGrant (covered : claims.IsCoveredBy other permission target)
    (granted : claims.rolesGrant permission target = true) :
    other.rolesGrant permission target = true := by
  cases target with
  | everything =>
      rcases List.any_eq_true.mp granted with ⟨assignment, member, holds⟩
      exact List.any_eq_true.mpr ⟨assignment, covered.anywhere rfl member, holds⟩
  | organization place => exact covered.anyHolds_rolesAt List.mem_cons_self granted
  | project place => exact covered.anyHolds_rolesAt List.mem_cons_self granted
  | organizationOrProject outer place =>
      rcases Bool.or_eq_true_iff.mp granted with byOrganization | byProject
      · exact Bool.or_eq_true_iff.mpr
          (Or.inl (covered.anyHolds_rolesAt List.mem_cons_self byOrganization))
      · exact Bool.or_eq_true_iff.mpr
          (Or.inr (covered.anyHolds_rolesAt (List.mem_of_mem_getLast? rfl) byProject))
  | subject place person => exact covered.rolesGrantOnSubject List.mem_cons_self rfl granted
  | source place person device => exact covered.rolesGrantOnSubject List.mem_cons_self rfl granted

theorem isUnlimited (covered : claims.IsCoveredBy other permission target)
    (unlimited : claims.isUnlimited permission = true) : other.isUnlimited permission = true := by
  simp only [Claims.isUnlimited, Bool.or_eq_true, hasGlobalAuthority_iff_holdsGlobal] at unlimited ⊢
  exact unlimited.imp covered.machine covered.global

theorem reaches (covered : claims.IsCoveredBy other permission target)
    (reached : claims.reaches target = true) : other.reaches target = true := by
  cases target with
  | source place person device =>
      exact List.contains_iff_mem.mpr (covered.source device rfl (List.contains_iff_mem.mp reached))
  | _ => rfl

/-- What claims are granted, claims that cover them are granted as well. -/
theorem isGranted (covered : claims.IsCoveredBy other permission target)
    (granted : claims.isGranted permission target = true) :
    other.isGranted permission target = true := by
  simp only [Claims.isGranted, hasScope, Bool.and_eq_true, Bool.or_eq_true,
    List.contains_iff_mem] at granted ⊢
  rcases granted with ⟨⟨scope, grounds⟩, reached⟩
  exact ⟨⟨covered.scope scope, grounds.imp covered.isUnlimited covered.rolesGrant⟩,
    covered.reaches reached⟩

end IsCoveredBy

end Claims
end TokenAuthority
