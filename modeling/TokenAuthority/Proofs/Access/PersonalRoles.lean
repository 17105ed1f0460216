import Mathlib.Data.List.Basic
import TokenAuthority.Access.Decision
import TokenAuthority.Proofs.Catalog.Rules

/-!
# Personal roles

What claims grant on a subject when their bearer has only personal roles in the project.  The bearer is
held to its own subject exactly when the roles are participant and nothing else.  An inactive participant
holds no permission, yet with it in the set of roles the project decides, and a participant then reaches
every subject of the project.

So the two personal roles together are less restricted than either alone.  All other sets of personal
roles grant nothing beyond the subject of the claims.
-/

namespace TokenAuthority
namespace Claims

/-- The sets of personal roles. -/
theorem rolesOf_of_personal {assignments : List Assignment}
    (personal : ∀ role ∈ rolesOf assignments, role.isPersonal = true) :
    rolesOf assignments ∈ [[], [.participant], [.inactiveParticipant],
      [.participant, .inactiveParticipant]] := by
  unfold rolesOf at personal ⊢
  generalize (fun role : Role => assignments.any fun assignment => assignment.role == role) = assigned
    at personal ⊢
  have staff : ∀ role ∈ Role.all, role.isPersonal = false → assigned role = false := by
    intro role listed notPersonal
    rw [Bool.eq_false_iff]
    intro present
    rw [personal role (List.mem_filter.mpr ⟨listed, present⟩)] at notPersonal
    cases notPersonal
  have split : Role.all = Role.all.filter (fun role => !role.isPersonal) ++
      [.participant, .inactiveParticipant] := rfl
  have none : (Role.all.filter fun role => !role.isPersonal).filter assigned = [] := by
    rw [List.filter_eq_nil_iff]
    intro role member
    have parts := List.mem_filter.mp member
    rw [staff role parts.1 (by simpa using parts.2)]
    exact Bool.false_ne_true
  rw [split, List.filter_append, none, List.nil_append]
  cases participant : assigned .participant <;> cases inactive : assigned .inactiveParticipant <;>
    simp [participant, inactive]

/-- Among personal roles only participant holds permissions. -/
theorem anyHolds_iff_of_personal {roles : List Role} {permission : Permission}
    (personal : ∀ role ∈ roles, role.isPersonal = true) :
    anyHolds roles permission = true ↔
      Role.participant ∈ roles ∧ Role.participant.holds permission = true := by
  unfold anyHolds
  rw [List.any_eq_true]
  constructor
  · rintro ⟨role, member, holds⟩
    have isPersonal := personal role member
    cases role with
    | participant => exact ⟨member, holds⟩
    | inactiveParticipant => cases Role.entitles_of_holds holds
    | _ => cases isPersonal
  · rintro ⟨member, holds⟩
    exact ⟨.participant, member, holds⟩

/-- Claims that are neither those of a machine client nor of a global role are limited. -/
theorem isUnlimited_eq_false {claims : Claims} (person : claims.isClientCredentials = false)
    (noGlobal : claims.globalRoles = []) (permission : Permission) :
    claims.isUnlimited permission = false := by
  rw [isUnlimited, hasGlobalAuthority, person, noGlobal]
  rfl

/-- What personal roles grant on a subject: what participant holds, on the own subject, or on any when the
bearer is an inactive participant besides. -/
theorem isGranted_subject_iff {claims : Claims} (person : claims.isClientCredentials = false)
    (noGlobal : claims.globalRoles = []) {project : String}
    (personal : ∀ role ∈ claims.rolesInProject project, role.isPersonal = true)
    (permission : Permission) (subject : String) :
    claims.isGranted permission (.subject project subject) = true ↔
      claims.hasScope permission = true ∧ Role.participant ∈ claims.rolesInProject project ∧
        Role.participant.holds permission = true ∧
        (claims.subject = some subject ∨
          Role.inactiveParticipant ∈ claims.rolesInProject project) := by
  have alone_iff : claims.rolesInProject project = [.participant] ↔
      Role.participant ∈ claims.rolesInProject project ∧
        Role.inactiveParticipant ∉ claims.rolesInProject project := by
    have sets : claims.rolesInProject project ∈ _ := rolesOf_of_personal personal
    revert sets
    generalize claims.rolesInProject project = roles
    revert roles
    decide
  unfold isGranted
  rw [isUnlimited_eq_false person noGlobal, Bool.false_or, Bool.and_eq_true, Bool.and_eq_true]
  simp only [rolesGrant, reaches, and_true, rolesGrantOnSubject]
  apply and_congr_right
  intro _
  by_cases alone : claims.rolesInProject project = [.participant]
  · have parts := alone_iff.mp alone
    rw [if_pos alone, Bool.and_eq_true, beq_iff_eq]
    constructor
    · rintro ⟨own, holds⟩
      exact ⟨parts.1, holds, Or.inl own⟩
    · rintro ⟨_, holds, own | inactive⟩
      · exact ⟨own, holds⟩
      · exact absurd inactive parts.2
  · rw [if_neg alone, anyHolds_iff_of_personal personal]
    constructor
    · rintro ⟨present, holds⟩
      have inactive : Role.inactiveParticipant ∈ claims.rolesInProject project := by
        by_contra absent
        exact alone (alone_iff.mpr ⟨present, absent⟩)
      exact ⟨present, holds, Or.inr inactive⟩
    · rintro ⟨present, holds, _⟩
      exact ⟨present, holds⟩

/-- A grant on a source is one on its subject. -/
theorem isGranted_subject_of_source {claims : Claims} {permission : Permission}
    {project subject source : String}
    (granted : claims.isGranted permission (.source project subject source) = true) :
    claims.isGranted permission (.subject project subject) = true := by
  unfold isGranted at granted ⊢
  rw [Bool.and_eq_true] at granted ⊢
  exact ⟨granted.1, rfl⟩

/-- A bearer of personal roles, other than the two of them together, is granted what it is granted only on
its own subject and on the sources of that. -/
theorem subject_eq_of_isGranted (claims : Claims) (person : claims.isClientCredentials = false)
    (noGlobal : claims.globalRoles = []) (project subject : String) (permission : Permission)
    (personal : ∀ role ∈ claims.rolesInProject project, role.isPersonal = true)
    (notBoth : ¬ (Role.participant ∈ claims.rolesInProject project ∧
      Role.inactiveParticipant ∈ claims.rolesInProject project)) :
    (claims.isGranted permission (.subject project subject) = true → claims.subject = some subject) ∧
      ∀ source, claims.isGranted permission (.source project subject source) = true →
        claims.subject = some subject := by
  have onSubject : claims.isGranted permission (.subject project subject) = true →
      claims.subject = some subject := by
    intro granted
    rcases (isGranted_subject_iff person noGlobal personal permission subject).mp granted with
      ⟨_, present, _, own | inactive⟩
    · exact own
    · exact absurd ⟨present, inactive⟩ notBoth
  exact ⟨onSubject, fun source granted => onSubject (isGranted_subject_of_source granted)⟩

/-- Claims of a subject that may be read, with roles in one project. -/
def inProject (roles : List Role) : Claims where
  subject := some "S"
  roles := roles.map fun role => Assignment.within role "P"
  scopes := ["SUBJECT.READ"]
  sources := ["device"]

/-- A participant reads its own subject. -/
theorem subject_eq_of_isGranted_participant :
    (inProject [.participant]).isGranted ⟨.subject, .read⟩ (.source "P" "S" "device") = true ∧
      ((inProject [.participant]).isGranted ⟨.subject, .read⟩ (.subject "P" "S") = true →
        (inProject [.participant]).subject = some "S") ∧
      ∀ source, (inProject [.participant]).isGranted ⟨.subject, .read⟩ (.source "P" "S" source) = true →
        (inProject [.participant]).subject = some "S" :=
  ⟨by decide, subject_eq_of_isGranted (inProject [.participant]) (by decide) (by decide) "P" "S"
    ⟨.subject, .read⟩ (by decide) (by decide)⟩

/-- A participant that is an inactive participant as well reads another subject. -/
theorem isGranted_otherSubject :
    (inProject [.participant, .inactiveParticipant]).isClientCredentials = false ∧
      (inProject [.participant, .inactiveParticipant]).globalRoles = [] ∧
      (∀ role ∈ (inProject [.participant, .inactiveParticipant]).rolesInProject "P",
        role.isPersonal = true) ∧
      (inProject [.participant, .inactiveParticipant]).isGranted ⟨.subject, .read⟩
        (.subject "P" "other") = true ∧
      (inProject [.participant, .inactiveParticipant]).subject ≠ some "other" := by
  decide

end Claims
end TokenAuthority
