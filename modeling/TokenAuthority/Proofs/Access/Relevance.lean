import TokenAuthority.Proofs.Access.Conditions

/-!
# What a decision looks at

A check against everything asks all assignments.  Any other check looks at little of the claims: the scope
of the permission, whether the bearer is a machine client, whether there is a global role, the assignments
for the places of the target, and, where the target names them, the subject and one source.  Claims that
agree on these get the same decision, whatever else they say.

The claims can therefore be cut down to what is looked at.  Roles in other places, bare roles below the
global tier, other authorities, scopes and sources, and all that is said of users, clients, issuers,
audiences, times and tokens can be left out or replaced, one by one or all at once.
-/

namespace TokenAuthority
namespace Claims

/-- Two claims agree on all that a decision on the target looks at, unless this is everything. -/
structure AgreesOn (left right : Claims) (permission : Permission) (target : Target) : Prop where
  scope : permission.scope ∈ left.scopes ↔ permission.scope ∈ right.scopes
  machine : left.isClientCredentials = right.isClientCredentials
  global : left.HoldsGlobal ↔ right.HoldsGlobal
  roles : ∀ assignment, target.concerns assignment = true →
    (assignment ∈ left.roles ↔ assignment ∈ right.roles)
  subject : ∀ name ∈ target.subject?, left.subject = some name ↔ right.subject = some name
  source : ∀ name ∈ target.source?, name ∈ left.sources ↔ name ∈ right.sources

variable {left right claims : Claims} {permission : Permission} {target : Target}

theorem AgreesOn.symm (agree : left.AgreesOn right permission target) :
    right.AgreesOn left permission target where
  scope := agree.scope.symm
  machine := agree.machine.symm
  global := agree.global.symm
  roles := fun assignment concerned => (agree.roles assignment concerned).symm
  subject := fun name named => (agree.subject name named).symm
  source := fun name named => (agree.source name named).symm

/-- Agreement is to be covered by each other. -/
theorem AgreesOn.isCoveredBy (agree : left.AgreesOn right permission target)
    (limited : target ≠ .everything) : left.IsCoveredBy right permission target where
  scope := agree.scope.mp
  machine := fun machine => agree.machine ▸ machine
  global := agree.global.mp
  roles := fun assignment held concerned => (agree.roles assignment concerned).mp held
  anywhere := fun everything => absurd everything limited
  subject := fun name named => (agree.subject name named).mp
  source := fun name named => (agree.source name named).mp

theorem AgreesOn.isGranted_eq (agree : left.AgreesOn right permission target)
    (limited : target ≠ .everything) :
    left.isGranted permission target = right.isGranted permission target :=
  Bool.eq_iff_iff.mpr
    ⟨(agree.isCoveredBy limited).isGranted, (agree.symm.isCoveredBy limited).isGranted⟩

/-! ## Claims cut down -/

/-- A role that acts everywhere. -/
def isGlobalRole (role : Role) : Bool :=
  role.tier == .global

/-- The claims without all that a decision on the target does not look at. -/
def cutTo (claims : Claims) (permission : Permission) (target : Target) : Claims where
  subject := claims.subject.filter fun name => target.subject? == some name
  roles := claims.roles.filter fun assignment =>
    isGlobalRole assignment.role || target.concerns assignment
  authorities := claims.authorities.filter fun authority => (Role.ofName? authority).any isGlobalRole
  scopes := claims.scopes.filter fun scope => scope == permission.scope
  sources := claims.sources.filter fun source => target.source? == some source
  grantType := claims.grantType.filter fun name => name == clientCredentials

/-- The authorities and the assignments that make a global role are kept. -/
theorem holdsGlobal_cutTo :
    (claims.cutTo permission target).HoldsGlobal ↔ claims.HoldsGlobal := by
  simp only [HoldsGlobal, assignments, cutTo, List.mem_append, List.mem_map, List.mem_filterMap,
    List.mem_filter]
  constructor
  · rintro ⟨assignment, ⟨held, _⟩ | ⟨role, ⟨authority, ⟨listed, _⟩, named⟩, same⟩, isGlobal⟩
    · exact ⟨assignment, Or.inl held, isGlobal⟩
    · exact ⟨assignment, Or.inr ⟨role, ⟨authority, listed, named⟩, same⟩, isGlobal⟩
  · rintro ⟨assignment, held | ⟨role, ⟨authority, listed, named⟩, rfl⟩, isGlobal⟩
    · have kept : isGlobalRole assignment.role = true := beq_iff_eq.mpr isGlobal
      exact ⟨assignment, Or.inl ⟨held, Bool.or_eq_true_iff.mpr (Or.inl kept)⟩, isGlobal⟩
    · have kept : (Role.ofName? authority).any isGlobalRole = true := by
        rw [named]
        exact beq_iff_eq.mpr isGlobal
      exact ⟨.bare role, Or.inr ⟨role, ⟨authority, ⟨listed, kept⟩, named⟩, rfl⟩, isGlobal⟩

/-- A name that is asked for survives the cut. -/
theorem filter_eq_some_iff_of_asked {asked given : Option String} {name : String}
    (isAsked : name ∈ asked) :
    (given.filter fun other => asked == some other) = some name ↔ given = some name := by
  rw [Option.filter_eq_some_iff, beq_iff_eq]
  exact and_iff_left isAsked

theorem agreesOn_cutTo (claims : Claims) (permission : Permission) (target : Target) :
    (claims.cutTo permission target).AgreesOn claims permission target where
  scope := by
    rw [cutTo, List.mem_filter, beq_self_eq_true]
    exact and_iff_left rfl
  machine := by
    apply Bool.eq_iff_iff.mpr
    rw [isClientCredentials, isClientCredentials, cutTo, beq_iff_eq, beq_iff_eq,
      Option.filter_eq_some_iff, beq_self_eq_true]
    exact and_iff_left rfl
  global := holdsGlobal_cutTo
  roles := by
    intro assignment concerned
    rw [cutTo, List.mem_filter, concerned, Bool.or_true]
    exact and_iff_left rfl
  subject := fun name named => filter_eq_some_iff_of_asked named
  source := by
    intro name named
    rw [cutTo, List.mem_filter, beq_iff_eq]
    exact and_iff_left named

/-- On every target but everything, claims that agree on what is looked at get the same decision, and so
claims get the one that they get when they are cut down to it. -/
theorem isGranted_congr (permission : Permission) (target : Target) (limited : target ≠ .everything) :
    (∀ left right : Claims, left.AgreesOn right permission target →
      left.isGranted permission target = right.isGranted permission target) ∧
    ∀ claims : Claims,
      (claims.cutTo permission target).isGranted permission target = claims.isGranted permission target :=
  ⟨fun _ _ agree => agree.isGranted_eq limited,
    fun claims => (claims.agreesOn_cutTo permission target).isGranted_eq limited⟩

/-- A participant with a role of the staff elsewhere, and with much that is not looked at. -/
def participantWithMore : Claims :=
  { inProject [.participant] with
    username := some "user"
    authorities := ["ROLE_PROJECT_ADMIN", "ROLE_JANITOR"]
    scopes := ["openid", "SUBJECT.READ", "SUBJECT.DELETE"]
    sources := ["other", "device"]
    grantType := some "password"
    audience := ["res_Gateway"]
    expiresAt := some ⟨0, 0⟩ }.addRoleClaims ["Q:PROJECT_OWNER", "PROJECT_ADMIN", "P:ORGANIZATION_ADMIN"]

/-- None of it lets the participant read another subject, or keeps it from reading the own device. -/
theorem isGranted_congr_participantWithMore :
    Target.source "P" "S" "device" ≠ .everything ∧ Target.subject "P" "other" ≠ .everything ∧
      participantWithMore.AgreesOn (inProject [.participant]) ⟨.subject, .read⟩
        (.source "P" "S" "device") ∧
      participantWithMore.isGranted ⟨.subject, .read⟩ (.source "P" "S" "device") = true ∧
      participantWithMore.isGranted ⟨.subject, .read⟩ (.subject "P" "other") = false := by
  have onDevice := isGranted_congr ⟨.subject, .read⟩ (.source "P" "S" "device") (by decide)
  have onOther := isGranted_congr ⟨.subject, .read⟩ (.subject "P" "other") (by decide)
  have cut : participantWithMore.cutTo ⟨.subject, .read⟩ (.source "P" "S" "device") =
      inProject [.participant] := by
    decide +kernel
  have agree : participantWithMore.AgreesOn (inProject [.participant]) ⟨.subject, .read⟩
      (.source "P" "S" "device") := by
    rw [← cut]
    exact (participantWithMore.agreesOn_cutTo _ _).symm
  refine ⟨by decide, by decide, agree, ?_, ?_⟩
  · rw [onDevice.1 participantWithMore (inProject [.participant]) agree]
    decide
  · rw [← onOther.2]
    decide +kernel

end Claims
end TokenAuthority
