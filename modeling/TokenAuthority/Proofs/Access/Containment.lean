import Mathlib.Logic.Relation
import Mathlib.Order.Defs.PartialOrder
import TokenAuthority.Proofs.Access.Narrowing

/-!
# Targets within targets

A source lies in its subject, a subject in its project, and a project or an organization in the check that
asks for either of the two, which lies in everything.  This makes the targets a partial order, and what is
granted on a target is granted on every wider one.

Three different things let a grant pass to the wider target.  The scope and an unlimited bearer do not look
at the target at all.  The role of a participant who is held to the own subject is one of the roles of the
project.  Any assignment that counts for a place counts for everything.
-/

namespace TokenAuthority

namespace Target

/-- A target lies directly in a wider one. -/
inductive LiesIn : Target → Target → Prop
  | source (place person device : String) : LiesIn (source place person device) (subject place person)
  | subject (place person : String) : LiesIn (subject place person) (project place)
  | project (outer place : String) : LiesIn (project place) (organizationOrProject outer place)
  | organization (outer place : String) :
      LiesIn (organization outer) (organizationOrProject outer place)
  | organizationOrProject (outer place : String) :
      LiesIn (organizationOrProject outer place) everything

/-- How many steps at most lead to a target from a narrower one. -/
def breadth : Target → Nat
  | source _ _ _ => 0
  | subject _ _ => 1
  | project _ => 2
  | organization _ => 2
  | organizationOrProject _ _ => 3
  | everything => 4

theorem LiesIn.breadth_lt {inner outer : Target} (step : LiesIn inner outer) :
    inner.breadth < outer.breadth := by
  cases step with
  | source place person device => exact Nat.zero_lt_one
  | subject place person => exact Nat.lt_add_one 1
  | project outer place => exact Nat.lt_add_one 2
  | organization outer place => exact Nat.lt_add_one 2
  | organizationOrProject outer place => exact Nat.lt_add_one 3

theorem eq_or_breadth_lt {inner outer : Target} (within : Relation.ReflTransGen LiesIn inner outer) :
    inner = outer ∨ inner.breadth < outer.breadth := by
  induction within with
  | refl => exact Or.inl rfl
  | tail _ step ih =>
      right
      rcases ih with rfl | narrower
      · exact step.breadth_lt
      · exact Nat.lt_trans narrower step.breadth_lt

/-- A target is at most another one when it lies in it, over any number of steps. -/
instance : PartialOrder Target where
  le := Relation.ReflTransGen LiesIn
  le_refl _ := Relation.ReflTransGen.refl
  le_trans _ _ _ := Relation.ReflTransGen.trans
  le_antisymm inner outer there back := by
    rcases eq_or_breadth_lt there with same | narrower
    · exact same
    · rcases eq_or_breadth_lt back with same | wider
      · exact same.symm
      · exact absurd wider (Nat.lt_asymm narrower)

theorem LiesIn.le {inner outer : Target} (step : LiesIn inner outer) : inner ≤ outer :=
  Relation.ReflTransGen.single step

end Target

namespace Claims

variable {claims : Claims} {permission : Permission} {inner outer : Target}

/-- A grant passes to another target if roles that grant the one grant the other. -/
theorem isGranted_of_rolesGrant_imp
    (wider : claims.rolesGrant permission inner = true → claims.rolesGrant permission outer = true)
    (reached : claims.reaches outer = true) (granted : claims.isGranted permission inner = true) :
    claims.isGranted permission outer = true := by
  simp only [isGranted, Bool.and_eq_true, Bool.or_eq_true] at granted ⊢
  exact ⟨⟨granted.1.1, granted.1.2.imp_right wider⟩, reached⟩

/-- What is granted on a target is granted on the one that it directly lies in. -/
theorem isGranted_of_liesIn (step : inner.LiesIn outer)
    (granted : claims.isGranted permission inner = true) :
    claims.isGranted permission outer = true := by
  cases step with
  | source place person device => exact isGranted_subject_of_source granted
  | subject place person =>
      refine isGranted_of_rolesGrant_imp ?_ rfl granted
      intro onSubject
      exact anyHolds_rolesAt_iff.mpr (holdsAt_of_rolesGrantOnSubject onSubject)
  | project outer place =>
      refine isGranted_of_rolesGrant_imp ?_ rfl granted
      intro byProject
      exact Bool.or_eq_true_iff.mpr (Or.inr byProject)
  | organization outer place =>
      refine isGranted_of_rolesGrant_imp ?_ rfl granted
      intro byOrganization
      exact Bool.or_eq_true_iff.mpr (Or.inl byOrganization)
  | organizationOrProject outer place =>
      refine isGranted_of_rolesGrant_imp ?_ rfl granted
      intro byEither
      exact List.any_eq_true.mpr (exists_assignment_of_rolesGrant byEither)

/-- What is granted on a target is granted on every target that it lies in. -/
theorem isGranted_of_le (within : inner ≤ outer) (granted : claims.isGranted permission inner = true) :
    claims.isGranted permission outer = true := by
  induction within with
  | refl => exact granted
  | tail _ step ih => exact isGranted_of_liesIn step ih

/-- The check for an organization or a project grants what either of them alone grants, and no more. -/
theorem isGranted_organizationOrProject_iff {organization project : String} :
    claims.isGranted permission (.organizationOrProject organization project) = true ↔
      claims.isGranted permission (.organization organization) = true ∨
        claims.isGranted permission (.project project) = true := by
  simp only [isGranted, rolesGrant, reaches, Bool.and_eq_true, Bool.or_eq_true, and_true]
  rw [or_or_distrib_left, and_or_left]

/-- Targets are ordered from a source up to everything, grants pass upwards, and the check for an
organization or a project grants exactly what one of the two grants. -/
theorem isGranted_mono (claims : Claims) (permission : Permission) :
    (∀ inner outer : Target, inner ≤ outer → claims.isGranted permission inner = true →
      claims.isGranted permission outer = true) ∧
    (∀ organization project subject source : String,
      Target.source project subject source ≤ .subject project subject ∧
      Target.subject project subject ≤ .project project ∧
      Target.project project ≤ .organizationOrProject organization project ∧
      Target.organization organization ≤ .organizationOrProject organization project ∧
      Target.organizationOrProject organization project ≤ .everything) ∧
    ∀ organization project : String,
      claims.isGranted permission (.organizationOrProject organization project) = true ↔
        claims.isGranted permission (.organization organization) = true ∨
          claims.isGranted permission (.project project) = true := by
  refine ⟨fun inner outer => isGranted_of_le, ?_,
    fun organization project => isGranted_organizationOrProject_iff⟩
  · intro organization project subject source
    exact ⟨(Target.LiesIn.source project subject source).le,
      (Target.LiesIn.subject project subject).le,
      (Target.LiesIn.project organization project).le,
      (Target.LiesIn.organization organization project).le,
      (Target.LiesIn.organizationOrProject organization project).le⟩

/-- A participant is granted the own device, and with it every wider target, but nothing in an organization
as such. -/
theorem isGranted_mono_participant :
    (inProject [.participant]).isGranted ⟨.subject, .read⟩ (.source "P" "S" "device") = true ∧
      (inProject [.participant]).isGranted ⟨.subject, .read⟩ (.organization "O") = false ∧
      (∀ target, Target.source "P" "S" "device" ≤ target →
        (inProject [.participant]).isGranted ⟨.subject, .read⟩ target = true) ∧
      ((inProject [.participant]).isGranted ⟨.subject, .read⟩ (.organizationOrProject "O" "P") = true ↔
        (inProject [.participant]).isGranted ⟨.subject, .read⟩ (.organization "O") = true ∨
          (inProject [.participant]).isGranted ⟨.subject, .read⟩ (.project "P") = true) := by
  have ordered := isGranted_mono (inProject [.participant]) ⟨.subject, .read⟩
  refine ⟨by decide, by decide, ?_, ordered.2.2 "O" "P"⟩
  intro target within
  exact ordered.1 (.source "P" "S" "device") target within (by decide)

end Claims
end TokenAuthority
