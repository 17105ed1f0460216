import TokenAuthority.Proofs.Catalog.RoleClaims

/-!
# The grammar of role claims

A role claim is the name of a role, or this name as an authority, alone or behind a referent and a colon.  Every
text of this form states one assignment, and every other text is refused with an error that tells whether there
was a colon in it.

Among the texts of one assignment there is one in which it is written.  It is read as the same assignment, so no
two assignments are written alike.
-/

namespace TokenAuthority
namespace Assignment

/-- The assignments that can be made: those of a role alone, of a role and a referent, and those that are read
from claims. -/
inductive IsMade : Assignment → Prop where
  | bare (role : Role) : IsMade (bare role)
  | within (role : Role) (referent : String) : IsMade (within role referent)
  | read {claim : String} {assignment : Assignment} (stated : ofClaim claim = .ok assignment) :
      IsMade assignment

/-- However an assignment is made, its referent is not empty. -/
theorem isMade_iff_isNormal {assignment : Assignment} : assignment.IsMade ↔ assignment.IsNormal := by
  constructor
  · intro made
    cases made with
    | bare role => exact nofun
    | within role referent => exact isNormal_within role referent
    | read stated => exact isNormal_of_ofClaim stated
  · intro normal
    rw [← within_referent normal]
    exact .within _ _

/-- What a text states as a role claim. -/
inductive IsStatedBy : Assignment → String → Prop where
  | alone {role : Role} {name : String} (named : role.IsNamedBy name) : IsStatedBy ⟨role, none⟩ name
  | behindNone {role : Role} {name : String} (named : role.IsNamedBy name) :
      IsStatedBy ⟨role, none⟩ (":" ++ name)
  | behind {role : Role} {name referent : String} (named : role.IsNamedBy name) (filled : referent ≠ "") :
      IsStatedBy ⟨role, some referent⟩ (referent ++ ":" ++ name)

/-- A claim is read as what it states. -/
theorem ofClaim_eq_ok_iff_isStatedBy {claim : String} {assignment : Assignment} :
    ofClaim claim = .ok assignment ↔ assignment.IsStatedBy claim := by
  rw [ofClaim_eq_ok_iff]
  constructor
  · rcases assignment with ⟨role, referent⟩
    rintro ⟨name, named, ⟨rfl, rfl⟩ | ⟨given, rfl, same⟩⟩
    · exact .alone named
    · by_cases empty : given = ""
      · subst empty
        rw [same]
        exact .behindNone named
      · rw [same, within_of_ne empty]
        exact .behind named empty
  · intro stated
    cases stated with
    | alone named => exact ⟨claim, named, Or.inl ⟨rfl, rfl⟩⟩
    | @behindNone role name named => exact ⟨name, named, Or.inr ⟨"", rfl, rfl⟩⟩
    | @behind role name referent named filled =>
        exact ⟨name, named, Or.inr ⟨referent, rfl, (within_of_ne filled role).symm⟩⟩

/-- The error for a text that states nothing. -/
def refusal (claim : String) : CatalogError :=
  if ':' ∈ claim.toList then .invalidRoleClaim claim else .unknownRole claim

theorem eq_refusal_of_ofClaim {claim : String} {error : CatalogError}
    (refused : ofClaim claim = .error error) : error = refusal claim := by
  rcases not_mem_or_exists_append claim with absent | ⟨referent, name, rfl, absent⟩
  · rw [ofClaim_of_not_mem absent, Role.parse] at refused
    cases found : Role.ofName? claim with
    | some role =>
        rw [found] at refused
        cases refused
    | none =>
        rw [found] at refused
        cases refused
        rw [refusal, if_neg absent]
  · rw [ofClaim_append referent absent] at refused
    cases found : Role.ofName? name with
    | some role =>
        rw [found] at refused
        cases refused
    | none =>
        have present : ':' ∈ (referent ++ ":" ++ name).toList := by
          rw [toList_append_colon]
          exact List.mem_append_cons_self
        rw [found] at refused
        cases refused
        rw [refusal, if_pos present]

theorem ofClaim_eq_error_iff {claim : String} {error : CatalogError} :
    ofClaim claim = .error error ↔ (∀ assignment : Assignment, ¬assignment.IsStatedBy claim) ∧
      error = refusal claim := by
  constructor
  · intro refused
    refine ⟨fun assignment stated => ?_, eq_refusal_of_ofClaim refused⟩
    cases refused.symm.trans (ofClaim_eq_ok_iff_isStatedBy.mpr stated)
  · rintro ⟨unstated, rfl⟩
    cases read : ofClaim claim with
    | ok assignment => exact absurd (ofClaim_eq_ok_iff_isStatedBy.mp read) (unstated assignment)
    | error error => rw [eq_refusal_of_ofClaim read]

/-- The claim of an assignment that can be made is read as the assignment, and no other such assignment has this
claim.  A text is read as what it states by the grammar, and refused if it states nothing. -/
theorem ofClaim_meets_grammar :
    (∀ assignment : Assignment, assignment.IsMade → ofClaim assignment.claim = .ok assignment) ∧
      (∀ left right : Assignment, left.IsMade → right.IsMade → left.claim = right.claim →
        left = right) ∧
      ∀ claim : String,
        (∀ assignment : Assignment, ofClaim claim = .ok assignment ↔ assignment.IsStatedBy claim) ∧
        ∀ error, ofClaim claim = .error error ↔
          (∀ assignment : Assignment, ¬assignment.IsStatedBy claim) ∧ error = refusal claim := by
  have back (assignment : Assignment) (made : assignment.IsMade) :
      ofClaim assignment.claim = .ok assignment := ofClaim_claim (isMade_iff_isNormal.mp made)
  refine ⟨back, ?_, fun claim => ⟨fun _ => ofClaim_eq_ok_iff_isStatedBy, fun _ => ofClaim_eq_error_iff⟩⟩
  intro left right leftMade rightMade same
  have read := back left leftMade
  rw [same, back right rightMade] at read
  exact (Except.ok.inj read).symm

/-- A referent with a colon and the name of another role in it, and a text that names no role. -/
theorem ofClaim_meets_grammar_nested :
    (within .projectAdmin "7:ROLE_SYS_ADMIN").claim = "7:ROLE_SYS_ADMIN:PROJECT_ADMIN" ∧
      ofClaim "7:ROLE_SYS_ADMIN:PROJECT_ADMIN" = .ok ⟨.projectAdmin, some "7:ROLE_SYS_ADMIN"⟩ ∧
      ofClaim "7:ROLE_SYS_ADMIN:ROLE_PROJECT_ADMIN" = .ok ⟨.projectAdmin, some "7:ROLE_SYS_ADMIN"⟩ ∧
      (∀ assignment : Assignment, ¬assignment.IsStatedBy "7:ROLE_ROLE_SYS_ADMIN") ∧
      refusal "7:ROLE_ROLE_SYS_ADMIN" = .invalidRoleClaim "7:ROLE_ROLE_SYS_ADMIN" := by
  rcases ofClaim_meets_grammar with ⟨back, _, reads⟩
  have behind : IsStatedBy ⟨.projectAdmin, some "7:ROLE_SYS_ADMIN"⟩ "7:ROLE_SYS_ADMIN:ROLE_PROJECT_ADMIN" :=
    @IsStatedBy.behind .projectAdmin "ROLE_PROJECT_ADMIN" "7:ROLE_SYS_ADMIN" (by decide) (by decide)
  refine ⟨rfl, ?_, ((reads _).1 _).mpr behind, (((reads _).2 _).mp rfl).1, rfl⟩
  exact back _ (.within .projectAdmin "7:ROLE_SYS_ADMIN")

end Assignment
end TokenAuthority
