import TokenAuthority.Proofs.Access.Conditions
import TokenAuthority.Proofs.Token.Construction

/-!
# Added authority

Claims are widened by adding to them: roles in any form, authorities, scopes and sources.  The subject and
the grant type stay, and no scope is put in the place of another.  Whatever was granted before is granted
afterwards.

This is not plain for subjects.  A participant who becomes an analyst as well leaves the rule of the own
subject for the rule of the project, and the two rules are computed in different ways.  As a condition,
though, the first is a case of the second.
-/

namespace TokenAuthority
namespace Claims

/-- Claims of the same bearer that hold at least as much. -/
structure IsWithin (claims wider : Claims) : Prop where
  subject : wider.subject = claims.subject
  grantType : wider.grantType = claims.grantType
  roles : claims.roles ⊆ wider.roles
  authorities : claims.authorities ⊆ wider.authorities
  scopes : claims.scopes ⊆ wider.scopes
  sources : claims.sources ⊆ wider.sources

variable {claims wider widest : Claims}

theorem IsWithin.refl (claims : Claims) : claims.IsWithin claims where
  subject := rfl
  grantType := rfl
  roles := List.Subset.refl _
  authorities := List.Subset.refl _
  scopes := List.Subset.refl _
  sources := List.Subset.refl _

theorem IsWithin.trans (first : claims.IsWithin wider) (second : wider.IsWithin widest) :
    claims.IsWithin widest where
  subject := second.subject.trans first.subject
  grantType := second.grantType.trans first.grantType
  roles := List.Subset.trans first.roles second.roles
  authorities := List.Subset.trans first.authorities second.authorities
  scopes := List.Subset.trans first.scopes second.scopes
  sources := List.Subset.trans first.sources second.sources

theorem IsWithin.assignments (within : claims.IsWithin wider) :
    claims.assignments ⊆ wider.assignments := by
  intro assignment member
  rcases List.mem_append.mp member with held | named
  · exact List.mem_append_left _ (within.roles held)
  · exact List.mem_append_right _
      (List.map_subset _ (List.filterMap_subset _ within.authorities) named)

/-- Wider claims have at least as much of what any decision looks at. -/
theorem IsWithin.isCoveredBy (within : claims.IsWithin wider) (permission : Permission)
    (target : Target) : claims.IsCoveredBy wider permission target where
  scope := fun listed => within.scopes listed
  machine := by
    intro machine
    rw [isClientCredentials, within.grantType]
    exact machine
  global := by
    rintro ⟨assignment, member, isGlobal⟩
    exact ⟨assignment, within.assignments member, isGlobal⟩
  roles := fun _ held _ => within.roles held
  anywhere := fun _ => within.assignments
  subject := fun _ _ own => within.subject.trans own
  source := fun _ _ bound => within.sources bound

/-! ## Steps that only add -/

/-- A step that puts nothing in the place of a subject, a grant type or scopes. -/
def Step.isAddition : Step → Bool
  | subject _ => false
  | grantType _ => false
  | onlyScopes _ => false
  | _ => true

theorem subset_addScopeTo (scopes : List String) (scope : String) :
    scopes ⊆ addScopeTo scopes scope := by
  intro other member
  unfold addScopeTo
  split
  · exact member
  · exact List.mem_append_left _ member

theorem subset_foldl_addScopeTo (scopes added : List String) :
    scopes ⊆ added.foldl addScopeTo scopes := by
  induction added generalizing scopes with
  | nil => exact List.Subset.refl scopes
  | cons scope added ih =>
      exact List.Subset.trans (subset_addScopeTo scopes scope) (ih (addScopeTo scopes scope))

theorem isWithin_addRoles (claims : Claims) (assignments : List Assignment) :
    claims.IsWithin (claims.addRoles assignments) :=
  { IsWithin.refl claims with
    roles := fun _ held => (OrderedSet.mem_insertAll assignments).mpr (Or.inr held) }

theorem isWithin_addScopes (claims : Claims) (scopes : List String) :
    claims.IsWithin (claims.addScopes scopes) :=
  { IsWithin.refl claims with scopes := subset_foldl_addScopeTo claims.scopes scopes }

/-- A step that only adds widens the claims. -/
theorem isWithin_apply {step : Step} (addition : step.isAddition = true) (claims : Claims) :
    claims.IsWithin (step.apply claims) := by
  cases step with
  | subject name => cases addition
  | grantType name => cases addition
  | onlyScopes names => cases addition
  | role assignment normal => exact isWithin_addRoles claims [assignment]
  | roles assignments normal => exact isWithin_addRoles claims assignments
  | roleClaims stated => exact isWithin_addRoles claims _
  | authorities names =>
      exact { IsWithin.refl claims with authorities := List.subset_append_left _ _ }
  | scope name => exact isWithin_addScopes claims [name]
  | scopes names => exact isWithin_addScopes claims names
  | sources names => exact { IsWithin.refl claims with sources := List.subset_append_left _ _ }
  | _ => exact { IsWithin.refl claims with }

/-- Steps that only add widen the claims. -/
theorem isWithin_foldl_apply {steps : List Step} (additions : ∀ step ∈ steps, step.isAddition = true)
    (claims : Claims) : claims.IsWithin (steps.foldl Step.apply claims) := by
  induction steps generalizing claims with
  | nil => exact IsWithin.refl claims
  | cons step steps ih =>
      have first := isWithin_apply (additions step List.mem_cons_self) claims
      have rest := ih (fun other member => additions other (List.mem_cons_of_mem step member))
        (step.apply claims)
      exact first.trans rest

/-- Whatever is added to claims, in any order, what they were granted on any target they still are. -/
theorem isGranted_foldl_apply (claims : Claims) (steps : List Step)
    (additions : ∀ step ∈ steps, step.isAddition = true) (permission : Permission) (target : Target)
    (granted : claims.isGranted permission target = true) :
    (steps.foldl Step.apply claims).isGranted permission target = true :=
  ((isWithin_foldl_apply additions claims).isCoveredBy permission target).isGranted granted

/-- A participant becomes an analyst of the project, and gets a scope that was there before. -/
def analystAdded : List Step :=
  [.roleClaims ["P:PROJECT_ANALYST", "P:JANITOR"], .authorities ["ROLE_INACTIVE_PARTICIPANT"],
    .scopes ["SUBJECT.READ", "SOURCE.UPDATE"], .sources ["other"], .username "user"]

/-- The participant keeps the own device, though it is now reached by the rule of the project. -/
theorem isGranted_foldl_apply_analystAdded :
    (∀ step ∈ analystAdded, step.isAddition = true) ∧
      (inProject [.participant]).rolesInProject "P" = [.participant] ∧
      (analystAdded.foldl Step.apply (inProject [.participant])).rolesInProject "P" =
        [.projectAnalyst, .participant] ∧
      (inProject [.participant]).isGranted ⟨.subject, .read⟩ (.source "P" "S" "device") = true ∧
      (analystAdded.foldl Step.apply (inProject [.participant])).isGranted ⟨.subject, .read⟩
        (.source "P" "S" "device") = true :=
  ⟨by decide, by decide, by decide +kernel, by decide,
    isGranted_foldl_apply (inProject [.participant]) analystAdded (by decide) ⟨.subject, .read⟩
      (.source "P" "S" "device") (by decide)⟩

end Claims
end TokenAuthority
