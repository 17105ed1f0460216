import Mathlib.Data.List.Induction
import TokenAuthority.Proofs.Catalog.ScopeNames
import TokenAuthority.Proofs.Token.Construction
import TokenAuthority.Token.Profile

/-!
# Lists of scopes

Scopes are added one by one, each unless it is there, so a list that is added to nothing keeps the first
occurrence of each scope.  Narrowing such a list to what roles can use commutes with this: it does not
matter whether repetitions are dropped before or after.
-/

namespace TokenAuthority

/-- Adding scopes to none keeps the first occurrence of each. -/
theorem foldl_addScopeTo_eq_eraseDups (scopes : List String) :
    scopes.foldl addScopeTo [] = scopes.eraseDups := by
  induction scopes using List.reverseRecOn with
  | nil => rfl
  | append_singleton scopes scope ih =>
      rw [List.foldl_append, ih, List.eraseDups_append]
      by_cases present : scope ∈ scopes
      · simp [addScopeTo, List.removeAll, present]
      · simp [addScopeTo, List.removeAll, present, List.eraseDups_cons]

theorem mem_foldl_addScopeTo {scopes : List String} {scope : String} :
    scope ∈ scopes.foldl addScopeTo [] ↔ scope ∈ scopes := by
  rw [foldl_addScopeTo_eq_eraseDups, List.mem_eraseDups]

theorem sublist_foldl_addScopeTo (scopes added : List String) :
    (added.foldl addScopeTo scopes).Sublist (scopes ++ added) := by
  induction added generalizing scopes with
  | nil => simp
  | cons scope added ih =>
      apply (ih (addScopeTo scopes scope)).trans
      unfold addScopeTo
      split
      · simp
      · simp

theorem filter_addScopeTo (keep : String → Bool) (scopes : List String) (scope : String) :
    (addScopeTo scopes scope).filter keep =
      if keep scope then addScopeTo (scopes.filter keep) scope else scopes.filter keep := by
  unfold addScopeTo
  by_cases kept : keep scope = true
  · by_cases present : scope ∈ scopes
    · simp [kept, present]
    · simp [kept, present]
  · by_cases present : scope ∈ scopes
    · simp [kept, present]
    · simp [kept, present]

/-- Scopes can be dropped before they are added as well as afterwards. -/
theorem filter_foldl_addScopeTo (keep : String → Bool) (scopes added : List String) :
    (added.foldl addScopeTo scopes).filter keep =
      (added.filter keep).foldl addScopeTo (scopes.filter keep) := by
  induction added generalizing scopes with
  | nil => rfl
  | cons scope added ih =>
      rw [List.foldl_cons, ih, filter_addScopeTo, List.filter_cons]
      split <;> rfl

/-- Adding once is enough. -/
theorem foldl_addScopeTo_twice (scopes : List String) :
    (scopes.foldl addScopeTo []).foldl addScopeTo [] = scopes.foldl addScopeTo [] :=
  foldl_addScopeTo_of_nodup [] _ (nodup_foldl_addScopeTo List.nodup_nil scopes)

/-! ## Scopes that roles can use -/

/-- The permission that a scope names is held by one of the roles. -/
theorem isGrantable_iff {roles : List Role} {scope : String} :
    isGrantable roles scope = true ↔
      ∃ permission, Permission.ofScope scope = .ok permission ∧
        ∃ role ∈ roles, role.holds permission = true := by
  unfold isGrantable
  cases Permission.ofScope scope with
  | error error => exact iff_of_false Bool.false_ne_true (by rintro ⟨_, absurdity, _⟩; cases absurdity)
  | ok permission =>
      rw [List.any_eq_true]
      constructor
      · rintro ⟨role, member, holds⟩
        exact ⟨permission, rfl, role, member, holds⟩
      · rintro ⟨other, same, role, member, holds⟩
        cases same
        exact ⟨role, member, holds⟩

theorem isGrantable_scope {roles : List Role} {permission : Permission} :
    isGrantable roles permission.scope = true ↔ ∃ role ∈ roles, role.holds permission = true := by
  rw [isGrantable_iff]
  constructor
  · rintro ⟨other, named, held⟩
    rw [permission.ofScope_scope] at named
    cases named
    exact held
  · intro held
    exact ⟨permission, permission.ofScope_scope, held⟩

namespace Claims

/-- Folding a profile in keeps the scopes that some role of the profile can use, each once. -/
theorem scopes_enhance (claims : Claims) (profile : Profile) :
    (claims.enhance profile).scopes =
      (claims.scopes.filter (isGrantable profile.effectiveRoles)).foldl addScopeTo [] :=
  foldl_addScopeTo_twice _

theorem mem_scopes_enhance {claims : Claims} {profile : Profile} {scope : String} :
    scope ∈ (claims.enhance profile).scopes ↔
      scope ∈ claims.scopes ∧ isGrantable profile.effectiveRoles scope = true := by
  rw [scopes_enhance, mem_foldl_addScopeTo, List.mem_filter]

theorem sublist_scopes_enhance (claims : Claims) (profile : Profile) :
    (claims.enhance profile).scopes.Sublist claims.scopes := by
  rw [scopes_enhance]
  exact (sublist_foldl_addScopeTo [] _).trans List.filter_sublist

end Claims
end TokenAuthority
