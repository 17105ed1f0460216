import TokenAuthority.Catalog.Assignment
import TokenAuthority.Proofs.Collections

/-!
# The order of assignments

Roles are compared by their place in the catalog, so that equal roles are the same.
Assignments are compared by role and then by referent, and this comparison is a linear order: equal
assignments are the same, and the order is transitive.  What is known of sets in the order of a comparison
therefore holds of sets of assignments.
-/

namespace TokenAuthority

theorem Role.rank_injective {left right : Role} (same : left.rank = right.rank) : left = right := by
  cases left <;> cases right <;> first | rfl | exact absurd same (by decide)

theorem Role.compare_eq_compareOn : Role.compare = compareOn Role.rank := rfl

instance : Std.TransCmp Role.compare := by
  rw [Role.compare_eq_compareOn]
  infer_instance

instance : Std.LawfulEqCmp Role.compare where
  eq_of_compare same := Role.rank_injective (Std.LawfulEqCmp.eq_of_compare same)

namespace Assignment

theorem compareReferents_eq (left right : Option String) :
    compareReferents left right = Ord.compare left right := by
  cases left <;> cases right <;> rfl

/-- The comparison goes by the rank of the role first, and by the referent where the ranks agree. -/
theorem compare_eq_compareLex : compare = compareLex
    (compareOn fun assignment : Assignment => assignment.role.rank)
    (compareOn fun assignment : Assignment => assignment.referent) := by
  funext left right
  rw [compare, compareReferents_eq]
  rfl

instance : Std.TransCmp compare := by
  rw [compare_eq_compareLex]
  infer_instance

instance : Std.LawfulEqCmp compare where
  eq_of_compare := by
    intro left right same
    rw [compare, Ordering.then_eq_eq, compareReferents_eq] at same
    have role : left.role = right.role := Std.LawfulEqCmp.eq_of_compare same.1
    have referent := Std.LawfulEqCmp.eq_of_compare same.2
    rcases left with ⟨leftRole, leftReferent⟩
    rcases right with ⟨rightRole, rightReferent⟩
    rw [mk.injEq]
    exact ⟨role, referent⟩

end Assignment
end TokenAuthority
