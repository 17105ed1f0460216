import Mathlib.Data.List.Pairwise
import TokenAuthority.Collections

/-!
# What sets and tables hold

A set is a list in strict order.  Putting an element in keeps the order, and the set then holds this element
and what it held before.  A set is determined by what it holds, so putting its elements one by one into the
empty set gives the set back.

A table has under a key what was last put there, and changes elsewhere leave it alone.
-/

namespace TokenAuthority

namespace OrderedSet

variable {α : Type} {compare : α → α → Ordering} {element other : α} {set : List α}

/-- A list in strict order. -/
def IsOrdered (compare : α → α → Ordering) (set : List α) : Prop :=
  set.Pairwise fun earlier later => compare earlier later = .lt

section

variable [Std.LawfulEqCmp compare]

theorem mem_insert : other ∈ insert compare element set ↔ other = element ∨ other ∈ set := by
  induction set with
  | nil => simp [insert]
  | cons first rest ih =>
      rw [insert]
      split
      · rw [List.mem_cons]
      next same =>
        have equal : element = first := Std.LawfulEqCmp.eq_of_compare same
        rw [equal, List.mem_cons, ← or_assoc, or_self]
      · rw [List.mem_cons, ih, List.mem_cons]
        exact or_left_comm

theorem mem_insertAll (elements : List α) :
    other ∈ insertAll compare set elements ↔ other ∈ elements ∨ other ∈ set := by
  induction elements generalizing set with
  | nil => simp [insertAll]
  | cons element elements ih =>
      have step : insertAll compare set (element :: elements) =
          insertAll compare (insert compare element set) elements := rfl
      rw [step, ih, mem_insert, List.mem_cons, or_left_comm, or_assoc]

end

section

variable [Std.TransCmp compare]

theorem IsOrdered.nodup (ordered : IsOrdered compare set) : set.Nodup := by
  refine ordered.imp ?_
  rintro left _ before rfl
  have same : compare left left = .eq := Std.ReflCmp.compare_self
  rw [same] at before
  cases before

/-- A set is determined by what it holds. -/
theorem IsOrdered.eq_of_mem_iff {left right : List α} (first : IsOrdered compare left)
    (second : IsOrdered compare right) (same : ∀ element, element ∈ left ↔ element ∈ right) :
    left = right := by
  have permuted := (List.perm_ext_iff_of_nodup first.nodup second.nodup).mpr same
  refine permuted.eq_of_pairwise ?_ first second
  intro earlier later _ _ before after
  rw [Std.OrientedCmp.gt_of_lt before] at after
  cases after

/-- An element beyond all of a set is put at its end. -/
theorem insert_of_forall_lt (beyond : ∀ other ∈ set, compare other element = .lt) :
    insert compare element set = set ++ [element] := by
  induction set with
  | nil => rfl
  | cons first rest ih =>
      have after : compare element first = .gt :=
        Std.OrientedCmp.gt_of_lt (beyond first List.mem_cons_self)
      have tail := ih fun other member => beyond other (List.mem_cons_of_mem first member)
      rw [insert, after]
      simp only [tail, List.cons_append]

/-- A set is built from nothing by putting in what it holds. -/
theorem insertAll_nil (ordered : IsOrdered compare set) : insertAll compare [] set = set := by
  have appended : ∀ before after : List α, IsOrdered compare (before ++ after) →
      insertAll compare before after = before ++ after := by
    intro before after
    induction after generalizing before with
    | nil =>
        intro _
        rw [List.append_nil]
        rfl
    | cons element after ih =>
        intro ordered
        have beyond : ∀ other ∈ before, compare other element = .lt := fun other member =>
          (List.pairwise_append.mp ordered).2.2 other member element List.mem_cons_self
        have step : insertAll compare before (element :: after) =
            insertAll compare (insert compare element before) after := rfl
        rw [step, insert_of_forall_lt beyond,
          ih (before ++ [element]) (by rwa [List.append_assoc, List.singleton_append]),
          List.append_assoc, List.singleton_append]
  exact appended [] set ordered

variable [Std.LawfulEqCmp compare]

/-- Putting an element in keeps the list in order. -/
theorem IsOrdered.insert (element : α) (ordered : IsOrdered compare set) :
    IsOrdered compare (insert compare element set) := by
  induction set with
  | nil => exact List.pairwise_singleton _ _
  | cons first rest ih =>
      have parts := List.pairwise_cons.mp ordered
      rw [OrderedSet.insert]
      split
      next before =>
        refine List.pairwise_cons.mpr ⟨?_, ordered⟩
        intro other member
        rcases List.mem_cons.mp member with rfl | later
        · exact before
        · exact Std.TransCmp.lt_trans before (parts.1 other later)
      · exact ordered
      next after =>
        refine List.pairwise_cons.mpr ⟨?_, ih parts.2⟩
        intro other member
        rcases mem_insert.mp member with rfl | later
        · exact Std.OrientedCmp.lt_of_gt after
        · exact parts.1 other later

theorem IsOrdered.insertAll (elements : List α) (ordered : IsOrdered compare set) :
    IsOrdered compare (insertAll compare set elements) := by
  induction elements generalizing set with
  | nil => exact ordered
  | cons element elements ih => exact ih (ordered.insert element)

end

end OrderedSet

namespace Table

variable {key value : Type} [DecidableEq key] {table : Table key value} {name other : key}

theorem get?_erase : (table.erase name).get? other = if other = name then none else table.get? other := by
  rcases table with ⟨entries⟩
  unfold erase get?
  induction entries with
  | nil => simp
  | cons entry rest ih =>
      rcases entry with ⟨first, content⟩
      by_cases erased : first = name
      · rw [List.filter_cons_of_neg (by simp [erased]), ih]
        split
        · rfl
        next different =>
          rw [List.lookup_cons, beq_false_of_ne (erased ▸ different)]
      · rw [List.filter_cons_of_pos (by simp [erased]), List.lookup_cons, List.lookup_cons]
        split
        next same =>
          have equal : other = first := beq_iff_eq.mp same
          rw [if_neg (equal ▸ erased)]
        · exact ih

theorem get?_insert {content : value} :
    (table.insert name content).get? other = if other = name then some content else table.get? other := by
  rw [get?, insert, List.lookup_cons]
  by_cases same : other = name
  · rw [if_pos same, beq_iff_eq.mpr same]
  · rw [if_neg same, beq_false_of_ne same]
    exact get?_erase.trans (if_neg same)

end Table
end TokenAuthority
