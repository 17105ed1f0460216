/-!
# Computations that may fail

A computation of steps succeeds when all of them do, and fails with the error of the first that does not.
Items that are written one by one are read back one by one, if the reader gives back each of them.
-/

namespace TokenAuthority

/-- A computation of two steps succeeds only if both do. -/
theorem exists_ok_of_bind {ε α β : Type} {first : Except ε α} {next : α → Except ε β} {result : β}
    (success : (first >>= next) = .ok result) : ∃ value, first = .ok value ∧ next value = .ok result := by
  cases first with
  | error error => cases success
  | ok value => exact ⟨value, rfl, success⟩

theorem exists_ok_of_map {ε α β : Type} {computed : Except ε α} {convert : α → β} {result : β}
    (success : computed.map convert = .ok result) :
    ∃ value, computed = .ok value ∧ convert value = result := by
  cases computed with
  | error error => cases success
  | ok value => exact ⟨value, rfl, Except.ok.inj success⟩

/-- It fails with the error of the first step, or else with that of the second. -/
theorem error_or_ok_of_bind {ε α β : Type} {first : Except ε α} {next : α → Except ε β} {error : ε}
    (failed : (first >>= next) = .error error) :
    first = .error error ∨ ∃ value, first = .ok value ∧ next value = .error error := by
  cases first with
  | error refused =>
      cases failed
      exact Or.inl rfl
  | ok value => exact Or.inr ⟨value, rfl, failed⟩

theorem error_of_map {ε α β : Type} {computed : Except ε α} {convert : α → β} {error : ε}
    (failed : computed.map convert = .error error) : computed = .error error := by
  cases computed with
  | error refused =>
      cases failed
      rfl
  | ok value => cases failed

/-- Another report of failures does not change what succeeds. -/
theorem eq_ok_of_mapError {ε δ α : Type} {computed : Except ε α} {convert : ε → δ} {result : α}
    (success : computed.mapError convert = .ok result) : computed = .ok result := by
  cases computed with
  | error error => cases success
  | ok value => rw [Except.ok.inj success]

/-- Items that are converted one by one fail with the error of the first of them that fails. -/
theorem mapM_eq_error_of_first {ε α β : Type} {convert : α → Except ε β} {before after : List α}
    {item : α} {error : ε} (convertible : ∀ other ∈ before, ∃ result, convert other = .ok result)
    (fails : convert item = .error error) : (before ++ item :: after).mapM convert = .error error := by
  induction before with
  | nil =>
      rw [List.nil_append, List.mapM_cons, fails]
      rfl
  | cons other before ih =>
      rcases convertible other List.mem_cons_self with ⟨result, converted⟩
      have onwards := ih fun later member => convertible later (List.mem_cons_of_mem other member)
      rw [List.cons_append, List.mapM_cons, converted, onwards]
      rfl

/-- They fail in no other way. -/
theorem exists_first_of_mapM_eq_error {ε α β : Type} {convert : α → Except ε β} {items : List α}
    {error : ε}
    (failed : items.mapM convert = .error error) :
    ∃ before item after, items = before ++ item :: after ∧
      (∀ other ∈ before, ∃ result, convert other = .ok result) ∧ convert item = .error error := by
  induction items with
  | nil => cases failed
  | cons first items ih =>
      rw [List.mapM_cons] at failed
      rcases error_or_ok_of_bind failed with refused | ⟨result, converted, failed⟩
      · exact ⟨[], first, items, rfl, nofun, refused⟩
      · rcases error_or_ok_of_bind failed with others | ⟨_, _, failed⟩
        · rcases ih others with ⟨before, item, after, rfl, convertible, fails⟩
          refine ⟨first :: before, item, after, rfl, ?_, fails⟩
          exact List.forall_mem_cons.mpr ⟨⟨result, converted⟩, convertible⟩
        · cases failed

/-- A list is read back from what was written for its items. -/
theorem mapM_map_of_read {α β : Type} {write : α → β} {read : β → Option α} {items : List α}
    (back : ∀ item ∈ items, read (write item) = some item) : (items.map write).mapM read = some items := by
  induction items with
  | nil => rfl
  | cons item items ih =>
      have others := ih fun other member => back other (List.mem_cons_of_mem item member)
      rw [List.map_cons, List.mapM_cons, back item List.mem_cons_self, others]
      rfl

/-- A list is what is written for the values read from it, if each item is what is written for its value. -/
theorem eq_map_of_mapM {α β : Type} {write : α → β} {read : β → Option α}
    (back : ∀ item value, read item = some value → item = write value) {items : List β} {values : List α}
    (success : items.mapM read = some values) : items = values.map write := by
  induction items generalizing values with
  | nil =>
      cases success
      rfl
  | cons item items ih =>
      rw [List.mapM_cons] at success
      rcases Option.bind_eq_some_iff.mp success with ⟨value, first, success⟩
      rcases Option.bind_eq_some_iff.mp success with ⟨others, rest, same⟩
      cases same
      rw [List.map_cons, back item value first, ih rest]

end TokenAuthority
