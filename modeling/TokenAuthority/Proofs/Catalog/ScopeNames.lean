import TokenAuthority.Catalog.Permission
import TokenAuthority.Proofs.Text.Separators

/-!
# Scope names

A permission and its scope name determine each other.  A scope is cut at its first point, and no entity has
a point in its name, so the two names that a scope consists of are the ones that are looked up; and a name
that is found is the name of what was found.

A text that is no scope is refused, and the error carries the text as it was: whichever of the two names is
missing, both are joined again, and joining undoes the cut wherever further points stand.
-/

namespace TokenAuthority

namespace Entity

theorem point_not_mem_name (entity : Entity) : '.' ∉ entity.name.toList := by
  cases entity <;> decide +kernel

theorem ofName?_name (entity : Entity) : ofName? entity.name = some entity := by
  cases entity <;> decide +kernel

theorem name_of_ofName? {name : String} {entity : Entity} (found : ofName? name = some entity) :
    entity.name = name := by
  have same := List.find?_some found
  simpa using same

end Entity

namespace Operation

theorem ofName?_name (operation : Operation) : ofName? operation.name = some operation := by
  cases operation <;> decide +kernel

theorem name_of_ofName? {name : String} {operation : Operation}
    (found : ofName? name = some operation) : operation.name = name := by
  have same := List.find?_some found
  simpa using same

end Operation

namespace Permission

theorem toList_scope (permission : Permission) :
    permission.scope.toList =
      permission.entity.name.toList ++ '.' :: permission.operation.name.toList := by
  simp only [scope, String.toList_append, List.append_assoc]
  rfl

/-- A permission is what its scope names. -/
theorem ofScope_scope (permission : Permission) : ofScope permission.scope = .ok permission := by
  have cut : Text.splitFirst? '.' permission.scope =
      some (permission.entity.name, permission.operation.name) := by
    simp only [Text.splitFirst?, toList_scope,
      Text.splitFirstChars?_append permission.entity.point_not_mem_name, Option.map_some,
      String.ofList_toList]
  rw [ofScope, cut]
  simp only [lookup, Entity.ofName?_name, Operation.ofName?_name]

/-- The two names that a text is cut into are joined to this text. -/
theorem append_of_splitFirst? {scope entity operation : String}
    (cut : Text.splitFirst? '.' scope = some (entity, operation)) :
    entity ++ "." ++ operation = scope := by
  rcases Option.map_eq_some_iff.mp cut with ⟨⟨before, after⟩, found, parts⟩
  cases parts
  apply String.toList_inj.mp
  simp only [String.toList_append, String.toList_ofList, Text.eq_append_of_splitFirstChars? found,
    List.append_assoc]
  rfl

/-- A scope that names a permission is the scope of it. -/
theorem scope_of_ofScope {scope : String} {permission : Permission}
    (named : ofScope scope = .ok permission) : permission.scope = scope := by
  unfold ofScope at named
  split at named
  next entityName operationName cut =>
    unfold lookup at named
    split at named
    next entity operation entityFound operationFound =>
      cases named
      rw [Permission.scope, Entity.name_of_ofName? entityFound,
        Operation.name_of_ofName? operationFound, append_of_splitFirst? cut]
    · cases named
  · cases named

theorem ofScope_eq_ok_iff {scope : String} {permission : Permission} :
    ofScope scope = .ok permission ↔ permission.scope = scope := by
  constructor
  · exact scope_of_ofScope
  · rintro rfl
    exact permission.ofScope_scope

/-- Whatever is missing in a text, the error carries the whole of it. -/
theorem eq_of_ofScope_eq_error {scope : String} {error : CatalogError}
    (refused : ofScope scope = .error error) : error = .permissionNotFound scope := by
  unfold ofScope at refused
  split at refused
  next entityName operationName cut =>
    unfold lookup at refused
    split at refused
    · cases refused
    · rw [← Except.error.inj refused, append_of_splitFirst? cut]
  · exact (Except.error.inj refused).symm

theorem ofScope_eq_error_iff {scope : String} {error : CatalogError} :
    ofScope scope = .error error ↔
      (∀ permission : Permission, permission.scope ≠ scope) ∧ error = .permissionNotFound scope := by
  constructor
  · intro refused
    refine ⟨fun permission same => ?_, eq_of_ofScope_eq_error refused⟩
    cases refused.symm.trans (ofScope_eq_ok_iff.mpr same)
  · rintro ⟨nameless, rfl⟩
    cases read : ofScope scope with
    | ok permission => exact absurd (scope_of_ofScope read) (nameless permission)
    | error error => rw [eq_of_ofScope_eq_error read]

/-- A text names the permission whose scope it is and no other, so different permissions have different scopes.
A text that is the scope of none is refused, with an error that carries this very text. -/
theorem ofScope_names_or_refuses :
    (∀ (scope : String) (permission : Permission),
      ofScope scope = .ok permission ↔ scope = permission.scope) ∧
    (∀ (scope : String) (error : CatalogError), ofScope scope = .error error ↔
      (∀ permission : Permission, scope ≠ permission.scope) ∧ error = .permissionNotFound scope) ∧
    ∀ left right : Permission, left.scope = right.scope → left = right := by
  refine ⟨fun scope permission => ?_, fun scope error => ?_, fun left right same => ?_⟩
  · rw [ofScope_eq_ok_iff, eq_comm]
  · simp only [ofScope_eq_error_iff, ne_comm]
  · have read := right.ofScope_scope
    rw [← same, left.ofScope_scope] at read
    exact Except.ok.inj read

/-- An entity whose name starts with that of another one, and texts that go wrong behind the first point, in front of
it and without one. -/
theorem ofScope_names_or_refuses_sourceType :
    ofScope "SOURCETYPE.READ" = .ok ⟨.sourceType, .read⟩ ∧
      (∀ permission : Permission, "SOURCE.READ.EXTRA" ≠ permission.scope) ∧
      (∀ permission : Permission, "SOURCES.READ" ≠ permission.scope) ∧
      (∀ permission : Permission, "SOURCE" ≠ permission.scope) := by
  rcases ofScope_names_or_refuses with ⟨names, refuses, _⟩
  refine ⟨(names _ _).mpr rfl, ?_, ?_, ?_⟩
  · exact ((refuses "SOURCE.READ.EXTRA" (.permissionNotFound "SOURCE.READ.EXTRA")).mp rfl).1
  · exact ((refuses "SOURCES.READ" (.permissionNotFound "SOURCES.READ")).mp rfl).1
  · exact ((refuses "SOURCE" (.permissionNotFound "SOURCE")).mp rfl).1

end Permission
end TokenAuthority
