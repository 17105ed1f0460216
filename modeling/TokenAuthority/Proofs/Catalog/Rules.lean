import TokenAuthority.Catalog.RuleTable
import TokenAuthority.Proofs.Catalog.AssignmentOrder

/-!
# The rule table

The rules that give permissions to roles, each on its own.  Applying a rule adds its role to its permissions
and leaves the rest of the table alone, so a role holds what some rule gives it, and nothing else.  There is no
rule for the administrators of organizations and none for inactive participants, so these hold nothing.
-/

namespace TokenAuthority
namespace Role

/-- A rule gives a permission to a role. -/
inductive Entitles : Role → Permission → Prop
  | sysAdmin (permission : Permission) : Entitles .sysAdmin permission
  | projectAdmin {permission : Permission} (present : permission ≠ ⟨.project, .create⟩) :
      Entitles .projectAdmin permission
  | ownerOnSubject (operation : Operation) : Entitles .projectOwner ⟨.subject, operation⟩
  | ownerReads {entity : Entity} (shared : entity ∉ [Entity.audit, .authority, .user]) :
      Entitles .projectOwner ⟨entity, .read⟩
  | affiliateOnSubject {operation : Operation} (keeps : operation ∈ [Operation.create, .read, .update]) :
      Entitles .projectAffiliate ⟨.subject, operation⟩
  | affiliateReads {entity : Entity} (shared : entity ∉ [Entity.audit, .authority, .user]) :
      Entitles .projectAffiliate ⟨entity, .read⟩
  | analystReads {entity : Entity} (shared : entity ∉ [Entity.audit, .authority, .user]) :
      Entitles .projectAnalyst ⟨entity, .read⟩
  | analystUpdatesSource : Entitles .projectAnalyst ⟨.source, .update⟩
  | participant {permission : Permission}
      (own : permission ∈ [Permission.mk .subject .read, ⟨.subject, .update⟩, ⟨.measurement, .create⟩,
        ⟨.measurement, .read⟩]) :
      Entitles .participant permission

end Role

namespace RuleTable

variable {table : RuleTable} {permission : Permission} {role given : Role}

/-! ## One rule -/

theorem mem_allowedRoles_grantOne {other : Permission} :
    role ∈ (table.grantOne given other).allowedRoles permission ↔
      role = given ∧ permission = other ∨ role ∈ table.allowedRoles permission := by
  rw [grantOne, allowedRoles, Table.get?_insert]
  by_cases same : permission = other
  · rw [if_pos same, Option.getD_some, OrderedSet.mem_insert, same, and_iff_left rfl]
  · rw [if_neg same, or_iff_right fun added => same added.2, allowedRoles]

/-- A rule adds its role to its permissions, whatever the rules before it have given. -/
theorem mem_allowedRoles_grant (permissions : List Permission) :
    role ∈ (table.grant permissions given).allowedRoles permission ↔
      role = given ∧ permission ∈ permissions ∨ role ∈ table.allowedRoles permission := by
  induction permissions generalizing table with
  | nil => rw [iff_false_intro List.not_mem_nil, and_false, false_or]; rfl
  | cons first rest ih =>
      rw [grant, List.foldl_cons, ← grant, ih, mem_allowedRoles_grantOne, ← or_assoc, ← and_or_left,
        List.mem_cons, or_comm (a := permission ∈ rest)]

/-- After rules have been applied, a permission has the roles that one of them gives it, and those that it had. -/
theorem mem_allowedRoles_applyAll (rules : List (Role × List Permission)) :
    role ∈ (table.applyAll rules).allowedRoles permission ↔
      (∃ permissions, (role, permissions) ∈ rules ∧ permission ∈ permissions) ∨
        role ∈ table.allowedRoles permission := by
  induction rules generalizing table with
  | nil => simp [applyAll]
  | cons first rest ih =>
      rcases first with ⟨given, permissions⟩
      rw [applyAll, List.foldl_cons, ← applyAll, ih, mem_allowedRoles_grant, ← or_assoc]
      apply or_congr_left
      constructor
      · rintro (⟨others, listed, about⟩ | ⟨rfl, about⟩)
        · exact ⟨others, List.mem_cons_of_mem _ listed, about⟩
        · exact ⟨permissions, List.mem_cons_self, about⟩
      · rintro ⟨others, listed, about⟩
        rcases List.mem_cons.mp listed with same | later
        · cases same
          exact Or.inr ⟨rfl, about⟩
        · exact Or.inl ⟨others, later, about⟩

/-! ## What the rules are about -/

theorem mem_all (permission : Permission) : permission ∈ Permission.all := by
  rcases permission with ⟨entity, operation⟩
  cases entity <;> cases operation <;> decide

theorem mem_ofEntity {entity : Entity} : permission ∈ ofEntity entity ↔ permission.entity = entity := by
  rcases permission with ⟨other, operation⟩
  rw [ofEntity, List.mem_map]
  constructor
  · rintro ⟨_, _, same⟩
    cases same
    rfl
  · rintro rfl
    exact ⟨operation, by cases operation <;> decide, rfl⟩

theorem mem_broadReads :
    permission ∈ broadReads ↔
      permission.entity ∉ [Entity.audit, .authority, .user] ∧ permission.operation = .read := by
  rcases permission with ⟨entity, operation⟩
  rw [broadReads, List.mem_map]
  constructor
  · rintro ⟨other, shared, same⟩
    cases same
    exact ⟨by simpa using (List.mem_filter.mp shared).2, rfl⟩
  · rintro ⟨shared, rfl⟩
    exact ⟨entity, List.mem_filter.mpr ⟨by cases entity <;> decide, by simpa using shared⟩, rfl⟩

end RuleTable

namespace Role

variable {role : Role} {permission : Permission}

/-! ## The whole table -/

/-- A role holds a permission if one of the rules for the role is about the permission. -/
theorem holds_iff_mem_rules :
    role.holds permission = true ↔
      ∃ permissions, (role, permissions) ∈ RuleTable.rules ∧ permission ∈ permissions := by
  rw [holds, RuleTable.isRoleAllowed, List.contains_iff_mem, RuleTable.build,
    RuleTable.mem_allowedRoles_applyAll]
  exact or_iff_left List.not_mem_nil

theorem entitles_of_holds (holds : role.holds permission = true) : Entitles role permission := by
  rcases holds_iff_mem_rules.mp holds with ⟨permissions, listed, about⟩
  rcases permission with ⟨entity, operation⟩
  simp only [RuleTable.rules, List.mem_cons, Prod.mk.injEq, List.not_mem_nil, or_false] at listed
  rcases listed with ⟨rfl, rfl⟩ | ⟨rfl, rfl⟩ | ⟨rfl, rfl⟩ | ⟨rfl, rfl⟩ | ⟨rfl, rfl⟩ | ⟨rfl, rfl⟩ |
    ⟨rfl, rfl⟩ | ⟨rfl, rfl⟩ | ⟨rfl, rfl⟩
  · exact .sysAdmin _
  · exact .projectAdmin (bne_iff_ne.mp (List.mem_filter.mp about).2)
  · cases RuleTable.mem_ofEntity.mp about
    exact .ownerOnSubject operation
  · rcases RuleTable.mem_broadReads.mp about with ⟨shared, rfl⟩
    exact .ownerReads shared
  · simp only [List.mem_cons, Permission.mk.injEq, List.not_mem_nil, or_false] at about
    rcases about with ⟨rfl, rfl⟩ | ⟨rfl, rfl⟩ | ⟨rfl, rfl⟩ <;> exact .affiliateOnSubject (by decide)
  · rcases RuleTable.mem_broadReads.mp about with ⟨shared, rfl⟩
    exact .affiliateReads shared
  · rcases RuleTable.mem_broadReads.mp about with ⟨shared, rfl⟩
    exact .analystReads shared
  · rw [List.mem_singleton.mp about]
    exact .analystUpdatesSource
  · exact .participant about

theorem exists_rule_of_entitles (rule : Entitles role permission) :
    ∃ permissions, (role, permissions) ∈ RuleTable.rules ∧ permission ∈ permissions := by
  cases rule with
  | sysAdmin permission => exact ⟨_, by simp [RuleTable.rules], RuleTable.mem_all permission⟩
  | projectAdmin present =>
      exact ⟨_, List.mem_cons_of_mem _ List.mem_cons_self,
        List.mem_filter.mpr ⟨RuleTable.mem_all permission, bne_iff_ne.mpr present⟩⟩
  | ownerOnSubject operation =>
      exact ⟨RuleTable.ofEntity .subject, by simp [RuleTable.rules], RuleTable.mem_ofEntity.mpr rfl⟩
  | ownerReads shared =>
      exact ⟨RuleTable.broadReads, by simp [RuleTable.rules], RuleTable.mem_broadReads.mpr ⟨shared, rfl⟩⟩
  | affiliateOnSubject keeps =>
      refine ⟨[⟨.subject, .create⟩, ⟨.subject, .read⟩, ⟨.subject, .update⟩], by simp [RuleTable.rules], ?_⟩
      exact List.mem_map_of_mem (f := Permission.mk .subject) keeps
  | affiliateReads shared =>
      exact ⟨RuleTable.broadReads, by simp [RuleTable.rules], RuleTable.mem_broadReads.mpr ⟨shared, rfl⟩⟩
  | analystReads shared =>
      exact ⟨RuleTable.broadReads, by simp [RuleTable.rules], RuleTable.mem_broadReads.mpr ⟨shared, rfl⟩⟩
  | analystUpdatesSource =>
      exact ⟨[⟨.source, .update⟩], by simp [RuleTable.rules], List.mem_singleton.mpr rfl⟩
  | participant own => exact ⟨_, by simp [RuleTable.rules], own⟩

/-- A role holds exactly what the rules give it. -/
theorem entitles_iff_holds : Entitles role permission ↔ role.holds permission = true :=
  ⟨fun rule => holds_iff_mem_rules.mpr (exists_rule_of_entitles rule), entitles_of_holds⟩

end Role
end TokenAuthority
