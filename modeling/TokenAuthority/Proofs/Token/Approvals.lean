import TokenAuthority.Proofs.Collections
import TokenAuthority.Token.Approvals

/-!
# Histories of approvals

Users approve scopes for a client and take this back, one scope at a time or all of them at once.  A change
affects some approvals and leaves the others alone, those of other users and clients among them.

An approval therefore stands after a history exactly when the last change that affects it gave it, whatever
stood in between, and whatever the history does to other approvals.
-/

namespace TokenAuthority

/-- A scope that a user approves for a client. -/
structure Approval where
  username : String
  clientId : String
  scope : String
deriving DecidableEq, Repr

namespace Approvals

def Stands (approvals : Approvals) (approval : Approval) : Prop :=
  approval.scope ∈ approvals.standing approval.username approval.clientId

/-- Something that a user does to the approvals for a client. -/
inductive Change where
  | approve (username clientId : String) (scopes : List String)
  | revoke (username clientId scope : String)
  | revokeAll (username clientId : String)
deriving DecidableEq, Repr

namespace Change

def affects (approval : Approval) : Change → Bool
  | approve username clientId scopes =>
    approval.username == username && approval.clientId == clientId && scopes.contains approval.scope
  | revoke username clientId scope =>
    approval.username == username && approval.clientId == clientId && approval.scope == scope
  | revokeAll username clientId => approval.username == username && approval.clientId == clientId

/-- A change that gives the approvals that it affects; the others take them away. -/
def gives : Change → Bool
  | approve .. => true
  | revoke .. => false
  | revokeAll .. => false

end Change

def change (approvals : Approvals) : Change → Approvals
  | .approve username clientId scopes => approvals.approve username clientId scopes
  | .revoke username clientId scope => approvals.revoke username clientId scope
  | .revokeAll username clientId => approvals.revokeAll username clientId

/-- What a history, from the oldest change on, makes of the approvals. -/
def changes (approvals : Approvals) (history : List Change) : Approvals :=
  history.foldl change approvals

/-- The last change of a history that affects an approval. -/
def lastChange? (history : List Change) (approval : Approval) : Option Change :=
  (history.filter fun change => change.affects approval).getLast?

/-- Some change of a history affects the approval, and the last one that does gives it. -/
def StandsAfter (history : List Change) (approval : Approval) : Prop :=
  ∃ change, lastChange? history approval = some change ∧ change.gives = true

instance (history : List Change) (approval : Approval) : Decidable (StandsAfter history approval) :=
  decidable_of_iff ((lastChange? history approval).any Change.gives = true) (Option.any_eq_true ..)

theorem lastChange?_cons (first : Change) (history : List Change) (approval : Approval) :
    lastChange? (first :: history) approval =
      (lastChange? history approval).or (if first.affects approval then some first else none) := by
  unfold lastChange?
  by_cases affected : first.affects approval = true
  · rw [List.filter_cons_of_pos affected, List.getLast?_cons, if_pos affected]
    cases (history.filter fun change => change.affects approval).getLast? <;> rfl
  · rw [List.filter_cons_of_neg affected, if_neg affected, Option.or_none]

variable {approvals : Approvals} {approval : Approval}

/-! ## One change -/

section

variable {username clientId user client : String}

theorem standing_approve (scopes : List String) :
    (approvals.approve username clientId scopes).standing user client =
      if user = username ∧ client = clientId then
        OrderedSet.insertAll Ord.compare (approvals.standing user client) scopes
      else approvals.standing user client := by
  rw [standing, approve, Table.get?_insert]
  simp only [Prod.mk.injEq]
  split
  next same => rw [same.1, same.2, Option.getD_some]
  next other => rfl

theorem standing_revoke (scope : String) :
    (approvals.revoke username clientId scope).standing user client =
      if user = username ∧ client = clientId then
        (approvals.standing user client).filter fun other => other != scope
      else approvals.standing user client := by
  unfold revoke
  cases found : approvals.scopes.get? (username, clientId) with
  | none =>
      by_cases same : user = username ∧ client = clientId
      · rw [if_pos same, same.1, same.2, standing, found, Option.getD_none, List.filter_nil]
      · rw [if_neg same]
  | some scopes =>
      rw [standing, Table.get?_insert]
      simp only [Prod.mk.injEq]
      by_cases same : user = username ∧ client = clientId
      · rw [if_pos same, if_pos same, same.1, same.2, standing, found, Option.getD_some, Option.getD_some]
      · rw [if_neg same, if_neg same, standing]

theorem standing_revokeAll :
    (approvals.revokeAll username clientId).standing user client =
      if user = username ∧ client = clientId then [] else approvals.standing user client := by
  rw [standing, revokeAll, Table.get?_erase]
  simp only [Prod.mk.injEq]
  split <;> rfl

end

theorem stands_approve {username clientId : String} {scopes : List String} :
    (approvals.approve username clientId scopes).Stands approval ↔
      approvals.Stands approval ∨
        (approval.username = username ∧ approval.clientId = clientId) ∧ approval.scope ∈ scopes := by
  rw [Stands, standing_approve]
  split
  next same =>
    rw [OrderedSet.mem_insertAll, or_comm]
    exact or_congr_right (and_iff_right same).symm
  next other => exact (or_iff_left fun added => other added.1).symm

theorem stands_revoke {username clientId scope : String} :
    (approvals.revoke username clientId scope).Stands approval ↔
      approvals.Stands approval ∧
        ¬((approval.username = username ∧ approval.clientId = clientId) ∧ approval.scope = scope) := by
  rw [Stands, standing_revoke]
  split
  next same =>
    rw [List.mem_filter, bne_iff_ne]
    exact and_congr_right' (not_congr (and_iff_right same).symm)
  next other => exact (and_iff_left fun taken => other taken.1).symm

theorem stands_revokeAll {username clientId : String} :
    (approvals.revokeAll username clientId).Stands approval ↔
      approvals.Stands approval ∧
        ¬(approval.username = username ∧ approval.clientId = clientId) := by
  rw [Stands, standing_revokeAll]
  split
  next same => exact iff_of_false List.not_mem_nil fun stands => stands.2 same
  next other => exact (and_iff_left other).symm

/-- An approval that a change affects stands if the change gives it.  Every other one is as before. -/
theorem stands_change (change : Change) :
    (approvals.change change).Stands approval ↔
      if change.affects approval then change.gives = true else approvals.Stands approval := by
  cases change with
  | approve username clientId scopes =>
      rw [Approvals.change, stands_approve]
      simp only [Change.affects, Change.gives, Bool.and_eq_true, beq_iff_eq, List.contains_iff_mem]
      split
      next affected => exact iff_of_true (Or.inr affected) trivial
      next spared => exact or_iff_left spared
  | revoke username clientId scope =>
      rw [Approvals.change, stands_revoke]
      simp only [Change.affects, Change.gives, Bool.and_eq_true, beq_iff_eq]
      split
      next affected => exact iff_of_false (fun stands => stands.2 affected) Bool.false_ne_true
      next spared => exact and_iff_left spared
  | revokeAll username clientId =>
      rw [Approvals.change, stands_revokeAll]
      simp only [Change.affects, Change.gives, Bool.and_eq_true, beq_iff_eq]
      split
      next affected => exact iff_of_false (fun stands => stands.2 affected) Bool.false_ne_true
      next spared => exact and_iff_left spared

/-- Scopes are approved if each of them is. -/
theorem isApproved_iff {username clientId : String} {scopes : List String} :
    approvals.isApproved username clientId scopes = true ↔
      ∀ scope ∈ scopes, scope ∈ approvals.standing username clientId := by
  rw [isApproved, standing]
  cases scopes with
  | nil => exact iff_of_true rfl nofun
  | cons first rest =>
      cases approvals.scopes.get? (username, clientId) with
      | none => exact iff_of_false Bool.false_ne_true fun each => nomatch each first List.mem_cons_self
      | some standing =>
          rw [List.isEmpty_cons, Bool.false_or, List.all_eq_true]
          exact forall₂_congr fun scope _ => List.contains_iff_mem

/-! ## Histories -/

theorem stands_changes (history : List Change) :
    (approvals.changes history).Stands approval ↔
      match lastChange? history approval with
      | some change => change.gives = true
      | none => approvals.Stands approval := by
  induction history generalizing approvals with
  | nil => rfl
  | cons first history ih =>
      rw [changes, List.foldl_cons, ← changes, ih, lastChange?_cons]
      cases lastChange? history approval with
      | some change => rfl
      | none =>
          rw [Option.none_or]
          dsimp only
          rw [stands_change]
          split <;> rfl

/-- After a history that begins with no approvals, scopes are approved if the last change for each of them
gave it.  No scope needs no approval. -/
theorem isApproved_changes_iff (history : List Change) (username clientId : String)
    (scopes : List String) :
    (({} : Approvals).changes history).isApproved username clientId scopes = true ↔
      ∀ scope ∈ scopes, StandsAfter history ⟨username, clientId, scope⟩ := by
  rw [isApproved_iff]
  apply forall₂_congr
  intro scope _
  change Stands _ ⟨username, clientId, scope⟩ ↔ _
  rw [stands_changes, StandsAfter]
  cases lastChange? history ⟨username, clientId, scope⟩ with
  | none => exact iff_of_false List.not_mem_nil (by simp)
  | some change => simp only [Option.some.injEq, exists_eq_left']

end Approvals
end TokenAuthority
