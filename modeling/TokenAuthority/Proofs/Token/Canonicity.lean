import Mathlib.Data.List.Sort
import Mathlib.Order.Compare
import TokenAuthority.Json.Writer
import TokenAuthority.Proofs.Failure
import TokenAuthority.Proofs.Text.ByteOrder
import TokenAuthority.Proofs.Token.Scopes
import TokenAuthority.Token.ClaimSet

/-!
# The canonical form of claims

Claims are made by calls: steps of a construction, narrowing for a profile, and reading a claim set.  Whatever the
calls, what they have added decides the collections.  The scopes are those that were added since others were last
put in place of all, each where it was added first; the roles are the assignments that were added, in their order.

So it does not matter in which order, how often or by which call an assignment was added.  Calls that add the same
assignments and agree on everything else make the same claims, which are signed with the same bytes.
-/

namespace TokenAuthority

namespace Assignment

/-- Stands before another assignment: by the place of its role in the catalog, and for the same role without a
referent before those with one, which are in the order of their bytes. -/
inductive Precedes : Assignment → Assignment → Prop
  | role {left right : Assignment} (earlier : Role.all.idxOf left.role < Role.all.idxOf right.role) :
      Precedes left right
  | bare (role : Role) (referent : String) : Precedes ⟨role, none⟩ ⟨role, some referent⟩
  | referent (role : Role) {left right : String} (before : Text.IsBefore left right) :
      Precedes ⟨role, some left⟩ ⟨role, some right⟩

theorem rank_eq_idxOf (role : Role) : role.rank = Role.all.idxOf role := by
  cases role <;> rfl

/-- The comparison of assignments is their order. -/
theorem compare_eq_lt_iff {left right : Assignment} : left.compare right = .lt ↔ left.Precedes right := by
  rcases left with ⟨leftRole, leftReferent⟩
  rcases right with ⟨rightRole, rightReferent⟩
  rw [compare, Ordering.then_eq_lt, Role.compare, Nat.compare_eq_lt, Nat.compare_eq_eq]
  constructor
  · rintro (earlier | ⟨same, behind⟩)
    · exact .role (by rwa [← rank_eq_idxOf, ← rank_eq_idxOf])
    · cases Role.rank_injective same
      cases leftReferent <;> cases rightReferent
      · cases behind
      · exact .bare _ _
      · cases behind
      · exact .referent _ (Text.isBefore_iff.mpr (compare_lt_iff_lt.mp behind))
  · intro precedes
    cases precedes with
    | role earlier => exact Or.inl (by rwa [rank_eq_idxOf, rank_eq_idxOf])
    | bare => exact Or.inr ⟨rfl, rfl⟩
    | referent _ before => exact Or.inr ⟨rfl, compare_lt_iff_lt.mpr (Text.isBefore_iff.mp before)⟩

theorem pairwise_precedes {set : List Assignment} (ordered : OrderedSet.IsOrdered compare set) :
    set.Pairwise Precedes :=
  ordered.imp compare_eq_lt_iff.mp

/-- The assignments that role claims state; claims that state none are left out. -/
def statedBy (roleClaims : List String) : List Assignment :=
  roleClaims.filterMap fun claim => (ofClaim claim).toOption

end Assignment

namespace Claims

/-- What calls have added: the scopes since they were last put in place of others, and the assignments since a
claim set was last read. -/
structure Added where
  scopes : List String := []
  roles : List Assignment := []

/-- A call in the making of claims.  Claims are a value, so taking finished claims up again is no call. -/
inductive Call where
  | step (step : Step)
  /-- Narrows the claims for a person. -/
  | enhance (profile : Profile)
  /-- Takes the claims of a claim set in place of all others, if its times are representable. -/
  | decode (claimSet : ClaimSet) (text : String)

namespace Call

def apply (claims : Claims) : Call → Claims
  | step next => next.apply claims
  | enhance profile => claims.enhance profile
  | decode claimSet text => (claimSet.toClaims text).toOption.getD claims

/-- What has been added after a call. -/
def add (added : Added) : Call → Added
  | step (.role assignment _) => { added with roles := added.roles ++ [assignment] }
  | step (.roles assignments _) => { added with roles := added.roles ++ assignments }
  | step (.roleClaims stated) => { added with roles := added.roles ++ Assignment.statedBy stated }
  | step (.scope name) => { added with scopes := added.scopes ++ [name] }
  | step (.scopes names) => { added with scopes := added.scopes ++ names }
  | step (.onlyScopes names) => { added with scopes := names }
  | step _ => added
  | enhance profile =>
    { scopes := added.scopes.filter (isGrantable profile.effectiveRoles)
      roles := added.roles ++ profile.roles }
  | decode claimSet text =>
    match claimSet.toClaims text with
    | .ok _ => { scopes := claimSet.scopes, roles := Assignment.statedBy claimSet.roles }
    | .error _ => added

end Call

/-- The claims that calls make, from the first one on. -/
def made (calls : List Call) : Claims :=
  calls.foldl Call.apply {}

/-- What calls have added. -/
def added (calls : List Call) : Added :=
  calls.foldl Call.add {}

/-- The text of the claim set that is signed for claims. -/
def signedText (claims : Claims) : Except TokenError String :=
  (ClaimSet.ofClaims claims).map fun claimSet => claimSet.toJson.compact

/-- Claims keep what was added: every scope where it was added first, and the assignments in their order. -/
structure Keeps (claims : Claims) (added : Added) : Prop where
  scopes : claims.scopes = added.scopes.foldl addScopeTo []
  roles : OrderedSet.IsOrdered Assignment.compare claims.roles
  mem_roles : ∀ assignment, assignment ∈ claims.roles ↔ assignment ∈ added.roles

namespace Keeps

variable {claims : Claims} {added : Added}

theorem of_nil (noScopes : claims.scopes = []) (noRoles : claims.roles = []) : claims.Keeps {} where
  scopes := noScopes
  roles := by
    rw [noRoles]
    exact List.Pairwise.nil
  mem_roles := by
    intro assignment
    rw [noRoles]

theorem addRoles (keeps : claims.Keeps added) (assignments : List Assignment) :
    (claims.addRoles assignments).Keeps { added with roles := added.roles ++ assignments } where
  scopes := keeps.scopes
  roles := keeps.roles.insertAll assignments
  mem_roles := by
    intro assignment
    rw [List.mem_append, or_comm, ← keeps.mem_roles]
    exact OrderedSet.mem_insertAll assignments

theorem addScopes (keeps : claims.Keeps added) (names : List String) :
    (claims.addScopes names).Keeps { added with scopes := added.scopes ++ names } where
  scopes := by
    rw [List.foldl_append, ← keeps.scopes]
    rfl
  roles := keeps.roles
  mem_roles := keeps.mem_roles

theorem enhance (keeps : claims.Keeps added) (profile : Profile) :
    (claims.enhance profile).Keeps (Call.add added (.enhance profile)) where
  scopes := by
    rw [scopes_enhance, keeps.scopes, filter_foldl_addScopeTo, List.filter_nil, foldl_addScopeTo_twice]
    rfl
  roles := (keeps.addRoles profile.roles).roles
  mem_roles := (keeps.addRoles profile.roles).mem_roles

theorem of_toClaims {claimSet : ClaimSet} {text : String} (taken : claimSet.toClaims text = .ok claims) :
    claims.Keeps { scopes := claimSet.scopes, roles := Assignment.statedBy claimSet.roles } := by
  unfold ClaimSet.toClaims at taken
  rcases exists_ok_of_bind taken with ⟨expiry, _, taken⟩
  rcases exists_ok_of_bind taken with ⟨issuedAt, _, taken⟩
  cases taken
  exact ((of_nil rfl rfl).addRoles (Assignment.statedBy claimSet.roles)).addScopes claimSet.scopes

/-- A call keeps what was added. -/
theorem apply (keeps : claims.Keeps added) (call : Call) : (call.apply claims).Keeps (call.add added) := by
  cases call with
  | step next =>
      cases next with
      | role assignment _ => exact keeps.addRoles [assignment]
      | roles assignments _ => exact keeps.addRoles assignments
      | roleClaims stated => exact keeps.addRoles (Assignment.statedBy stated)
      | scope name => exact keeps.addScopes [name]
      | scopes names => exact keeps.addScopes names
      | onlyScopes names => exact { keeps with scopes := rfl }
      | _ => exact { keeps with }
  | enhance profile => exact keeps.enhance profile
  | decode claimSet text =>
      rw [Call.apply, Call.add]
      cases taken : claimSet.toClaims text with
      | error error => exact keeps
      | ok claims => exact of_toClaims taken

theorem foldl_apply (keeps : claims.Keeps added) (calls : List Call) :
    (calls.foldl Call.apply claims).Keeps (calls.foldl Call.add added) := by
  induction calls generalizing claims added with
  | nil => exact keeps
  | cons call calls ih => exact ih (keeps.apply call)

end Keeps

theorem keeps_made (calls : List Call) : (made calls).Keeps (added calls) :=
  (Keeps.of_nil rfl rfl).foldl_apply calls

/-- Claims with other roles. -/
def withRoles (claims : Claims) (roles : List Assignment) : Claims :=
  { claims with roles }

/-- Roles are signed as their role claims, and everything else is signed regardless of them. -/
theorem ofClaims_eq_map (claims : Claims) : ClaimSet.ofClaims claims =
    (ClaimSet.ofClaims (claims.withRoles [])).map fun claimSet =>
      { claimSet with roles := claims.roles.map Assignment.claim } := by
  unfold ClaimSet.ofClaims withRoles
  cases claims.expiresAt <;> rfl

/-- The scopes that calls make are those that were added, each once and where it was added first, and the roles
are the added assignments in strict order.  If other calls add the same assignments, then what is equal but for the
roles is equal, and what is signed alike but for the roles is signed with the same text. -/
theorem canonical_made (calls : List Call) :
    (made calls).scopes.Nodup ∧ (made calls).scopes = (added calls).scopes.eraseDups ∧
      (made calls).roles.Pairwise Assignment.Precedes ∧ (made calls).roles.Nodup ∧
      (∀ assignment, assignment ∈ (made calls).roles ↔ assignment ∈ (added calls).roles) ∧
      ∀ others, (∀ assignment, assignment ∈ (added calls).roles ↔ assignment ∈ (added others).roles) →
        ((made calls).withRoles [] = (made others).withRoles [] → made calls = made others) ∧
        (ClaimSet.ofClaims ((made calls).withRoles []) = ClaimSet.ofClaims ((made others).withRoles []) →
          (made calls).signedText = (made others).signedText) := by
  have keeps := keeps_made calls
  refine ⟨?_, ?_, Assignment.pairwise_precedes keeps.roles, keeps.roles.nodup, keeps.mem_roles, ?_⟩
  · rw [keeps.scopes]
    exact nodup_foldl_addScopeTo List.nodup_nil _
  · rw [keeps.scopes, foldl_addScopeTo_eq_eraseDups]
  · intro others same
    have keepsOthers := keeps_made others
    have roles : (made calls).roles = (made others).roles := by
      apply keeps.roles.eq_of_mem_iff keepsOthers.roles
      intro assignment
      rw [keeps.mem_roles, keepsOthers.mem_roles, same]
    constructor
    · intro alike
      calc made calls = ((made calls).withRoles []).withRoles (made calls).roles := rfl
        _ = ((made others).withRoles []).withRoles (made others).roles := by rw [alike, roles]
        _ = made others := rfl
    · intro alike
      rw [signedText, signedText, ofClaims_eq_map (made calls), ofClaims_eq_map (made others), alike, roles]

/-- Two projects of a participant, added one by one, with steps for everything that reading a claim set sets. -/
def stepwise : List Call :=
  [.step (.role (.within .participant "P") (Assignment.isNormal_within _ _)), .step (.scopes ["A", "B"]),
    .step (.roleClaims ["unknown", "Q:PARTICIPANT"]), .step (.onlyScopes ["C", "C"]), .step (.scope "A"),
    .step (.expiresAt ⟨1700, 0⟩ rfl), .step (.token "text"), .step (.tokenType ClaimSet.tokenType)]

/-- The same, as one claim set with repetitions. -/
def atOnce : List Call :=
  [.decode { scopes := ["C", "A", "C"], roles := ["Q:PARTICIPANT", "P:PARTICIPANT", "none", "Q:PARTICIPANT"],
             expiry := 1700 } "text"]

theorem canonical_made_stepwise :
    (made stepwise).scopes = ["C", "A"] ∧ (made stepwise).roles.Pairwise Assignment.Precedes ∧
      made stepwise = made atOnce ∧ (made stepwise).signedText = (made atOnce).signedText := by
  rcases canonical_made stepwise with ⟨_, scopes, ordered, _, _, unique⟩
  have same : ∀ assignment, assignment ∈ (added stepwise).roles ↔ assignment ∈ (added atOnce).roles := by
    have first : (added stepwise).roles = [.within .participant "P", .within .participant "Q"] := by
      decide +kernel
    have second : (added atOnce).roles = [.within .participant "Q", .within .participant "P",
        .within .participant "Q"] := by
      decide +kernel
    intro assignment
    rw [first, second]
    simp only [List.mem_cons, List.not_mem_nil, or_false]
    tauto
  have alike : (made stepwise).withRoles [] = (made atOnce).withRoles [] := by decide +kernel
  rw [scopes]
  exact ⟨by decide +kernel, ordered, (unique atOnce same).1 alike, (unique atOnce same).2 (congrArg _ alike)⟩

end Claims
end TokenAuthority
