import Mathlib.Data.List.Basic
import Mathlib.Data.List.DropRight
import TokenAuthority.Catalog.Assignment
import TokenAuthority.Proofs.Text.Separators

/-!
# Role claims

Every assignment that can be built is stated by its own role claim.  A referent may hold colons, since a
claim is cut at its last one and no role has a colon in its name; an empty referent is none, so a claim
never stands for two assignments.

In the other direction, what a claim states can be read off its text: the part after the last colon names
the role, with or without the start of an authority, and the part before it is the referent.
-/

namespace TokenAuthority

namespace Role

theorem colon_not_mem_name (role : Role) : ':' ∉ role.name.toList := by
  cases role <;> decide +kernel

/-- A role is denoted by its name. -/
theorem ofName?_name (role : Role) : ofName? role.name = some role := by
  cases role <;> decide +kernel

/-- A text names a role by the name of it, or by this name as an authority. -/
def IsNamedBy (role : Role) (text : String) : Prop :=
  text = role.name ∨ text = role.authority

instance (role : Role) (text : String) : Decidable (role.IsNamedBy text) :=
  inferInstanceAs (Decidable (text = role.name ∨ text = role.authority))

/-- Only one start of an authority is taken off, and no name begins with it. -/
theorem ofName?_eq_some_iff {role : Role} {text : String} :
    ofName? text = some role ↔ role.IsNamedBy text := by
  constructor
  · intro found
    have same : role.name.toList = withoutAuthorityStart text.toList := by
      simpa using List.find?_some found
    unfold withoutAuthorityStart at same
    cases start : Text.dropFront? authorityStart.toList text.toList with
    | none =>
        rw [start] at same
        exact Or.inl (String.toList_inj.mp same.symm)
    | some rest =>
        rw [start] at same
        refine Or.inr (String.toList_inj.mp ?_)
        rw [authority, String.toList_append, same]
        exact Text.eq_append_of_dropFront? start
  · rintro (rfl | rfl)
    · exact role.ofName?_name
    · cases role <;> decide +kernel

theorem IsNamedBy.colon_not_mem {role : Role} {text : String} (named : role.IsNamedBy text) :
    ':' ∉ text.toList := by
  rcases named with rfl | rfl
  · exact role.colon_not_mem_name
  · cases role <;> decide +kernel

end Role

namespace Assignment

/-- An assignment that can be built: its referent, if it has one, is not empty. -/
def IsNormal (assignment : Assignment) : Prop :=
  assignment.referent ≠ some ""

instance (assignment : Assignment) : Decidable assignment.IsNormal :=
  inferInstanceAs (Decidable (assignment.referent ≠ some ""))

theorem isNormal_within (role : Role) (referent : String) : (within role referent).IsNormal := by
  unfold IsNormal within
  by_cases empty : referent = ""
  · simp [empty]
  · have filled : referent.isEmpty = false := by
      rw [Bool.eq_false_iff, ne_eq, String.isEmpty_iff]
      exact empty
    simp [filled, empty]

/-- What can be built is what a role and a referent, which may be empty, give. -/
theorem within_referent {assignment : Assignment} (normal : assignment.IsNormal) :
    within assignment.role (assignment.referent.getD "") = assignment := by
  rcases assignment with ⟨role, _ | referent⟩
  · rfl
  · have filled : referent.isEmpty = false := by
      rw [Bool.eq_false_iff, ne_eq, String.isEmpty_iff]
      rintro rfl
      exact normal rfl
    simp [within, filled]

theorem within_of_ne {referent : String} (filled : referent ≠ "") (role : Role) :
    within role referent = ⟨role, some referent⟩ := by
  have normal : (Assignment.mk role (some referent)).IsNormal := filled ∘ Option.some.inj
  exact within_referent normal

theorem eq_of_referent_within {role : Role} {given referent : String}
    (same : (within role given).referent = some referent) : given = referent := by
  unfold within at same
  split at same
  · cases same
  · exact Option.some.inj same

/-! ## What a claim states -/

theorem toList_append_colon (referent name : String) :
    (referent ++ ":" ++ name).toList = referent.toList ++ ':' :: name.toList := by
  simp only [String.toList_append, List.append_assoc]
  rfl

/-- A claim has no colon, or it is cut at its last one. -/
theorem not_mem_or_exists_append (claim : String) :
    ':' ∉ claim.toList ∨
      ∃ referent name, claim = referent ++ ":" ++ name ∧ ':' ∉ name.toList := by
  cases cut : Text.splitLastChars? ':' claim.toList with
  | none => exact Or.inl (Text.not_mem_of_splitLastChars?_eq_none cut)
  | some parts =>
      rcases parts with ⟨before, after⟩
      rcases Text.eq_append_of_splitLastChars? cut with ⟨joined, absent⟩
      refine Or.inr ⟨String.ofList before, String.ofList after, String.toList_inj.mp ?_, ?_⟩
      · rw [joined, toList_append_colon, String.toList_ofList, String.toList_ofList]
      · rwa [String.toList_ofList]

/-- A claim without a colon is read as a role. -/
theorem ofClaim_of_not_mem {claim : String} (absent : ':' ∉ claim.toList) :
    ofClaim claim = (Role.parse claim).map bare := by
  have uncut : Text.splitLast? ':' claim = none := by
    rw [Text.splitLast?, Text.splitLastChars?_of_not_mem absent]
    rfl
  rw [ofClaim, uncut]

/-- Another claim is read as a referent and a role, which are those around its last colon. -/
theorem ofClaim_append (referent : String) {name : String} (absent : ':' ∉ name.toList) :
    ofClaim (referent ++ ":" ++ name) =
      (Role.ofName? name).elim (.error (.invalidRoleClaim (referent ++ ":" ++ name))) fun role =>
        .ok (within role referent) := by
  have cut : Text.splitLast? ':' (referent ++ ":" ++ name) = some (referent, name) := by
    simp only [Text.splitLast?, toList_append_colon, Text.splitLastChars?_append referent.toList absent,
      Option.map_some, String.ofList_toList]
  simp only [ofClaim, cut]
  cases Role.ofName? name <;> rfl

/-- A claim states a role that it names, alone or behind a referent. -/
theorem ofClaim_eq_ok_iff {claim : String} {assignment : Assignment} :
    ofClaim claim = .ok assignment ↔
      ∃ name, assignment.role.IsNamedBy name ∧
        ((claim = name ∧ assignment.referent = none) ∨
          ∃ referent, claim = referent ++ ":" ++ name ∧
            assignment = within assignment.role referent) := by
  constructor
  · intro stated
    rcases not_mem_or_exists_append claim with absent | ⟨referent, name, rfl, absent⟩
    · rw [ofClaim_of_not_mem absent, Role.parse] at stated
      cases found : Role.ofName? claim with
      | none =>
          rw [found] at stated
          cases stated
      | some role =>
          rw [found] at stated
          cases stated
          exact ⟨claim, Role.ofName?_eq_some_iff.mp found, Or.inl ⟨rfl, rfl⟩⟩
    · rw [ofClaim_append referent absent] at stated
      cases found : Role.ofName? name with
      | none =>
          rw [found] at stated
          cases stated
      | some role =>
          rw [found] at stated
          cases stated
          exact ⟨name, Role.ofName?_eq_some_iff.mp found, Or.inr ⟨referent, rfl, rfl⟩⟩
  · rintro ⟨name, named, ⟨rfl, bareReferent⟩ | ⟨referent, rfl, same⟩⟩
    · rw [ofClaim_of_not_mem named.colon_not_mem, Role.parse, Role.ofName?_eq_some_iff.mpr named]
      rcases assignment with ⟨role, referent⟩
      cases bareReferent
      rfl
    · rw [ofClaim_append referent named.colon_not_mem, Role.ofName?_eq_some_iff.mpr named]
      exact congrArg Except.ok same.symm

/-- A claim states only assignments that can be built. -/
theorem isNormal_of_ofClaim {claim : String} {assignment : Assignment}
    (stated : ofClaim claim = .ok assignment) : assignment.IsNormal := by
  rcases ofClaim_eq_ok_iff.mp stated with ⟨_, _, ⟨_, bareReferent⟩ | ⟨referent, _, same⟩⟩
  · rw [IsNormal, bareReferent]
    exact nofun
  · rw [same]
    exact isNormal_within _ referent

/-- An assignment is what its role claim states. -/
theorem ofClaim_claim {assignment : Assignment} (normal : assignment.IsNormal) :
    ofClaim assignment.claim = .ok assignment := by
  refine ofClaim_eq_ok_iff.mpr ⟨assignment.role.name, Or.inl rfl, ?_⟩
  cases refers : assignment.referent with
  | none => exact Or.inl ⟨by rw [claim, refers], rfl⟩
  | some referent =>
      have same := within_referent normal
      rw [refers, Option.getD_some] at same
      exact Or.inr ⟨referent, by rw [claim, refers], same.symm⟩

/-! ## The part that names the role -/

/-- What a role claim says of the role: the text after its last colon, or all of it without a colon. -/
def rolePart (claim : String) : String :=
  String.ofList (claim.toList.rtakeWhile fun character => character ≠ ':')

theorem rolePart_of_not_mem {claim : String} (absent : ':' ∉ claim.toList) : rolePart claim = claim := by
  have whole : claim.toList.rtakeWhile (fun character => character ≠ ':') = claim.toList := by
    rw [List.rtakeWhile_eq_self_iff]
    intro character member
    exact decide_eq_true fun colon => absent (colon ▸ member)
  rw [rolePart, whole, String.ofList_toList]

theorem rolePart_append (referent : String) {name : String} (absent : ':' ∉ name.toList) :
    rolePart (referent ++ ":" ++ name) = name := by
  have passed : ∀ character ∈ name.toList.reverse, decide (character ≠ ':') = true := by
    intro character member
    exact decide_eq_true fun colon => absent (colon ▸ List.mem_reverse.mp member)
  rw [rolePart, toList_append_colon, List.rtakeWhile, List.reverse_append, List.reverse_cons,
    List.append_assoc, List.takeWhile_append_of_pos passed, List.singleton_append,
    List.takeWhile_cons_of_neg (by simp), List.append_nil, List.reverse_reverse, String.ofList_toList]

/-- A claim states an assignment of a role exactly when its last part names the role. -/
theorem exists_ofClaim_iff {claim : String} {role : Role} :
    (∃ assignment, ofClaim claim = .ok assignment ∧ assignment.role = role) ↔
      role.IsNamedBy (rolePart claim) := by
  simp only [ofClaim_eq_ok_iff]
  constructor
  · rintro ⟨assignment, ⟨name, named, ⟨rfl, _⟩ | ⟨referent, rfl, _⟩⟩, rfl⟩
    · rwa [rolePart_of_not_mem named.colon_not_mem]
    · rwa [rolePart_append referent named.colon_not_mem]
  · intro named
    rcases not_mem_or_exists_append claim with absent | ⟨referent, name, rfl, absent⟩
    · rw [rolePart_of_not_mem absent] at named
      exact ⟨bare role, ⟨claim, named, Or.inl ⟨rfl, rfl⟩⟩, rfl⟩
    · rw [rolePart_append referent absent] at named
      exact ⟨within role referent, ⟨name, named, Or.inr ⟨referent, rfl, rfl⟩⟩, rfl⟩

/-- A claim states a role with a given referent exactly when it is the referent with a name of the role. -/
theorem ofClaim_eq_ok_within_iff {claim referent : String} (filled : referent ≠ "") {role : Role} :
    ofClaim claim = .ok ⟨role, some referent⟩ ↔
      claim = referent ++ ":" ++ role.name ∨ claim = referent ++ ":" ++ role.authority := by
  have kept := within_of_ne filled role
  rw [ofClaim_eq_ok_iff]
  constructor
  · rintro ⟨name, named, ⟨_, missing⟩ | ⟨other, rfl, same⟩⟩
    · cases missing
    · rw [← eq_of_referent_within (congrArg Assignment.referent same).symm]
      exact named.imp (congrArg (other ++ ":" ++ ·)) (congrArg (other ++ ":" ++ ·))
  · rintro (rfl | rfl)
    · exact ⟨role.name, Or.inl rfl, Or.inr ⟨referent, rfl, kept.symm⟩⟩
    · exact ⟨role.authority, Or.inr rfl, Or.inr ⟨referent, rfl, kept.symm⟩⟩

end Assignment
end TokenAuthority
