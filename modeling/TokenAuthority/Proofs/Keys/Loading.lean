import Mathlib.Data.List.Nodup
import TokenAuthority.Keys.Keyring
import TokenAuthority.Proofs.Failure

/-!
# What is loaded

The keys of a ring are read one after the other from one store.  Whatever the store is, every key that is
loaded is formed of what the store has for its name, and no name is loaded twice.  Names that are passed over
leave no trace.
-/

namespace TokenAuthority

/-- The pair is the one that the halves form which are looked up under its name. -/
def NamedKey.IsIn (key : NamedKey) (lookup : PairLookup) : Prop :=
  ∃ encoded, lookup key.name = .ok encoded ∧ KeyPair.ofEncoded key.name encoded = .ok key.pair

/-- A store has one pair under a name. -/
theorem NamedKey.eq_of_isIn {lookup : PairLookup} {key other : NamedKey} (isIn : key.IsIn lookup)
    (otherIsIn : other.IsIn lookup) (same : key.name = other.name) : key = other := by
  rcases key with ⟨name, pair⟩
  rcases other with ⟨_, otherPair⟩
  cases same
  rcases isIn with ⟨encoded, stored, formed⟩
  rcases otherIsIn with ⟨otherEncoded, otherStored, otherFormed⟩
  cases stored.symm.trans otherStored
  cases formed.symm.trans otherFormed
  rfl

namespace Keyring

/-- Keys of a store under distinct names. -/
structure AreIn (keys : List NamedKey) (lookup : PairLookup) : Prop where
  each : ∀ key ∈ keys, key.IsIn lookup
  distinct : (keys.map NamedKey.name).Nodup

variable {lookup : PairLookup} {name : String} {key : NamedKey} {loaded keys : List NamedKey}

theorem areIn_singleton (isIn : key.IsIn lookup) : AreIn [key] lookup where
  each := by
    intro other member
    rw [List.mem_singleton.mp member]
    exact isIn
  distinct := List.nodup_singleton key.name

theorem AreIn.append_singleton (areIn : AreIn loaded lookup) (isIn : key.IsIn lookup)
    (fresh : key.name ∉ loaded.map NamedKey.name) : AreIn (loaded ++ [key]) lookup where
  each := by
    intro other member
    rcases List.mem_append.mp member with before | last
    · exact areIn.each other before
    · rw [List.mem_singleton.mp last]
      exact isIn
  distinct := by
    rw [List.map_append, List.map_singleton, List.nodup_append]
    refine ⟨areIn.distinct, List.nodup_singleton key.name, ?_⟩
    rintro other before _ last rfl
    exact fresh (List.mem_singleton.mp last ▸ before)

theorem isIn_of_loadSigning (found : loadSigning lookup name = .ok key) :
    key.name = name ∧ key.IsIn lookup := by
  unfold loadSigning at found
  split at found
  · cases found
  next encoded stored =>
    rcases exists_ok_of_map found with ⟨pair, formed, rfl⟩
    exact ⟨rfl, encoded, stored, formed⟩

theorem isIn_of_loadChecking (found : loadChecking lookup name = .ok (some key)) :
    key.name = name ∧ key.IsIn lookup := by
  unfold loadChecking at found
  split at found
  · cases found
  · cases found
  next encoded stored =>
    rcases exists_ok_of_map found with ⟨pair, formed, same⟩
    cases same
    exact ⟨rfl, encoded, stored, formed⟩

/-- What loading a name makes of the keys that are loaded: it passes the name over, unless the store has it and
it is not loaded yet, and otherwise puts the key of this name at the end. -/
inductive LoadsTo (lookup : PairLookup) (loaded : List NamedKey) (name : String) : List NamedKey → Prop where
  | passed (known : ∀ encoded, lookup name = .ok encoded → name ∈ loaded.map NamedKey.name) :
      LoadsTo lookup loaded name loaded
  | added (key : NamedKey) (named : key.name = name) (isIn : key.IsIn lookup)
      (fresh : name ∉ loaded.map NamedKey.name) : LoadsTo lookup loaded name (loaded ++ [key])

theorem any_name_eq (loaded : List NamedKey) (name : String) :
    (loaded.any fun key => key.name == name) = true ↔ name ∈ loaded.map NamedKey.name := by
  simp only [List.any_eq_true, beq_iff_eq, List.mem_map]

/-- Names are loaded one after the other. -/
theorem exists_loadsTo_of_loadAll_cons {names : List String}
    (success : loadAll lookup loaded (name :: names) = .ok keys) :
    ∃ next, LoadsTo lookup loaded name next ∧ loadAll lookup next names = .ok keys := by
  rw [loadAll] at success
  split at success
  next present =>
    exact ⟨loaded, .passed fun _ _ => (any_name_eq loaded name).mp present, success⟩
  next fresh =>
    split at success
    · cases success
    next absent =>
      refine ⟨loaded, .passed ?_, success⟩
      intro encoded stored
      rw [loadChecking, stored] at absent
      rcases exists_ok_of_map absent with ⟨pair, _, found⟩
      cases found
    next key found =>
      rcases isIn_of_loadChecking found with ⟨named, isIn⟩
      exact ⟨loaded ++ [key], .added key named isIn fun present =>
        fresh ((any_name_eq loaded name).mpr present), success⟩

namespace LoadsTo

variable {next : List NamedKey} (step : LoadsTo lookup loaded name next)

include step

theorem keeps : loaded <+: next := by
  cases step with
  | passed => exact List.prefix_rfl
  | added key => exact List.prefix_append loaded [key]

theorem areIn (before : AreIn loaded lookup) : AreIn next lookup := by
  cases step with
  | passed => exact before
  | added key named isIn fresh => exact before.append_singleton isIn (named ▸ fresh)

theorem name_mem {encoded : EncodedPair} (stored : lookup name = .ok encoded) :
    name ∈ next.map NamedKey.name := by
  cases step with
  | passed known => exact known encoded stored
  | added key named =>
      rw [List.map_append, List.map_singleton, named]
      exact List.mem_append_right _ List.mem_cons_self

theorem mem_or_name_eq (member : key ∈ next) : key ∈ loaded ∨ key.name = name := by
  cases step with
  | passed => exact Or.inl member
  | added other named =>
      rcases List.mem_append.mp member with before | last
      · exact Or.inl before
      · rw [List.mem_singleton.mp last]
        exact Or.inr named

end LoadsTo

section

variable {names : List String}

/-- Loading more keys keeps those that are loaded in their place. -/
theorem prefix_of_loadAll (success : loadAll lookup loaded names = .ok keys) : loaded <+: keys := by
  induction names generalizing loaded with
  | nil =>
      cases success
      exact List.prefix_rfl
  | cons name names ih =>
      rcases exists_loadsTo_of_loadAll_cons success with ⟨next, step, onwards⟩
      exact step.keeps.trans (ih onwards)

theorem areIn_of_loadAll (success : loadAll lookup loaded names = .ok keys)
    (areIn : AreIn loaded lookup) : AreIn keys lookup := by
  induction names generalizing loaded with
  | nil =>
      cases success
      exact areIn
  | cons name names ih =>
      rcases exists_loadsTo_of_loadAll_cons success with ⟨next, step, onwards⟩
      exact ih onwards (step.areIn areIn)

/-- Every name that the store has is loaded. -/
theorem name_mem_of_loadAll (success : loadAll lookup loaded names = .ok keys) (listed : name ∈ names)
    {encoded : EncodedPair} (stored : lookup name = .ok encoded) : name ∈ keys.map NamedKey.name := by
  induction names generalizing loaded with
  | nil => cases listed
  | cons first names ih =>
      rcases exists_loadsTo_of_loadAll_cons success with ⟨next, step, onwards⟩
      rcases List.mem_cons.mp listed with rfl | later
      · exact List.map_subset NamedKey.name (prefix_of_loadAll onwards).subset (step.name_mem stored)
      · exact ih onwards later

/-- Nothing is loaded but what was loaded before and what is named. -/
theorem mem_or_name_mem_of_loadAll (success : loadAll lookup loaded names = .ok keys)
    (member : key ∈ keys) : key ∈ loaded ∨ key.name ∈ names := by
  induction names generalizing loaded with
  | nil =>
      cases success
      exact Or.inl member
  | cons name names ih =>
      rcases exists_loadsTo_of_loadAll_cons success with ⟨next, step, onwards⟩
      rcases ih onwards with before | later
      · refine (step.mem_or_name_eq before).imp_right ?_
        intro same
        rw [same]
        exact List.mem_cons_self
      · exact Or.inr (List.mem_cons_of_mem name later)

end

/-- The keys of a ring that is loaded are in the first store that opens, the signing key under the name that
the settings have for it. -/
theorem exists_lookup_of_loadWith {opener : StoreOpener} {settings : Config.KeystoreSettings}
    {audience : String} {leeway : UInt64} {ring : Keyring}
    (success : loadWith opener settings audience leeway = .ok ring) :
    ∃ lookup, opener.first? settings.password settings.locations = some lookup ∧
      ring.signing.name = settings.signingAlias ∧ AreIn ring.keys lookup := by
  unfold loadWith at success
  split at success
  · cases success
  next lookup opened =>
    rcases exists_ok_of_bind success with ⟨signing, found, success⟩
    rcases exists_ok_of_bind success with ⟨loaded, foundAll, success⟩
    rcases isIn_of_loadSigning found with ⟨named, isIn⟩
    have areIn := areIn_of_loadAll foundAll (areIn_singleton isIn)
    rcases prefix_of_loadAll foundAll with ⟨others, rfl⟩
    cases success
    exact ⟨lookup, opened, named, areIn⟩

/-- The keys that only check are those that the settings list and the store has, but for the one that signs. -/
theorem mem_checking_iff_of_loadWith {opener : StoreOpener} {settings : Config.KeystoreSettings}
    {audience : String} {leeway : UInt64} {ring : Keyring}
    (success : loadWith opener settings audience leeway = .ok ring)
    (opened : opener.first? settings.password settings.locations = some lookup) :
    key ∈ ring.checking ↔
      key.IsIn lookup ∧ key.name ∈ settings.checkingAliases ∧ key.name ≠ settings.signingAlias := by
  unfold loadWith at success
  rw [opened] at success
  rcases exists_ok_of_bind success with ⟨signing, found, success⟩
  rcases exists_ok_of_bind success with ⟨loaded, foundAll, success⟩
  rcases isIn_of_loadSigning found with ⟨named, signingIsIn⟩
  have areIn := areIn_of_loadAll foundAll (areIn_singleton signingIsIn)
  have sound : key ∈ loaded → key ∈ [signing] ∨ key.name ∈ settings.checkingAliases :=
    mem_or_name_mem_of_loadAll foundAll
  have complete : key.name ∈ settings.checkingAliases → ∀ encoded, lookup key.name = .ok encoded →
      key.name ∈ loaded.map NamedKey.name :=
    fun listed _ stored => name_mem_of_loadAll foundAll listed stored
  rcases prefix_of_loadAll foundAll with ⟨others, rfl⟩
  cases success
  change key ∈ others ↔ _
  have distinct := List.nodup_cons.mp areIn.distinct
  constructor
  · intro member
    have different : key.name ≠ signing.name := by
      intro same
      exact distinct.1 (List.mem_map.mpr ⟨key, member, same⟩)
    refine ⟨areIn.each key (List.mem_cons_of_mem signing member), ?_, named ▸ different⟩
    rcases sound (List.mem_cons_of_mem signing member) with first | listed
    · rw [List.mem_singleton.mp first] at different
      exact absurd rfl different
    · exact listed
  · rintro ⟨isIn, listed, different⟩
    rcases isIn with ⟨encoded, stored, formed⟩
    rcases List.mem_map.mp (complete listed encoded stored) with ⟨other, member, same⟩
    have isOther : other = key :=
      NamedKey.eq_of_isIn (areIn.each other member) ⟨encoded, stored, formed⟩ same
    subst isOther
    rcases List.mem_cons.mp member with rfl | later
    · exact absurd named different
    · exact later

end Keyring
end TokenAuthority
