import TokenAuthority.Proofs.Keys.Listing
import TokenAuthority.Proofs.Text.ByteOrder

/-!
# Which stores open

A store opens with a password if its probe decrypts, the first encrypted private half in the order of the names, or
if there is no encrypted half.  The halves before the probe have to be readable, as they are looked at on the way to
it; without a probe all of them are looked at.  What is behind the probe does not matter.
-/

namespace TokenAuthority
namespace KeyStore

/-- The file of a private half can be read as a block. -/
def IsReadable (store : KeyStore) (name : String) : Prop :=
  ∃ block, store.readPem name (store.privatePath name) = .ok block

/-- The file of a private half has the label of those that are encrypted. -/
def IsEncrypted (store : KeyStore) (name : String) : Prop :=
  ∃ block, store.readPem name (store.privatePath name) = .ok block ∧ block.label = encryptedLabel

/-- The file of a private half decrypts with the password of the store. -/
def Decrypts (store : KeyStore) (name : String) : Prop :=
  ∃ block, store.readPem name (store.privatePath name) = .ok block ∧ (store.decrypt? block).isSome

/-- The private half, of those with the given names, on which a store tries its password: the first one that is
encrypted. -/
structure IsProbe (store : KeyStore) (names : List String) (probe : String) : Prop where
  mem : probe ∈ names
  isEncrypted : store.IsEncrypted probe
  isFirst : ∀ name ∈ names, store.IsEncrypted name → ¬ Text.IsBefore name probe

section

variable {store : KeyStore} {name probe : String} {names : List String}

theorem IsEncrypted.isReadable (encrypted : store.IsEncrypted name) : store.IsReadable name := by
  rcases encrypted with ⟨block, read, _⟩
  exact ⟨block, read⟩

/-- A half that is not encrypted is passed over if it can be read. -/
theorem tryPassword_cons_eq_ok_iff :
    store.tryPassword (name :: names) = .ok () ↔
      store.IsReadable name ∧ (store.IsEncrypted name → store.Decrypts name) ∧
        (¬ store.IsEncrypted name → store.tryPassword names = .ok ()) := by
  simp only [tryPassword_cons, IsReadable, IsEncrypted, Decrypts]
  cases store.readPem name (store.privatePath name) with
  | error fault => simp
  | ok block =>
      by_cases encrypted : block.label = encryptedLabel
      · by_cases decrypts : (store.decrypt? block).isSome <;> simp [encrypted, decrypts]
      · simp [encrypted]

/-- The first half is the probe if it is encrypted, and no other one is. -/
theorem isProbe_cons_of_isEncrypted (sorted : ∀ other ∈ names, name ≤ other) (encrypted : store.IsEncrypted name) :
    store.IsProbe (name :: names) probe ↔ probe = name := by
  constructor
  · intro isProbe
    have notBelow := isProbe.isFirst name List.mem_cons_self encrypted
    rcases List.mem_cons.mp isProbe.mem with same | behind
    · exact same
    · exact le_antisymm (not_lt.mp (mt Text.isBefore_iff.mpr notBelow)) (sorted probe behind)
  · rintro rfl
    refine ⟨List.mem_cons_self, encrypted, fun other listed _ before => ?_⟩
    rcases List.mem_cons.mp listed with rfl | behind
    · exact lt_irrefl _ (Text.isBefore_iff.mp before)
    · exact not_lt.mpr (sorted other behind) (Text.isBefore_iff.mp before)

theorem isProbe_cons_of_not_isEncrypted (plain : ¬ store.IsEncrypted name) :
    store.IsProbe (name :: names) probe ↔ store.IsProbe names probe := by
  constructor
  · intro isProbe
    refine ⟨?_, isProbe.isEncrypted, fun other listed => isProbe.isFirst other (List.mem_cons_of_mem name listed)⟩
    rcases List.mem_cons.mp isProbe.mem with rfl | behind
    · exact absurd isProbe.isEncrypted plain
    · exact behind
  · intro isProbe
    refine ⟨List.mem_cons_of_mem name isProbe.mem, isProbe.isEncrypted, fun other listed encrypted => ?_⟩
    rcases List.mem_cons.mp listed with rfl | behind
    · exact absurd encrypted plain
    · exact isProbe.isFirst other behind encrypted

/-- What is looked at are the halves up to the probe, for names in order. -/
theorem tryPassword_eq_ok_iff (sorted : names.Pairwise (· ≤ ·)) :
    store.tryPassword names = .ok () ↔
      ((∀ name ∈ names, ¬ store.IsEncrypted name) ∨ ∃ probe, store.IsProbe names probe ∧ store.Decrypts probe) ∧
        ∀ name ∈ names, ¬ store.IsReadable name → ∃ probe, store.IsProbe names probe ∧ Text.IsBefore probe name := by
  induction names with
  | nil => simp [tryPassword.eq_def]
  | cons name names ih =>
      rcases List.pairwise_cons.mp sorted with ⟨notAbove, sorted⟩
      rw [tryPassword_cons_eq_ok_iff]
      by_cases encrypted : store.IsEncrypted name
      · -- the names behind the probe are larger, so that none of them is looked at
        simp only [isProbe_cons_of_isEncrypted notAbove encrypted]
        constructor
        · rintro ⟨_, decrypts, _⟩
          refine ⟨.inr ⟨name, rfl, decrypts encrypted⟩, fun other listed notReadable => ⟨name, rfl, ?_⟩⟩
          rcases List.mem_cons.mp listed with rfl | behind
          · exact absurd encrypted.isReadable notReadable
          · refine Text.isBefore_iff.mpr (lt_of_le_of_ne (notAbove other behind) ?_)
            rintro rfl
            exact notReadable encrypted.isReadable
        · rintro ⟨nonePlain | ⟨_, rfl, decrypts⟩, _⟩
          · exact absurd encrypted (nonePlain name List.mem_cons_self)
          · exact ⟨encrypted.isReadable, fun _ => decrypts, fun plain => absurd encrypted plain⟩
      · simp only [isProbe_cons_of_not_isEncrypted encrypted, encrypted, List.forall_mem_cons, not_false_eq_true,
          true_and, false_imp_iff, true_imp_iff, ih sorted]
        constructor
        · rintro ⟨readable, tried, behind⟩
          exact ⟨tried, fun notReadable => absurd readable notReadable, behind⟩
        · rintro ⟨tried, ahead, behind⟩
          refine ⟨?_, tried, behind⟩
          by_contra notReadable
          rcases ahead notReadable with ⟨probe, isProbe, before⟩
          exact not_lt.mpr (notAbove probe isProbe.mem) (Text.isBefore_iff.mp before)

/-- The names of a store are in order. -/
theorem pairwise_names : store.names.Pairwise (· ≤ ·) := by
  have trans : ∀ first second third : String, (!(second < first)) = true → (!(third < second)) = true →
      (!(third < first)) = true := by
    simp only [Bool.not_eq_true', decide_eq_false_iff_not, not_lt]
    exact fun first second third => le_trans
  have total : ∀ first second : String, ((!(second < first)) || !(first < second)) = true := by
    simp only [Bool.or_eq_true, Bool.not_eq_true', decide_eq_false_iff_not, not_lt]
    exact le_total
  refine (List.pairwise_mergeSort trans total _).imp ?_
  intro left right ordered
  exact not_lt.mp (of_decide_eq_false (Bool.not_eq_true' _ ▸ ordered))

/-- A store opens if the location is a directory, the probe decrypts if there is one, and every private half that
cannot be read is behind the probe. -/
theorem exists_openAt_eq_ok_iff :
    (∃ opened, openAt store.files store.location store.password = .ok opened) ↔
      store.files.isDirectory store.location = true ∧
        ((∀ name ∈ store.names, ¬ store.IsEncrypted name) ∨
          ∃ probe, store.IsProbe store.names probe ∧ store.Decrypts probe) ∧
        ∀ name ∈ store.names, ¬ store.IsReadable name →
          ∃ probe, store.IsProbe store.names probe ∧ Text.IsBefore probe name := by
  rw [← tryPassword_eq_ok_iff pairwise_names]
  constructor
  · rintro ⟨opened, opens⟩
    rcases openAt_eq_ok_iff.mp opens with ⟨rfl, directory, tried⟩
    exact ⟨directory, tried⟩
  · rintro ⟨directory, tried⟩
    exact ⟨store, openAt_eq_ok_iff.mpr ⟨rfl, directory, tried⟩⟩

end

/-! ## A directory without keys -/

/-- A directory `keys` with an empty file that has the name of a private half. -/
def strayStore : KeyStore where
  files := { root := .directory [("keys", .directory [("stray.key.pem", .file [])])] }
  location := "keys"
  password := ⟨"secret"⟩

theorem names_strayStore : strayStore.names = ["stray"] := by
  have listed : strayStore.files.names? "keys" = some ["stray.key.pem"] := rfl
  exact names_eq_singleton listed rfl

theorem readPem_strayStore :
    strayStore.readPem "stray" (strayStore.privatePath "stray") =
      .error (.malformed "stray" (.invalidPem "keys/stray.key.pem")) := by
  have text : strayStore.files.readText (strayStore.privatePath "stray") = .ok "" := rfl
  have none : Pem.ofText? "" = none := by decide
  rw [readPem, text]
  simp only [none]
  rfl

/-- A directory in which nothing is encrypted does not open, for the sake of a file that is no key. -/
theorem exists_openAt_eq_error_of_not_isEncrypted :
    ∃ store : KeyStore, store.files.isDirectory store.location = true ∧
      (∀ name ∈ store.names, ¬ store.IsEncrypted name) ∧
      openAt store.files store.location store.password =
        .error (.malformed "stray" (.invalidPem "keys/stray.key.pem")) := by
  refine ⟨strayStore, rfl, ?_, ?_⟩
  · intro name listed
    rw [names_strayStore, List.mem_singleton] at listed
    rintro ⟨block, read, _⟩
    rw [listed, readPem_strayStore] at read
    cases read
  · have directory : strayStore.files.isDirectory strayStore.location = true := rfl
    rw [openAt, if_pos directory]
    change (strayStore.tryPassword strayStore.names).map _ = _
    rw [names_strayStore, tryPassword_cons, readPem_strayStore]
    rfl

end KeyStore
end TokenAuthority
