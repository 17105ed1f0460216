import TokenAuthority.Proofs.Files.Paths
import TokenAuthority.Proofs.Keys.Stores

/-!
# What a store lists and what it looks up

A store lists the names of its pairs by the files in its directory, and looks a pair up along a path that holds
the name.  For a name that is one, not empty and without a separator, the two go to the same entry, and differ
only where a directory stands in place of a file: the name is listed, and not found.  For any other text the path
may leave the directory, and then a pair is found that is not listed.
-/

namespace TokenAuthority
namespace KeyStore

/-- A text that can be the name of a key pair in a directory. -/
structure IsPairName (name : String) : Prop where
  notEmpty : name ≠ ""
  noSeparator : '/' ∉ name.toList

/-- What the directory of a store holds under the name of a file. -/
def child? (store : KeyStore) (file : String) : Option Files.Node :=
  store.files.find store.location |>.toOption.bind fun node => node.child? file

theorem child?_of_find {store : KeyStore} {node : Files.Node} (leads : store.files.find store.location = .ok node)
    (file : String) : store.child? file = node.child? file := by
  rw [child?, leads]
  rfl

theorem nameOf?_eq_some_iff {file name : String} :
    nameOf? file = some name ↔ name ≠ "" ∧ file = name ++ privateEnding := by
  rw [nameOf?]
  constructor
  · intro named
    split at named
    next first rest taken =>
      cases named
      refine ⟨by simp, ?_⟩
      rw [← String.toList_inj, Text.eq_append_of_dropBack? taken, String.toList_append, String.toList_ofList]
    · cases named
  · rintro ⟨notEmpty, rfl⟩
    rw [String.toList_append, Text.dropBack?_append]
    cases characters : name.toList with
    | nil => exact absurd (String.toList_eq_nil_iff.mp characters) notEmpty
    | cons first rest =>
        change some (String.ofList (first :: rest)) = some name
        rw [← characters, String.ofList_toList]

section

variable {store : KeyStore} {name : String}

/-- The directory of a store holds something under those names that it lists. -/
theorem isSome_child?_iff {file : String} :
    (store.child? file).isSome ↔ file ∈ (store.files.names? store.location).getD [] := by
  rw [child?, Files.Tree.names?]
  match store.files.find store.location with
  | .error failure => simp [Except.toOption]
  | .ok (.file content) => simp [Except.toOption, Files.Node.child?]
  | .ok (.directory entries) => simp [Except.toOption, Files.Node.child?]

/-- The pairs that are listed are those of which the directory holds something under the name of the private
half. -/
theorem mem_names_iff : name ∈ store.names ↔ name ≠ "" ∧ (store.child? (name ++ privateEnding)).isSome := by
  rw [names, List.mem_mergeSort, List.mem_filterMap, isSome_child?_iff]
  simp only [nameOf?_eq_some_iff]
  constructor
  · rintro ⟨file, listed, notEmpty, rfl⟩
    exact ⟨notEmpty, listed⟩
  · rintro ⟨notEmpty, listed⟩
    exact ⟨_, listed, notEmpty, rfl⟩

/-- No fault of an entry is reported as its absence. -/
theorem readPem_ne_nameNotFound (path : String) : store.readPem name path ≠ .error (.nameNotFound name) := by
  rw [readPem]
  split
  · rintro ⟨⟩
  · rintro ⟨⟩
  · split <;> rintro ⟨⟩

theorem privateKey_ne_nameNotFound (path : String) (block : Pem) :
    store.privateKey name path block ≠ .error (.nameNotFound name) := by
  rw [privateKey]
  split_ifs
  · split <;> rintro ⟨⟩
  · rintro ⟨⟩
  · rintro ⟨⟩

/-- A pair is not found exactly if the path of its private half leads to no file. -/
theorem load_eq_nameNotFound_iff :
    store.load name = .error (.nameNotFound name) ↔ store.files.isFile (store.privatePath name) = false := by
  rw [load]
  split
  next isFile =>
    refine iff_of_false ?_ (Bool.eq_false_iff.not.mpr (not_not_intro isFile))
    intro missing
    rcases error_or_ok_of_bind missing with unread | ⟨block, _, missing⟩
    · exact readPem_ne_nameNotFound _ unread
    rcases error_or_ok_of_bind missing with unread | ⟨key, _, missing⟩
    · exact privateKey_ne_nameNotFound _ _ unread
    rcases error_or_ok_of_bind missing with unread | ⟨known, _, missing⟩
    · exact readPem_ne_nameNotFound _ unread
    split at missing <;> cases missing
  next notFile => exact iff_of_true rfl (Bool.eq_false_iff.mpr notFile)

theorem noSeparator_append_privateEnding (isName : IsPairName name) :
    '/' ∉ (name ++ privateEnding).toList := by
  have ending : privateEnding.toList = ['.', 'k', 'e', 'y', '.', 'p', 'e', 'm'] := rfl
  rw [String.toList_append, ending]
  simp [isName.noSeparator]

theorem isFileName_of_isPairName (isName : IsPairName name) (noEnd : Char.ofNat 0 ∉ name.toList) :
    Files.IsFileName (name ++ privateEnding) := by
  have ending : privateEnding.toList = ['.', 'k', 'e', 'y', '.', 'p', 'e', 'm'] := rfl
  have long : ∀ text : String, text.toList.length < 8 → name ++ privateEnding ≠ text := by
    rintro text short rfl
    rw [String.toList_append, List.length_append, ending, List.length_cons] at short
    simp only [List.length_cons, List.length_nil] at short
    omega
  exact {
    notEmpty := long "" (by decide)
    notHere := long "." (by decide)
    notAbove := long ".." (by decide)
    noSeparator := noSeparator_append_privateEnding isName
    noEnd := by
      rw [String.toList_append, ending]
      simp [noEnd] }

/-- The private half of a name is a file exactly if the directory holds a file under the name of the half. -/
theorem isFile_privatePath_iff (directory : store.files.isDirectory store.location = true)
    (fileNames : ∀ file ∈ (store.files.names? store.location).getD [], Files.IsFileName file)
    (isName : IsPairName name) :
    store.files.isFile (store.privatePath name) = true ↔
      ∃ content, store.child? (name ++ privateEnding) = some (.file content) := by
  rw [Files.Tree.isDirectory] at directory
  cases leads : store.files.find store.location with
  | error failure =>
      rw [leads] at directory
      cases directory
  | ok node =>
      rcases node with content | entries
      · rw [leads] at directory
        cases directory
      rw [Files.Tree.isFile, privatePath, child?_of_find leads]
      by_cases noEnd : Char.ofNat 0 ∈ name.toList
      · -- no path leads on from here, and no entry has this name
        refine iff_of_false ?_ ?_
        · cases found : store.files.find (Files.join store.location (name ++ privateEnding)) with
          | error failure => rintro ⟨⟩
          | ok node =>
              have zero := (Files.Tree.ne_empty_of_find found).2
              rcases Files.exists_toList_join (Files.Tree.ne_empty_of_find leads).1
                (noSeparator_append_privateEnding isName) with ⟨before, joined, _⟩
              rw [joined, String.toList_append] at zero
              simp [noEnd] at zero
        · rintro ⟨content, held⟩
          rw [← child?_of_find leads] at held
          have listed := isSome_child?_iff.mp (Option.isSome_of_eq_some held)
          refine (fileNames _ listed).noEnd ?_
          rw [String.toList_append]
          exact List.mem_append_left _ noEnd
      · rw [Files.Tree.find_join leads (isFileName_of_isPairName isName noEnd)]
        cases held : Files.Node.child? (.directory entries) (name ++ privateEnding) with
        | none => simp
        | some child =>
            cases child with
            | file content => exact iff_of_true rfl ⟨content, rfl⟩
            | directory others => simp [Files.Node.isDirectory]

/-- Only names of pairs are listed. -/
theorem isPairName_of_mem_names
    (fileNames : ∀ file ∈ (store.files.names? store.location).getD [], Files.IsFileName file)
    (listed : name ∈ store.names) : IsPairName name where
  notEmpty := (mem_names_iff.mp listed).1
  noSeparator := by
    intro inside
    refine (fileNames _ (isSome_child?_iff.mp (mem_names_iff.mp listed).2)).noSeparator ?_
    rw [String.toList_append]
    exact List.mem_append_left _ inside

/-- A store opens where there is a directory, if the password passes the test. -/
theorem openAt_eq_ok_iff {files : Files.Tree} {location : String} {password : Config.Secret} :
    openAt files location password = .ok store ↔
      store = ⟨files, location, password⟩ ∧ files.isDirectory location = true ∧
        store.tryPassword store.names = .ok () := by
  rw [openAt]
  constructor
  · intro opened
    split at opened
    next directory =>
      rcases exists_ok_of_map opened with ⟨⟨⟩, tried, rfl⟩
      exact ⟨rfl, directory, tried⟩
    · cases opened
  · rintro ⟨rfl, directory, tried⟩
    rw [if_pos directory, tried]
    rfl

/-- A store that is open lists a name and finds it, or does neither, exactly under these conditions.  For a text
that can be the name of a pair, its private half has to be no directory.  For any other text, the path that it
gives rise to has to lead to no file. -/
theorem load_eq_nameNotFound_iff_not_mem_names
    (opened : openAt store.files store.location store.password = .ok store)
    (fileNames : ∀ file ∈ (store.files.names? store.location).getD [], Files.IsFileName file) (name : String) :
    (store.load name = .error (.nameNotFound name) ↔ name ∉ store.names) ↔
      (IsPairName name → ∀ entries, store.child? (name ++ privateEnding) ≠ some (.directory entries)) ∧
        (¬ IsPairName name → store.files.isFile (store.privatePath name) = false) := by
  rcases openAt_eq_ok_iff.mp opened with ⟨_, directory, _⟩
  rw [load_eq_nameNotFound_iff]
  by_cases isName : IsPairName name
  · have isFile := isFile_privatePath_iff directory fileNames isName
    simp only [isName, forall_const, not_true_eq_false, IsEmpty.forall_iff, and_true, mem_names_iff,
      isName.notEmpty, ne_eq, not_false_eq_true, true_and, Bool.eq_false_iff, isFile]
    cases store.child? (name ++ privateEnding) with
    | none => simp
    | some node => cases node <;> simp
  · have notListed := mt (isPairName_of_mem_names fileNames) isName
    simp only [isName, IsEmpty.forall_iff, not_false_eq_true, forall_const, true_and, notListed, iff_true]

theorem isFileName_of_mem_ofPair {encoded : EncodedPair} :
    ∀ file ∈ ((Files.Tree.ofPair encoded).names? "keys").getD [], Files.IsFileName file := by
  have files : ((Files.Tree.ofPair encoded).names? "keys").getD [] = ["main.key.pem", "main.pub.pem"] := rfl
  intro file listed
  rw [files, List.mem_cons, List.mem_singleton] at listed
  rcases listed with rfl | rfl <;> constructor <;> decide

theorem openAt_ofPair {encoded : EncodedPair} (held : (ofPair encoded).Holds "main" encoded) :
    openAt (ofPair encoded).files (ofPair encoded).location (ofPair encoded).password = .ok (ofPair encoded) := by
  have directory : (Files.Tree.ofPair encoded).isDirectory "keys" = true := rfl
  exact openAt_of_holds directory (exists_holds_of_mem_ofPair held)

theorem load_eq_nameNotFound_iff_not_mem_names_main :
    openAt (ofPair Rsa.prothKey.halves).files (ofPair Rsa.prothKey.halves).location
        (ofPair Rsa.prothKey.halves).password = .ok (ofPair Rsa.prothKey.halves) ∧
      (∀ file ∈ ((ofPair Rsa.prothKey.halves).files.names? (ofPair Rsa.prothKey.halves).location).getD [],
        Files.IsFileName file) ∧
      (((ofPair Rsa.prothKey.halves).load "main" = .error (.nameNotFound "main") ↔
          "main" ∉ (ofPair Rsa.prothKey.halves).names) ↔
        (IsPairName "main" →
            ∀ entries, (ofPair Rsa.prothKey.halves).child? ("main" ++ privateEnding) ≠ some (.directory entries)) ∧
          (¬ IsPairName "main" →
            (ofPair Rsa.prothKey.halves).files.isFile ((ofPair Rsa.prothKey.halves).privatePath "main") =
              false)) := by
  have opened := openAt_ofPair (holds_ofPair isShort_info_prothKey isShort_publicInfo_prothKey)
  exact ⟨opened, isFileName_of_mem_ofPair,
    load_eq_nameNotFound_iff_not_mem_names opened isFileName_of_mem_ofPair "main"⟩

end

/-! ## A key outside a store -/

/-- An empty directory `keys`, and a directory `spare` with the two halves of one pair, named `main`. -/
def spareFiles : Files.Tree where
  root := .directory [("keys", .directory []), ("spare", .directory
    [("main.key.pem", .file (Text.utf8 (Pem.mk privateLabel Rsa.prothKey.halves.privateKey).chars)),
      ("main.pub.pem", .file (Text.utf8 (Pem.mk publicLabel Rsa.prothKey.halves.publicKey).chars))])]

/-- The store in the directory `keys`. -/
def spareStore : KeyStore :=
  ⟨spareFiles, "keys", ⟨"secret"⟩⟩

theorem holds_spareStore : spareStore.Holds "../spare/main" Rsa.prothKey.halves := by
  have privatePath : Files.join "keys" ("../spare/main" ++ privateEnding) = "keys/../spare/main.key.pem" := rfl
  have publicPath : Files.join "keys" ("../spare/main" ++ publicEnding) = "keys/../spare/main.pub.pem" := rfl
  refine ⟨?_, ?_, ⟨_, Der.element?_bytes isShort_info_prothKey⟩,
    ⟨_, Der.element?_bytes isShort_publicInfo_prothKey⟩⟩
  · change spareFiles.find (Files.join "keys" ("../spare/main" ++ privateEnding)) = _
    rw [privatePath]
    rfl
  · change spareFiles.find (Files.join "keys" ("../spare/main" ++ publicEnding)) = _
    rw [publicPath]
    rfl

/-- A store that lists nothing can give a pair of another directory. -/
theorem exists_load_not_mem_names :
    ∃ (store : KeyStore) (name : String) (pair : EncodedPair),
      openAt store.files store.location store.password = .ok store ∧ store.names = [] ∧
        store.load name = .ok pair := by
  have listed : spareStore.files.names? spareStore.location = some [] := rfl
  have none : spareStore.names = [] := by
    rw [names, listed, Option.getD_some, List.filterMap_nil, List.mergeSort_nil]
  have opened : openAt spareStore.files spareStore.location spareStore.password = .ok spareStore := by
    refine openAt_of_holds rfl ?_
    rw [none]
    exact fun name listed => absurd listed List.not_mem_nil
  exact ⟨spareStore, "../spare/main", _, opened, none, holds_spareStore.load⟩

end KeyStore
end TokenAuthority
