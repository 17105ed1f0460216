import TokenAuthority.Keys.Keyring
import TokenAuthority.Proofs.Bytes.Pem
import TokenAuthority.Proofs.Keys.Encodings
import TokenAuthority.Proofs.Text.Utf8

/-!
# Stores that load

A store of plain key pairs: both halves of each are written as text in the files that belong to its name.
Such a store opens with every password, gives back the halves of each pair, and makes a ring of the pair
that is to sign.  The audience and the leeway of the ring are those that it is loaded for.

The pair of the store at the end of one pair is reliable, so there are configurations whose keys load and sign.
Another store has two pairs, one of each kind.
-/

namespace TokenAuthority

/-- The text of a file that is written in UTF-8. -/
theorem Files.Tree.readText_of_find {tree : Files.Tree} {path : String} {characters : List Char}
    (leads : tree.find path = .ok (.file (Text.utf8 characters))) :
    tree.readText path = .ok (String.ofList characters) := by
  rw [readText, leads]
  simp only [Text.fromUTF8?_utf8]

namespace KeyStore

/-- Both halves of a key pair are in the files that belong to a name, not encrypted. -/
structure Holds (store : KeyStore) (name : String) (pair : EncodedPair) : Prop where
  privateFile : store.files.find (store.privatePath name) =
    .ok (.file (Text.utf8 (Pem.mk privateLabel pair.privateKey).chars))
  publicFile : store.files.find (store.publicPath name) =
    .ok (.file (Text.utf8 (Pem.mk publicLabel pair.publicKey).chars))
  privateSequence : ∃ parts, Der.element? pair.privateKey = some (.sequence parts)
  publicSequence : ∃ parts, Der.element? pair.publicKey = some (.sequence parts)

theorem isLabel_privateLabel : Pem.IsLabel privateLabel :=
  fun _ => rfl

theorem isLabel_publicLabel : Pem.IsLabel publicLabel :=
  fun _ => rfl

/-- A block is read from the file that it is written in. -/
theorem readPem_of_find {store : KeyStore} {path : String} {block : Pem} (name : String)
    (leads : store.files.find path = .ok (.file (Text.utf8 block.chars)))
    (isLabel : Pem.IsLabel block.label)
    (sequence : ∃ parts, Der.element? block.content = some (.sequence parts)) :
    store.readPem name path = .ok block := by
  rcases sequence with ⟨parts, sequence⟩
  rw [readPem, Files.Tree.readText_of_find leads]
  simp only [Pem.ofText?_chars isLabel sequence]

section

variable {store : KeyStore} {name : String} {pair : EncodedPair}

theorem Holds.readPem_private (holds : store.Holds name pair) :
    store.readPem name (store.privatePath name) = .ok ⟨privateLabel, pair.privateKey⟩ :=
  readPem_of_find name holds.privateFile isLabel_privateLabel holds.privateSequence

theorem Holds.readPem_public (holds : store.Holds name pair) :
    store.readPem name (store.publicPath name) = .ok ⟨publicLabel, pair.publicKey⟩ :=
  readPem_of_find name holds.publicFile isLabel_publicLabel holds.publicSequence

/-- The halves that a store holds are those that it loads. -/
theorem Holds.load (holds : store.Holds name pair) : store.load name = .ok pair := by
  have isFile : store.files.isFile (store.privatePath name) = true := by
    rw [Files.Tree.isFile, holds.privateFile]
    rfl
  have plain : privateLabel ≠ encryptedLabel := by decide
  rw [KeyStore.load, if_pos isFile, holds.readPem_private]
  simp only [bind, Except.bind, privateKey, plain, if_false, if_true, holds.readPem_public]

theorem tryPassword_cons (names : List String) :
    store.tryPassword (name :: names) =
      match store.readPem name (store.privatePath name) with
      | .error error => .error error
      | .ok block =>
        if block.label = encryptedLabel then
          if (store.decrypt? block).isSome then .ok () else .error (.passwordRejected store.location)
        else store.tryPassword names := by
  cases read : store.readPem name (store.privatePath name) with
  | error error =>
      rw [tryPassword.eq_def]
      simp only [read]
  | ok block =>
      rw [tryPassword.eq_def]
      simp only [read]

/-- A store without encrypted halves opens with every password. -/
theorem tryPassword_of_holds {names : List String}
    (holds : ∀ name ∈ names, ∃ pair, store.Holds name pair) : store.tryPassword names = .ok () := by
  induction names with
  | nil => rfl
  | cons name names ih =>
      rcases holds name List.mem_cons_self with ⟨pair, held⟩
      have plain : privateLabel ≠ encryptedLabel := by decide
      rw [tryPassword_cons, held.readPem_private]
      simp only [plain, if_false]
      exact ih fun other member => holds other (List.mem_cons_of_mem name member)

/-- A directory with one file that has the name of a private half lists one name. -/
theorem names_eq_singleton {files : List String} (listed : store.files.names? store.location = some files)
    (named : files.filterMap nameOf? = [name]) : store.names = [name] := by
  rw [names, listed, Option.getD_some, named, List.mergeSort_singleton]

theorem openAt_of_holds (directory : store.files.isDirectory store.location = true)
    (holds : ∀ name ∈ store.names, ∃ pair, store.Holds name pair) :
    openAt store.files store.location store.password = .ok store := by
  rw [openAt, if_pos directory, tryPassword_of_holds holds]
  rfl

end

end KeyStore

namespace Keyring

/-- A ring is loaded as soon as a store opens and gives its keys. -/
theorem loadWith_of_loadAll {opener : StoreOpener} {settings : Config.KeystoreSettings} {lookup : PairLookup}
    (opened : opener.first? settings.password settings.locations = some lookup) {signing : NamedKey}
    (signs : loadSigning lookup settings.signingAlias = .ok signing) {checking : List NamedKey}
    (loaded : loadAll lookup [signing] settings.checkingAliases = .ok (signing :: checking))
    (audience : String) (leeway : UInt64) :
    loadWith opener settings audience leeway = .ok { signing, checking, audience, leeway } := by
  rw [loadWith, opened]
  simp only [signs, loaded, bind, Except.bind]
  rfl

/-- The ring of a pair that signs alone is loaded from the first location, if there is a store of plain
pairs that holds it. -/
theorem load_of_holds {store : KeyStore} {settings : Config.KeystoreSettings} {others : List String}
    (locations : settings.locations = store.location :: others)
    (password : settings.password = store.password) (alone : settings.checkingAliases = [])
    (directory : store.files.isDirectory store.location = true)
    (holds : ∀ name ∈ store.names, ∃ pair, store.Holds name pair)
    {encoded : EncodedPair} (held : store.Holds settings.signingAlias encoded) {pair : KeyPair}
    (formed : KeyPair.ofEncoded settings.signingAlias encoded = .ok pair)
    (audience : String) (leeway : UInt64) :
    load store.files settings audience leeway =
      .ok { signing := ⟨settings.signingAlias, pair⟩, audience, leeway } := by
  have opened : (KeyStore.opener store.files).first? settings.password settings.locations =
      some store.load := by
    rw [locations, password, StoreOpener.first?, KeyStore.opener,
      KeyStore.openAt_of_holds directory holds]
    rfl
  have signing : loadSigning store.load settings.signingAlias = .ok ⟨settings.signingAlias, pair⟩ := by
    unfold loadSigning
    rw [held.load]
    simp only [formed]
    rfl
  have checking : loadAll store.load [⟨settings.signingAlias, pair⟩] settings.checkingAliases =
      .ok [⟨settings.signingAlias, pair⟩] := by
    rw [alone]
    rfl
  exact loadWith_of_loadAll opened signing checking audience leeway

end Keyring

/-! ## A store of one pair -/

section

variable {encoded : EncodedPair}

/-- A directory `keys` with the two halves of one pair, named `main`. -/
def Files.Tree.ofPair (encoded : EncodedPair) : Files.Tree where
  root := .directory [("keys", .directory
    [("main.key.pem", .file (Text.utf8 (Pem.mk KeyStore.privateLabel encoded.privateKey).chars)),
      ("main.pub.pem", .file (Text.utf8 (Pem.mk KeyStore.publicLabel encoded.publicKey).chars))])]

/-- Settings under which this directory is opened, and the pair signs. -/
def Config.KeystoreSettings.ofPair : Config.KeystoreSettings where
  locations := ["keys"]
  password := ⟨"secret"⟩
  signingAlias := "main"
  checkingAliases := []

/-- The store in this directory. -/
def KeyStore.ofPair (encoded : EncodedPair) : KeyStore :=
  ⟨.ofPair encoded, "keys", ⟨"secret"⟩⟩

theorem KeyStore.names_ofPair : (ofPair encoded).names = ["main"] := by
  have listed : (Files.Tree.ofPair encoded).names? "keys" = some ["main.key.pem", "main.pub.pem"] := rfl
  exact names_eq_singleton listed rfl

theorem KeyStore.holds_ofPair {key : Rsa.PrivateKey} {known : Rsa.PublicKey}
    (shortSecret : key.info.IsShort) (shortKnown : known.info.IsShort) :
    (ofPair (key.halvesWith known)).Holds "main" (key.halvesWith known) := by
  -- the paths hold no part of the pair, so that they are computed by themselves
  have privatePath : Files.join "keys" ("main" ++ privateEnding) = "keys/main.key.pem" := rfl
  have publicPath : Files.join "keys" ("main" ++ publicEnding) = "keys/main.pub.pem" := rfl
  refine ⟨?_, ?_, ⟨_, Der.element?_bytes shortSecret⟩, ⟨_, Der.element?_bytes shortKnown⟩⟩
  · change (Files.Tree.ofPair (key.halvesWith known)).find (Files.join "keys" ("main" ++ privateEnding)) = _
    rw [privatePath]
    rfl
  · change (Files.Tree.ofPair (key.halvesWith known)).find (Files.join "keys" ("main" ++ publicEnding)) = _
    rw [publicPath]
    rfl

theorem KeyStore.exists_holds_of_mem_ofPair (held : (ofPair encoded).Holds "main" encoded) :
    ∀ name ∈ (ofPair encoded).names, ∃ pair, (ofPair encoded).Holds name pair := by
  intro name member
  rw [names_ofPair] at member
  rw [List.mem_singleton.mp member]
  exact ⟨encoded, held⟩

theorem Keyring.load_ofPair (held : (KeyStore.ofPair encoded).Holds "main" encoded) {pair : KeyPair}
    (formed : KeyPair.ofEncoded "main" encoded = .ok pair) (audience : String) (leeway : UInt64) :
    load (.ofPair encoded) .ofPair audience leeway =
      .ok { signing := ⟨"main", pair⟩, audience, leeway } := by
  have directory : (Files.Tree.ofPair encoded).isDirectory "keys" = true := rfl
  change load (KeyStore.ofPair encoded).files .ofPair audience leeway = _
  exact load_of_holds rfl rfl rfl directory (KeyStore.exists_holds_of_mem_ofPair held) held formed audience
    leeway

end

theorem isPublishable_prothKey : Rsa.prothKey.publicKey.IsPublishable where
  size := by decide +kernel
  below := by decide +kernel
  oddModulus := by decide +kernel
  oddExponent := by decide
  atLeast := by decide
  atMost := by decide

theorem isShort_info_prothKey : Rsa.prothKey.info.IsShort :=
  Rsa.PrivateKey.isShort_info (by decide +kernel)

theorem isShort_publicInfo_prothKey : Rsa.prothKey.publicKey.info.IsShort :=
  Rsa.PublicKey.isShort_info (by decide +kernel) (by decide +kernel)

theorem ofEncoded_prothKey (name : String) :
    KeyPair.ofEncoded name Rsa.prothKey.halves = .ok KeyPair.proth :=
  KeyPair.ofEncoded_halves Rsa.isConsistent_prothKey isPublishable_prothKey isShort_info_prothKey
    isShort_publicInfo_prothKey KeyPair.isReliable_proth.passesProbe name

/-- There is a store that loads, with a key that signs. -/
theorem Keyring.load_prothKey (audience : String) (leeway : UInt64) :
    load (.ofPair Rsa.prothKey.halves) .ofPair audience leeway =
      .ok { signing := ⟨"main", KeyPair.proth⟩, audience, leeway } :=
  load_ofPair (KeyStore.holds_ofPair isShort_info_prothKey isShort_publicInfo_prothKey)
    (ofEncoded_prothKey "main") audience leeway

theorem isPublishable_tripledKey : KeyPair.tripledKey.IsPublishable where
  size := by decide +kernel
  below := by decide +kernel
  oddModulus := by decide +kernel
  oddExponent := by decide
  atLeast := by decide
  atMost := by decide

/-- There is a store that loads, with a key that does not verify all that it signs. -/
theorem Keyring.load_tripled (audience : String) (leeway : UInt64) :
    load (.ofPair (Rsa.shortProthKey.halvesWith KeyPair.tripledKey)) .ofPair audience leeway =
      .ok { signing := ⟨"main", KeyPair.tripled⟩, audience, leeway } := by
  have shortSecret : Rsa.shortProthKey.info.IsShort := Rsa.PrivateKey.isShort_info (by decide +kernel)
  have shortKnown : KeyPair.tripledKey.info.IsShort :=
    Rsa.PublicKey.isShort_info (by decide +kernel) (by decide +kernel)
  refine load_ofPair (KeyStore.holds_ofPair shortSecret shortKnown) ?_ audience leeway
  exact KeyPair.ofEncoded_halves Rsa.isConsistent_shortProthKey isPublishable_tripledKey shortSecret
    shortKnown KeyPair.passesProbe_tripled "main"

/-! ## A store of two pairs -/

/-- What a store has that holds an RSA pair under a name, and a pair on a curve as `next`. -/
def PairLookup.ofTwo (name : String) : PairLookup := fun other =>
  if other = name then .ok Rsa.prothKey.halves
  else if other = "next" then .ok P256.generatorKey.halves
  else .error (.nameNotFound other)

/-- Such a store opens everywhere. -/
def StoreOpener.ofTwo (name : String) : StoreOpener :=
  fun _ _ => .ok (.ofTwo name)

namespace Keyring

variable {name : String}

theorem loadSigning_ofTwo (name : String) : loadSigning (.ofTwo name) name = .ok ⟨name, KeyPair.proth⟩ := by
  have found : PairLookup.ofTwo name name = .ok Rsa.prothKey.halves := if_pos rfl
  rw [loadSigning, found]
  simp only [ofEncoded_prothKey name]
  rfl

theorem loadSigning_ofTwo_next (different : "next" ≠ name) :
    loadSigning (.ofTwo name) "next" = .ok ⟨"next", KeyPair.generator⟩ := by
  have found : PairLookup.ofTwo name "next" = .ok P256.generatorKey.halves := by
    rw [PairLookup.ofTwo, if_neg different, if_pos rfl]
  rw [loadSigning, found]
  simp only [KeyPair.ofEncoded_generatorKey "next"]
  rfl

theorem loadChecking_ofTwo (name : String) :
    loadChecking (.ofTwo name) name = .ok (some ⟨name, KeyPair.proth⟩) := by
  have found : PairLookup.ofTwo name name = .ok Rsa.prothKey.halves := if_pos rfl
  rw [loadChecking, found]
  simp only [ofEncoded_prothKey name]
  rfl

end Keyring

end TokenAuthority
