import TokenAuthority.Bytes.Pem
import TokenAuthority.Config.Secret
import TokenAuthority.Files
import TokenAuthority.Keys.Encrypted
import TokenAuthority.Keys.KeyPair

/-!
# Key stores

A store opens with a password, and has the halves of key pairs under their names. What else it is does not
matter to those who load keys. The stores here are directories.

A directory with two files for each key pair, the private half under `NAME.key.pem` and the public half
under `NAME.pub.pem`. Private halves may be encrypted, all under one password. A store opens when the
first encrypted private half, in the order of the names, decrypts with the password; a store without
encrypted halves opens with any.
-/

namespace TokenAuthority

/-- A store that is open: where it is, and the password of its private halves. -/
structure KeyStore where
  files : Files.Tree
  location : String
  password : Config.Secret

namespace KeyStore

/-- What the file of a private half ends in. -/
def privateEnding : String := ".key.pem"

/-- What the file of a public half ends in. -/
def publicEnding : String := ".pub.pem"

/-- The label of a private half that is encrypted. -/
def encryptedLabel : String := "ENCRYPTED PRIVATE KEY"

/-- The label of a private half that is not encrypted. -/
def privateLabel : String := "PRIVATE KEY"

/-- The label of a public half. -/
def publicLabel : String := "PUBLIC KEY"

/-- The name of the key pair whose private half is in a file. -/
def nameOf? (file : String) : Option String :=
  match Text.dropBack? privateEnding.toList file.toList with
  | some (first :: rest) => some (String.ofList (first :: rest))
  | _ => none

/-- The path of the private half of a key pair. -/
def privatePath (store : KeyStore) (name : String) : String :=
  Files.join store.location (name ++ privateEnding)

/-- The path of the public half of a key pair. -/
def publicPath (store : KeyStore) (name : String) : String :=
  Files.join store.location (name ++ publicEnding)

/-- The names of the key pairs in the store, in order. -/
def names (store : KeyStore) : List String :=
  (((store.files.names? store.location).getD []).filterMap nameOf?).mergeSort fun left right =>
    !(right < left)

/-- The block in a file of a key pair. -/
def readPem (store : KeyStore) (name path : String) : Except StoreError Pem :=
  match store.files.readText path with
  | .error .notFound => .error (.malformed name (.missing path))
  | .error .unreadable => .error (.unreadable path)
  | .ok text =>
    match Pem.ofText? text with
    | some block => .ok block
    | none => .error (.malformed name (.invalidPem path))

/-- What a block decrypts to under the password of the store. -/
def decrypt? (store : KeyStore) (block : Pem) : Option (List UInt8) := do
  let encrypted ← EncryptedKey.ofDer? block.content
  encrypted.open? store.password.expose.toUTF8.data.toList

/-- Tries the password on the first encrypted private half among the given names. -/
def tryPassword (store : KeyStore) : List String → Except StoreError Unit
  | [] => .ok ()
  | name :: names =>
    match store.readPem name (store.privatePath name) with
    | .error error => .error error
    | .ok block =>
      if block.label = encryptedLabel then
        if (store.decrypt? block).isSome then .ok () else .error (.passwordRejected store.location)
      else store.tryPassword names

/-- Opens the store at a location. -/
def openAt (files : Files.Tree) (location : String) (password : Config.Secret) :
    Except StoreError KeyStore :=
  let store : KeyStore := { files, location, password }
  if files.isDirectory location then (store.tryPassword store.names).map fun _ => store
  else .error (.notAStore location)

/-- The private half in a block of the file at a path. -/
def privateKey (store : KeyStore) (name path : String) (block : Pem) :
    Except StoreError (List UInt8) :=
  if block.label = encryptedLabel then
    match store.decrypt? block with
    | some key => .ok key
    | none => .error (.wrongPassword name)
  else if block.label = privateLabel then .ok block.content
  else .error (.malformed name (.unexpectedLabel block.label path))

/-- The halves of the key pair with a name. -/
def load (store : KeyStore) (name : String) : Except StoreError EncodedPair :=
  let path := store.privatePath name
  if store.files.isFile path then do
    let block ← store.readPem name path
    let privateKey ← store.privateKey name path block
    let path := store.publicPath name
    let block ← store.readPem name path
    if block.label = publicLabel then .ok { privateKey, publicKey := block.content }
    else .error (.malformed name (.unexpectedLabel block.label path))
  else .error (.nameNotFound name)

end KeyStore

/-- What an open store has for the name of a key pair. -/
abbrev PairLookup :=
  String → Except StoreError EncodedPair

/-- A way to open the store at a location with a password. -/
abbrev StoreOpener :=
  String → Config.Secret → Except StoreError PairLookup

/-- Opens the directories of a tree of files. -/
def KeyStore.opener (files : Files.Tree) : StoreOpener :=
  fun location password => (openAt files location password).map load

/-- Opens the first of the locations that opens. -/
def StoreOpener.first? (opener : StoreOpener) (password : Config.Secret) :
    List String → Option PairLookup
  | [] => none
  | location :: locations =>
    match opener location password with
    | .ok lookup => some lookup
    | .error _ => opener.first? password locations

end TokenAuthority
