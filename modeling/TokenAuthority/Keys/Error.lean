import TokenAuthority.Text.Quoted

/-!
# Why keys are refused

The causes for which a key store does not open, an entry does not load, or a pair is no usable key, each
with the sentence that reports it. All of them are faults of the installation.
-/

namespace TokenAuthority

/-- What is wrong with an entry of a key store. -/
inductive EntryFault where
  | missing (path : String)
  | invalidPem (path : String)
  | unexpectedLabel (label path : String)
deriving DecidableEq, Repr

def EntryFault.message : EntryFault → String
  | missing path => "missing " ++ path
  | invalidPem path => "invalid PEM in " ++ path
  | unexpectedLabel label path => "unexpected PEM label " ++ Text.quoted label ++ " in " ++ path

/-- Why a key store does not open or an entry of it does not load. -/
inductive StoreError where
  | notAStore (location : String)
  | passwordRejected (location : String)
  | nameNotFound (name : String)
  | wrongPassword (name : String)
  | malformed (name : String) (fault : EntryFault)
  | unreadable (path : String)
deriving DecidableEq, Repr

def StoreError.message : StoreError → String
  | notAStore location => "key store not found at " ++ location
  | passwordRejected location => "key store password rejected for " ++ location
  | nameNotFound name => "key alias not found: " ++ name
  | wrongPassword name => "wrong password for key alias: " ++ name
  | malformed name fault => "malformed key entry " ++ name ++ ": " ++ fault.message
  | unreadable path => "failed to read " ++ path

/-- Why a pair of halves is no usable key. -/
inductive KeyFault where
  | privateEncoding
  | publicEncoding
  | rsaPublicKey
  | curveMissing
  | cannotSign
  | pointEncoding
deriving DecidableEq, Repr

def KeyFault.message : KeyFault → String
  | privateEncoding => "invalid PKCS#8 private key"
  | publicEncoding => "invalid public key"
  | rsaPublicKey => "invalid RSA public key"
  | curveMissing => "missing EC curve parameters"
  | cannotSign => "private key cannot sign"
  | pointEncoding => "EC public key is not an uncompressed P-256 point"

/-- Why no keys can be loaded. -/
inductive KeyError where
  /-- None of the locations opens. -/
  | storeUnavailable (tried : List String)
  | signingKeyMissing (name : String) (cause : StoreError)
  | unsupportedType (name keyType : String)
  | pairMismatch (name : String)
  | invalid (name : String) (fault : KeyFault)
  /-- An entry of a key that only checks does not load. -/
  | store (cause : StoreError)
deriving DecidableEq, Repr

namespace KeyError

def message : KeyError → String
  | storeUnavailable tried => "no key store could be opened (tried: " ++ ", ".intercalate tried ++ ")"
  | signingKeyMissing name cause => "signing key " ++ name ++ " unavailable: " ++ cause.message
  | unsupportedType name keyType => "unsupported key type for " ++ name ++ ": " ++ keyType
  | pairMismatch name => "private and public key for " ++ name ++ " do not match"
  | invalid name fault => "invalid key material for " ++ name ++ ": " ++ fault.message
  | store cause => cause.message

/-- The sentence, and those of the causes behind it. -/
def report : KeyError → List String
  | signingKeyMissing name cause => [message (signingKeyMissing name cause), cause.message]
  | error => [error.message]

def status : Nat := 500

end KeyError
end TokenAuthority
