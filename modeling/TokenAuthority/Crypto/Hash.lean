import TokenAuthority.Crypto.Sha2

/-!
# Hashes, authentication codes and password keys

A hash function gives an authentication code under a key: the hash of the key, made unlike itself in one
way, before the hash of the key, made unlike itself in another way, before the message. Codes under a
password, repeated many times over a salt, give a key of any length.
-/

namespace TokenAuthority

/-- A hash function. -/
inductive Hash where
  | sha224
  | sha256
  | sha384
  | sha512
deriving DecidableEq, Repr

namespace Hash

/-- How many bytes of the state make up the hash. -/
def size : Hash → Nat
  | sha224 => 28
  | sha256 => 32
  | sha384 => 48
  | sha512 => 64

/-- The hash of a message. -/
def digest (hash : Hash) (message : List UInt8) : List UInt8 :=
  let bytes := match hash with
    | sha224 => Sha2.finish Sha2.start224 0 message
    | sha256 => Sha2.finish Sha2.start256 0 message
    | sha384 => Sha2.finish Sha2.start384 0 message
    | sha512 => Sha2.finish Sha2.start512 0 message
  bytes.take hash.size

/-- How many bytes a block has. -/
def blockSize : Hash → Nat
  | sha224 => 64
  | sha256 => 64
  | sha384 => 128
  | sha512 => 128

/-- A key as long as a block. -/
def blockKey (hash : Hash) (key : List UInt8) : List UInt8 :=
  let key := if key.length ≤ hash.blockSize then key else hash.digest key
  key ++ List.replicate (hash.blockSize - key.length) 0

/-- The code of a message, of whose two hashes the first block is absorbed already. -/
@[specialize] def codeAfter {α : Type} [Sha2.Word α] (hash : Hash) (inner outer : Sha2.State α)
    (message : List UInt8) : List UInt8 :=
  let inside := (Sha2.finish inner hash.blockSize message).take hash.size
  (Sha2.finish outer hash.blockSize inside).take hash.size

/-- The authentication code of a message under a key. The blocks of the key are absorbed once for all
messages. -/
def code (hash : Hash) (key : List UInt8) : List UInt8 → List UInt8 :=
  let inner := (hash.blockKey key).map (· ^^^ 0x36)
  let outer := (hash.blockKey key).map (· ^^^ 0x5c)
  match hash with
  | sha224 =>
    let inner := Sha2.absorbAll Sha2.start224 inner
    let outer := Sha2.absorbAll Sha2.start224 outer
    fun message => codeAfter sha224 inner outer message
  | sha256 =>
    let inner := Sha2.absorbAll Sha2.start256 inner
    let outer := Sha2.absorbAll Sha2.start256 outer
    fun message => codeAfter sha256 inner outer message
  | sha384 =>
    let inner := Sha2.absorbAll Sha2.start384 inner
    let outer := Sha2.absorbAll Sha2.start384 outer
    fun message => codeAfter sha384 inner outer message
  | sha512 =>
    let inner := Sha2.absorbAll Sha2.start512 inner
    let outer := Sha2.absorbAll Sha2.start512 outer
    fun message => codeAfter sha512 inner outer message

/-- One piece of a password key: the sum without carry of codes, each the code of the one before it. -/
def passwordPiece (code : List UInt8 → List UInt8) (salt : List UInt8) (iterations index : Nat) :
    List UInt8 :=
  let first := code (salt ++ BigEndian.fixed 4 index)
  ((List.range (iterations - 1)).foldl (fun (last, sum) _ =>
    let next := code last
    (next, List.zipWith (· ^^^ ·) sum next)) (first, first)).2

/-- The key of the given length that a password, a salt and a number of iterations give. -/
def passwordKey (hash : Hash) (password salt : List UInt8) (iterations length : Nat) : List UInt8 :=
  let code := hash.code password
  let pieces := (length + hash.size - 1) / hash.size
  ((List.range pieces).flatMap fun index => passwordPiece code salt iterations (index + 1)).take length

end Hash
end TokenAuthority
