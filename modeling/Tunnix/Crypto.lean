import Tunnix.Protocol
import Mathlib.Algebra.Group.Nat.Defs

namespace Tunnix

inductive CryptoError where
  | encryptionFailed
  | keyDerivationFailed (message : String)
deriving DecidableEq, Repr

/-- These operations belong to the key derivation and to the cipher that the tunnel builds on. -/
structure Primitives (Key : Type) where
  deriveKey : String → Except CryptoError Key
  cipherEncrypt : Key → Bytes → Bytes → Option Bytes

/-- An instance holds a key and counts its calls. -/
structure Crypto (Key : Type) where
  key : Key
  nonceCounter : UInt64
deriving DecidableEq, Repr

/-- `fill_bytes` fills the last four bytes of a nonce. -/
abbrev Random := Vector UInt8 4

/-- The bytes of a number, from the lowest one on. -/
def leBytes : Nat → Nat → Bytes
  | 0, _ => []
  | size + 1, value => UInt8.ofNat value :: leBytes size (value / 256)

theorem leBytes_length (size value : Nat) : (leBytes size value).length = size := by
  induction size generalizing value with
  | zero => rfl
  | succ size ih => rw [leBytes, List.length_cons, ih]

/-- Enough bytes tell a number. -/
theorem leBytes_inj {size first second : Nat} (firstFits : first < 256 ^ size)
    (secondFits : second < 256 ^ size) (same : leBytes size first = leBytes size second) :
    first = second := by
  induction size generalizing first second with
  | zero =>
      rw [Nat.pow_zero] at firstFits secondFits
      omega
  | succ size ih =>
      rw [Nat.pow_succ'] at firstFits secondFits
      obtain ⟨lowest, rest⟩ := List.cons.inj same
      have remainder := congrArg UInt8.toNat lowest
      rw [UInt8.toNat_ofNat', UInt8.toNat_ofNat'] at remainder
      have quotient := ih (Nat.div_lt_of_lt_mul firstFits) (Nat.div_lt_of_lt_mul secondFits) rest
      omega

namespace Crypto
variable {Key : Type}

/-- A new instance counts from zero. -/
def new (primitives : Primitives Key) (password : String) : Except CryptoError (Crypto Key) := do
  let key ← primitives.deriveKey password
  return { key, nonceCounter := 0 }

/-- A nonce is the counter and four random bytes. -/
def nonce (counter : UInt64) (random : Random) : Bytes :=
  leBytes 8 counter.toNat ++ random.toList

/-- Each call fetches the counter and adds one to it. -/
def generateNonce (crypto : Crypto Key) (random : Random) : Bytes × Crypto Key :=
  (nonce crypto.nonceCounter random, { crypto with nonceCounter := crypto.nonceCounter + 1 })

/-- The nonce stands in front of the ciphertext. -/
def encrypt (primitives : Primitives Key) (crypto : Crypto Key) (random : Random)
    (plaintext : Bytes) : Except CryptoError Bytes × Crypto Key :=
  let (nonceBytes, next) := crypto.generateNonce random
  match primitives.cipherEncrypt crypto.key nonceBytes plaintext with
  | some ciphertext => (.ok (nonceBytes ++ ciphertext), next)
  | none => (.error .encryptionFailed, next)

/-- A nonce tells its counter and its random bytes. -/
theorem nonce_inj {first second : UInt64} {random random' : Random}
    (same : nonce first random = nonce second random') : first = second ∧ random = random' := by
  obtain ⟨counters, randoms⟩ := List.append_inj same (by rw [leBytes_length, leBytes_length])
  have numbers := leBytes_inj first.toNat_lt second.toNat_lt counters
  exact ⟨UInt64.toNat_inj.mp numbers, Vector.toList_inj.mp randoms⟩

theorem new_ok {primitives : Primitives Key} {password : String} {crypto : Crypto Key}
    (made : new primitives password = .ok crypto) :
    primitives.deriveKey password = .ok crypto.key ∧ crypto.nonceCounter = 0 := by
  unfold new at made
  cases derived : primitives.deriveKey password with
  | error error =>
      rw [derived] at made
      contradiction
  | ok key =>
      rw [derived] at made
      cases made
      exact ⟨rfl, rfl⟩

theorem new_error {primitives : Primitives Key} {password : String} {error : CryptoError}
    (failed : new primitives password = .error error) :
    primitives.deriveKey password = .error error := by
  unfold new at failed
  cases derived : primitives.deriveKey password with
  | error error' =>
      rw [derived] at failed
      cases failed
      rfl
  | ok key =>
      rw [derived] at failed
      contradiction

/-- A call counts, also when the cipher fails. -/
theorem encrypt_snd (primitives : Primitives Key) (crypto : Crypto Key) (random : Random)
    (plaintext : Bytes) : (crypto.encrypt primitives random plaintext).2 =
      { crypto with nonceCounter := crypto.nonceCounter + 1 } := by
  unfold encrypt generateNonce
  dsimp only
  split <;> rfl

end Crypto

end Tunnix
