import Tunnix.Crypto
import Tunnix.Wire

namespace Tunnix

/-- The cipher opens what it has sealed. -/
structure Aead (Key : Type) extends Primitives Key where
  cipherDecrypt : Key → Bytes → Bytes → Option Bytes

def nonceSize : Nat := 12

def tagSize : Nat := 16

/-- These two errors belong to `decrypt`. -/
inductive DecryptError where
  | invalidNonce
  | decryptionFailed
deriving DecidableEq, Repr

section Aead
variable {Key : Type}

/-- A ciphertext opens under its own key and nonce, and a tag makes it longer than its plaintext. -/
structure Aead.Correct (aead : Aead Key) : Prop where
  opens : ∀ {key nonce plaintext ciphertext},
    aead.cipherEncrypt key nonce plaintext = some ciphertext →
      aead.cipherDecrypt key nonce ciphertext = some plaintext
  tagged : ∀ {key nonce plaintext ciphertext},
    aead.cipherEncrypt key nonce plaintext = some ciphertext →
      ciphertext.length = plaintext.length + tagSize

/-- Shorter data holds no nonce and tag, and the cipher does not see it. -/
def Crypto.decrypt (aead : Aead Key) (key : Key) (data : Bytes) : Except DecryptError Bytes :=
  if data.length < nonceSize + tagSize then .error .invalidNonce
  else
    match aead.cipherDecrypt key (data.take nonceSize) (data.drop nonceSize) with
    | some plaintext => .ok plaintext
    | none => .error .decryptionFailed

/-- A receiver decrypts what it gets and reads a message from it. -/
def openMessage (aead : Aead Key) (key : Key) (data : Bytes) : Option Message :=
  match Crypto.decrypt aead key data with
  | .ok plaintext => Wire.fromBytes plaintext
  | .error _ => none

/-- A call of `encrypt` under this key has sealed the message. -/
def Sealed (aead : Aead Key) (key : Key) (message : Message) (data : Bytes) : Prop :=
  ∃ counter random,
    (Crypto.encrypt aead.toPrimitives ⟨key, counter⟩ random (Wire.toBytes message)).1 = .ok data

theorem nonce_length (counter : UInt64) (random : Random) :
    (Crypto.nonce counter random).length = nonceSize := by
  rw [Crypto.nonce, List.length_append, leBytes_length, Vector.length_toList]
  rfl

variable {aead : Aead Key} {key : Key} {message : Message} {data : Bytes}

/-- What was encrypted is decrypted under the same key. -/
theorem decrypt_encrypt (correct : aead.Correct) {counter : UInt64} {random : Random}
    {plaintext : Bytes}
    (encrypted : (Crypto.encrypt aead.toPrimitives ⟨key, counter⟩ random plaintext).1 = .ok data) :
    Crypto.decrypt aead key data = .ok plaintext := by
  unfold Crypto.encrypt Crypto.generateNonce at encrypted
  dsimp only at encrypted
  split at encrypted
  · next ciphertext made =>
      cases encrypted
      have width := nonce_length counter random
      have long := correct.tagged made
      rw [Crypto.decrypt, if_neg]
      · rw [← width, List.take_left, List.drop_left, correct.opens made]
      · rw [List.length_append, width, long]
        omega
  · cases encrypted

/-- A sealed message is opened under the same key. -/
theorem open_sealed (correct : aead.Correct) (allocated : Wire.AllocatedMessage message)
    (done : Sealed aead key message data) : openMessage aead key data = some message := by
  obtain ⟨counter, random, encrypted⟩ := done
  have whole := (Wire.takes_message allocated).whole []
  rw [List.append_nil] at whole
  rw [openMessage, decrypt_encrypt correct encrypted]
  change Wire.fromBytes (Wire.toBytes message) = some message
  rw [Wire.fromBytes, whole]
  rfl

end Aead

/-- The toy cipher appends its key sixteen times and checks that. The key of a password is its length. -/
def marking : Aead UInt8 where
  deriveKey password := .ok (UInt8.ofNat password.length)
  cipherEncrypt key _ plaintext := some (plaintext ++ List.replicate tagSize key)
  cipherDecrypt key _ ciphertext :=
    if ciphertext.drop (ciphertext.length - tagSize) = List.replicate tagSize key then
      some (ciphertext.take (ciphertext.length - tagSize))
    else none

theorem marking_correct : marking.Correct where
  opens := by
    rintro key nonce plaintext ciphertext ⟨⟩
    simp [marking, tagSize]
  tagged := by
    rintro key nonce plaintext ciphertext ⟨⟩
    rw [List.length_append, List.length_replicate]

/-- The first call of an instance seals the message so, if its random bytes are zeros. -/
def marked (key : UInt8) (message : Message) : Bytes :=
  leBytes 8 0 ++ [0, 0, 0, 0] ++ Wire.toBytes message ++ List.replicate tagSize key

theorem marked_sealed (key : UInt8) (message : Message) :
    Sealed marking key message (marked key message) := ⟨0, Vector.replicate 4 0, rfl⟩

end Tunnix
