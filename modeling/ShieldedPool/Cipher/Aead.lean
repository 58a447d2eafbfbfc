import ShieldedPool.Cipher.ChaCha20
import ShieldedPool.Cipher.Poly1305

/-!
# Authenticated encryption: ChaCha20-Poly1305 without associated data

Every key encrypts one message only, so the nonce is always zero. The result is the encrypted text followed by a
16-byte tag over it. `decrypt?` accepts exactly what `encrypt` produces, so a text has one sealed form under one key.
-/

namespace ShieldedPool.Aead

def nonce : Bytes 12 := Bytes.zero 12

/-- What the tag covers: the encrypted text, zeros up to 16 bytes, and the lengths of no associated data and of the text. -/
def authenticated {n : Nat} (text : Bytes n) : List UInt8 :=
  text.toList ++ List.replicate ((16 - n % 16) % 16) 0 ++ (Bytes.ofNat 8 0).toList ++ (Bytes.ofNat 8 n).toList

/-- The tag over an encrypted text, under the first half of keystream block zero. -/
def tag {n : Nat} (key : Bytes 32) (text : Bytes n) : Bytes 16 :=
  Poly1305.tag (ChaCha20.keystream key nonce 0 32) (authenticated text)

/-- The encrypted message with its tag (`encrypt_in_place_detached` of `ChaCha20Poly1305`). -/
def encrypt {n : Nat} (key : Bytes 32) (message : Bytes n) : Bytes (n + 16) :=
  ChaCha20.apply key nonce 1 message ++ tag key (ChaCha20.apply key nonce 1 message)

/-- The message inside an encrypted one, if the tag is right (`decrypt_in_place_detached`). -/
def decrypt? {n : Nat} (key : Bytes 32) (sealed : Bytes (n + 16)) : Option (Bytes n) :=
  if sealed.split.2 = tag key sealed.split.1 then some (ChaCha20.apply key nonce 1 sealed.split.1) else none

theorem decrypt?_eq_some_iff {n : Nat} {key : Bytes 32} {sealed : Bytes (n + 16)} {message : Bytes n} :
    decrypt? key sealed = some message ↔ sealed = encrypt key message := by
  unfold decrypt? encrypt
  constructor
  · intro h
    split at h
    · next ht =>
      rw [← Option.some.inj h, ChaCha20.apply_apply, ← ht, Bytes.append_split]
    · contradiction
  · intro h
    rw [h, Bytes.split_append, if_pos rfl, ChaCha20.apply_apply]

end ShieldedPool.Aead
