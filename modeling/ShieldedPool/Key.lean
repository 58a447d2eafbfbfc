import ShieldedPool.Curve.X25519
import ShieldedPool.Diagnostic
import ShieldedPool.Entropy
import ShieldedPool.Prf

/-!
# Keys and addresses

A spending key is the root of the derivation. From it come the paying key, which notes are committed to, and the receiving
key, whose public half encrypts notes to the owner. A viewing key holds what finds incoming notes, an address what sends them.
-/

namespace ShieldedPool

/-- A root secret of 252 bits (`SpendingKey`): the four high bits of the first byte are clear. -/
structure SpendingKey where
  bytes : Bytes 32
  mask252_bytes : Prf.mask252 bytes = bytes
deriving DecidableEq

/-- The half of an address that notes are committed to (`PayingKey`). -/
structure PayingKey where
  bytes : Bytes 32
deriving DecidableEq

/-- A secret for key agreement, clamped (`ReceivingKey`). -/
structure ReceivingKey where
  bytes : Bytes 32
  clamp_bytes : X25519.clamp bytes = bytes
deriving DecidableEq

/-- What finds and decrypts the notes sent to an address, without being able to spend them (`IncomingViewingKey`). -/
structure ViewingKey where
  payingKey : PayingKey
  receivingKey : ReceivingKey
deriving DecidableEq

/-- Where notes are sent (`PaymentAddress`): what they are committed to, and the public key they are encrypted to. -/
structure PaymentAddress where
  payingKey : PayingKey
  transmissionKey : X25519.PublicKey
deriving BEq

/-! ## Construction -/

/-- The message for a spending key that uses its four high bits. -/
def spendingKeyTooWideMessage : String := "spending key is wider than 252 bits"

namespace SpendingKey

theorem mask252_mask252 (b : Bytes 32) : Prf.mask252 (Prf.mask252 b) = Prf.mask252 b := by
  have h (x : UInt8) : x &&& 15 &&& 15 = x &&& 15 := by rw [UInt8.and_assoc]; rfl
  ext i hi
  by_cases hf : i = 0 <;> simp [Prf.mask252, hf, h]

/-- Clears the four high bits (`SpendingKey::from`). -/
def ofBytes (b : Bytes 32) : SpendingKey := ⟨Prf.mask252 b, mask252_mask252 b⟩

/-- Takes the bytes as they are, unless the four high bits are in use (`SpendingKey::try_from_bytes`). -/
def ofBytes? (b : Bytes 32) : Option SpendingKey :=
  if h : Prf.mask252 b = b then some ⟨b, h⟩ else none

/-- Draws a new key (`SpendingKey::new`). -/
def draw : Draw SpendingKey := return ofBytes (← drawBytes 32)

end SpendingKey

/-- Clamps a secret (`ReceivingKey::from_bytes`). -/
def ReceivingKey.ofBytes (b : Bytes 32) : ReceivingKey := ⟨X25519.clamp b, X25519.clamp_clamp b⟩

/-! ## Derivation -/

/-- The public half of a receiving key (`transmission_key`). -/
def ReceivingKey.transmissionKey (k : ReceivingKey) : X25519.PublicKey := X25519.publicKey k.bytes

namespace SpendingKey

/-- The key that the owner's notes are committed to (`SpendingKey::paying_key`). -/
def payingKey (k : SpendingKey) : PayingKey := ⟨Prf.eval .address k.bytes (Prf.selector 0)⟩

/-- The secret that decrypts notes to the owner (`SpendingKey::receiving_key`). -/
def receivingKey (k : SpendingKey) : ReceivingKey := .ofBytes (Prf.eval .address k.bytes (Prf.selector 1))

/-- Both halves of what views the address (`SpendingKey::incoming_viewing_key`). -/
def viewingKey (k : SpendingKey) : ViewingKey := ⟨k.payingKey, k.receivingKey⟩

/-- The address of a spending key (`SpendingKey::address`). -/
def address (k : SpendingKey) : PaymentAddress := ⟨k.payingKey, k.receivingKey.transmissionKey⟩

end SpendingKey

/-- The address that a viewing key views (`IncomingViewingKey::address`). -/
def ViewingKey.address (k : ViewingKey) : PaymentAddress := ⟨k.payingKey, k.receivingKey.transmissionKey⟩

/-! ## Diagnostic text -/

/-- Secrets are not shown. -/
def SpendingKey.diagnostic (_ : SpendingKey) : Diagnostic := .tuple "SpendingKey" [.quoted ".."]

def ReceivingKey.diagnostic (_ : ReceivingKey) : Diagnostic := .tuple "ReceivingKey" [.quoted ".."]

def PayingKey.diagnostic (k : PayingKey) : Diagnostic := .hex "PayingKey" k.bytes.toList

def ViewingKey.diagnostic (k : ViewingKey) : Diagnostic :=
  .record "IncomingViewingKey"
    [("paying_key", k.payingKey.diagnostic), ("receiving_key", k.receivingKey.diagnostic)] false

/-- An address shows its transmission key as hexadecimal digits. -/
def PaymentAddress.diagnostic (a : PaymentAddress) : Diagnostic :=
  .record "PaymentAddress"
    [("paying_key", a.payingKey.diagnostic),
     ("transmission_key", .quoted (Bytes.hex a.transmissionKey.bytes.toList))] false

end ShieldedPool
