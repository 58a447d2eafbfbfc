import ShieldedPool.Amount

/-!
# Byte encodings

A decoder (`ZcashDeserialize`) takes what it needs from the front of a byte string and leaves the rest. Reading fails for one
of three causes: the input ends early, a field breaks a rule of its format, or a number is no amount. An encoding is the list
of its bytes; writing into a buffer fails if it is too small.
-/

namespace ShieldedPool

/-- Which rule of a format the bytes break (`SerializationError::Parse`). -/
inductive Malformed
  | base58Check
  | keyTrailing
  | keyVersion
  | spendingKeyTooWide
  | plaintextLead
deriving DecidableEq

def Malformed.message : Malformed → String
  | base58Check => "invalid Base58Check encoding"
  | keyTrailing => "trailing bytes after Sprout key"
  | keyVersion => "bad Sprout version prefix"
  | spendingKeyTooWide => "spending key is wider than 252 bits"
  | plaintextLead => "unknown Sprout note plaintext lead byte"

/-- Why bytes could not be decoded (`SerializationError`). -/
inductive DecodeError
  | unexpectedEnd
  | malformed (cause : Malformed)
  | amount (cause : AmountError)
deriving DecidableEq

/-- The message for input that ends before a field does. -/
def unexpectedEndMessage : String := "failed to fill whole buffer"

/-- The message for an encoding that does not fit into its buffer. -/
def bufferFullMessage : String := "failed to write whole buffer"

def DecodeError.message : DecodeError → String
  | unexpectedEnd => "io error: " ++ unexpectedEndMessage
  | malformed cause => "parse error: " ++ cause.message
  | amount cause => "input couldn't be parsed as a zatoshi \x60Amount\x60: " ++ cause.message

/-- Reads a value from the front of a byte string and returns the bytes it leaves (`ZcashDeserialize`). -/
abbrev Decoder := StateT (List UInt8) (Except DecodeError)

namespace Decoder

/-- The next `n` bytes (`read_8_bytes`, `read_32_bytes`, `read_exact`). -/
def bytes (n : Nat) : Decoder (Bytes n) := fun l =>
  if h : n ≤ l.length then .ok (Bytes.ofPrefix l h, l.drop n) else .error .unexpectedEnd

/-- Two fields of the same type. -/
def pair {α : Type} (d : Decoder α) : Decoder (Vector α 2) := do
  let a ← d
  let b ← d
  return #v[a, b]

end Decoder

/-- Eight bytes, which must hold an amount (`zcash_deserialize` of `Amount`). -/
def Amount.decode : Decoder Amount := do
  match Amount.ofBytes (← Decoder.bytes 8) with
  | .ok a => return a
  | .error e => throw (.amount e)

/-- Writes into a buffer of a given size, if it is large enough, and returns how much of it is left (`zcash_serialize` into a
slice). -/
def writeWithin? (capacity : Nat) (encoding : List UInt8) : Option Nat :=
  if encoding.length ≤ capacity then some (capacity - encoding.length) else none

end ShieldedPool
