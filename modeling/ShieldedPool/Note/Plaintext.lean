import ShieldedPool.Codec
import ShieldedPool.Note.Basic
import ShieldedPool.Note.Memo

/-!
# Note plaintexts

What the recipient of a note has to learn, without the paying key, which they know already: the value, the seed, the
trapdoor and the memo. The encoding has 585 bytes, of which the first is always zero.
-/

namespace ShieldedPool

/-- What is encrypted to the recipient of a note (`NotePlaintext`). -/
structure NotePlaintext where
  value : Amount
  rho : NullifierSeed
  rcm : CommitmentRandomness
  memo : Memo
deriving DecidableEq

namespace NotePlaintext

/-- The length of an encoding (`NOTE_PLAINTEXT_SIZE`). -/
def size : Nat := 1 + 8 + 32 + 32 + 512

/-- What there is to tell of a note (`NotePlaintext::new`). -/
def ofNote (n : Note) (memo : Memo) : NotePlaintext := ⟨n.value, n.rho, n.rcm, memo⟩

/-- The note, once the paying key is known (`NotePlaintext::note`). -/
def note (p : NotePlaintext) (payingKey : PayingKey) : Note := ⟨payingKey, p.value, p.rho, p.rcm⟩

/-- The byte that every encoding starts with (`NOTE_PLAINTEXT_LEAD_BYTE`). -/
def lead : UInt8 := 0

/-- The encoding (`zcash_serialize` of `NotePlaintext`). -/
def encode (p : NotePlaintext) : List UInt8 :=
  lead :: p.value.toBytes.toList ++ p.rho.bytes.toList ++ p.rcm.bytes.toList ++ p.memo.bytes.toList

theorem length_encode (p : NotePlaintext) : p.encode.length = size := by
  simp [encode, size]

/-- The encoding in a buffer of its exact size (`NotePlaintext::to_bytes`). -/
def toBytes (p : NotePlaintext) : Bytes size := ⟨p.encode.toArray, by simp [length_encode]⟩

/-- Reads an encoding back (`zcash_deserialize` of `NotePlaintext`). -/
def decode : Decoder NotePlaintext := do
  let first ← Decoder.bytes 1
  if first[0] ≠ lead then throw (.malformed .plaintextLead)
  let value ← Amount.decode
  let rho ← Decoder.bytes 32
  let rcm ← Decoder.bytes 32
  let memo ← Decoder.bytes 512
  return ⟨value, ⟨rho⟩, ⟨rcm⟩, ⟨memo⟩⟩

def diagnostic (p : NotePlaintext) : Diagnostic :=
  .record "NotePlaintext"
    [("value", p.value.diagnostic), ("rho", p.rho.diagnostic), ("rcm", p.rcm.diagnostic),
     ("memo", p.memo.diagnostic)] false

end NotePlaintext

end ShieldedPool
