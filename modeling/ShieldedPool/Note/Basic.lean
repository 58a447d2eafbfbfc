import ShieldedPool.Amount
import ShieldedPool.HSig

/-!
# Notes

A note is an amount that belongs to a paying key. It appears in public only by its commitment (`NoteCommitment`), when it is
created, and by its nullifier, when it is spent. The seed `rho` fixes the nullifier under the owner's spending key; the
trapdoor `rcm` hides the rest of the note inside the commitment.
-/

namespace ShieldedPool

/-- The seed that a note's nullifier is derived from (`NullifierSeed`). -/
structure NullifierSeed where
  bytes : Bytes 32
deriving DecidableEq

/-- The trapdoor of a note commitment (`CommitmentRandomness`). -/
structure CommitmentRandomness where
  bytes : Bytes 32
deriving DecidableEq

/-- Draws a new trapdoor (`CommitmentRandomness::new`). -/
def CommitmentRandomness.draw : Draw CommitmentRandomness := return ⟨← drawBytes 32⟩

/-- What stands for a note in the tree (`NoteCommitment`). -/
structure NoteCommitment where
  bytes : Bytes 32
deriving DecidableEq

/-- A note (`Note`): an amount that belongs to a paying key. -/
structure Note where
  payingKey : PayingKey
  value : Amount
  rho : NullifierSeed
  rcm : CommitmentRandomness
deriving DecidableEq

namespace Note

/-- Creates a note with a fresh trapdoor (`Note::new`). -/
def draw (payingKey : PayingKey) (value : Amount) (rho : NullifierSeed) : Draw Note :=
  return ⟨payingKey, value, rho, ← CommitmentRandomness.draw⟩

/-- Creates a note of value zero with a fresh seed and trapdoor (`Note::dummy`). -/
def drawDummy (payingKey : PayingKey) : Draw Note := do
  draw payingKey .zero ⟨← drawBytes 32⟩

/-- What a commitment hashes: a leading byte and the four fields, each of fixed width. -/
def preimage (n : Note) : List UInt8 :=
  0xb0 :: n.payingKey.bytes.toList ++ n.value.toBytes.toList ++ n.rho.bytes.toList ++ n.rcm.bytes.toList

/-- The hash of all of a note (`Note::commitment`). -/
def commitment (n : Note) : NoteCommitment := ⟨Sha256.hash n.preimage⟩

/-- The nullifier under a spending key (`Note::nullifier`). It is the note's own only under the key that owns the note. -/
def nullifier (n : Note) (key : SpendingKey) : Nullifier := ⟨Prf.eval .nullifier key.bytes n.rho.bytes⟩

end Note

/-- The seed of output `index` of a JoinSplit (`output_rho`), from a fresh secret of 252 bits and the signature hash. -/
def outputRho (phi : Bytes 32) (index : Index) (hSig : HSig) : NullifierSeed :=
  ⟨Prf.eval (.rho index) phi hSig.bytes⟩

/-! ## Diagnostic text -/

def NullifierSeed.diagnostic (r : NullifierSeed) : Diagnostic := .tuple "NullifierSeed" [.hex32 r.bytes]

def CommitmentRandomness.diagnostic (r : CommitmentRandomness) : Diagnostic :=
  .tuple "CommitmentRandomness" [.hex32 r.bytes]

def NoteCommitment.diagnostic (c : NoteCommitment) : Diagnostic := .tuple "NoteCommitment" [.hex32 c.bytes]

def Note.diagnostic (n : Note) : Diagnostic :=
  .record "Note"
    [("paying_key", n.payingKey.diagnostic), ("value", n.value.diagnostic), ("rho", n.rho.diagnostic),
     ("rcm", n.rcm.diagnostic)] false

end ShieldedPool
