import ShieldedPool.Entropy
import ShieldedPool.Hash.Blake2b
import ShieldedPool.Key

/-!
# The signature hash

A JoinSplit is bound to its transaction by `h_sig` (`HSig::new`): a hash of a fresh seed, the nullifiers in order, and the
public key that signs the transaction. The authentication codes and the seeds of the output notes are derived from it.
-/

namespace ShieldedPool

/-- The value that a spent note reveals, so that it cannot be spent twice (`Nullifier`). -/
structure Nullifier where
  bytes : Bytes 32
deriving DecidableEq

/-- Fresh randomness that keeps the signature hashes of different JoinSplits apart (`RandomSeed`). -/
structure RandomSeed where
  bytes : Bytes 32
deriving DecidableEq

/-- Draws a new seed (`RandomSeed::new`). -/
def RandomSeed.draw : Draw RandomSeed := return ⟨← drawBytes 32⟩

/-- The hash that binds a JoinSplit to its transaction (`HSig`). -/
structure HSig where
  bytes : Bytes 32
deriving DecidableEq

namespace HSig

/-- The personalization that `HSig::new` hashes under. -/
def personal : Bytes 16 := Bytes.ofPadded 16 "ZcashComputehSig".toUTF8.toList

/-- What is hashed. Every part has 32 bytes, so the string determines the seed, the nullifiers and the key. -/
def preimage (seed : RandomSeed) (nullifiers : List Nullifier) (signingKey : Bytes 32) : List UInt8 :=
  seed.bytes.toList ++ nullifiers.flatMap (fun n => n.bytes.toList) ++ signingKey.toList

/-- The hash of a seed, nullifiers in order and a key (`HSig::new`). -/
def compute (seed : RandomSeed) (nullifiers : List Nullifier) (signingKey : Bytes 32) : HSig :=
  ⟨Blake2b.hash { personal := personal } 32 (preimage seed nullifiers signingKey)⟩

end HSig

/-- The code by which an input's owner authenticates a JoinSplit (`Mac`). -/
structure Mac where
  bytes : Bytes 32
deriving DecidableEq

/-- The code of input `index` (`Mac::new`). -/
def Mac.compute (key : SpendingKey) (index : Index) (hSig : HSig) : Mac :=
  ⟨Prf.eval (.mac index) key.bytes hSig.bytes⟩

/-! ## Diagnostic text -/

def Nullifier.diagnostic (n : Nullifier) : Diagnostic := .tuple "Nullifier" [.hex32 n.bytes]

def RandomSeed.diagnostic (s : RandomSeed) : Diagnostic := .tuple "RandomSeed" [.hex32 s.bytes]

def HSig.diagnostic (h : HSig) : Diagnostic := .tuple "HSig" [.hex32 h.bytes]

/-- A code is shown as a list of numbers. -/
def Mac.diagnostic (m : Mac) : Diagnostic := .tuple "Mac" [.byteList m.bytes.toList]

end ShieldedPool
