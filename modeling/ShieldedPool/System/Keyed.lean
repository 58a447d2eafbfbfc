import ShieldedPool.Hash.Blake2b
import ShieldedPool.System.Basic

/-!
# Keyed proofs

A proof system for development (`KeyedProvingSystem`). A proof is a keyed hash of the statement in three blocks, made only
after the auxiliary input has passed the check. Whoever lacks the key cannot make one, but whoever verifies could.
-/

namespace ShieldedPool

/-- A proof system that is made from a key (`KeyedProvingSystem`). -/
structure KeyedSystem where
  key : Bytes 32
deriving DecidableEq

namespace KeyedSystem

/-- Draws a new key (`KeyedProvingSystem::new`). -/
def draw : Draw KeyedSystem := return ⟨← drawBytes 32⟩

/-- The personalization that `KeyedProvingSystem::tag` hashes under. -/
def personal : Bytes 16 := Bytes.ofPadded 16 "SproutKeyedProof".toUTF8.toList

/-- What block `counter` of a proof hashes. -/
def preimage (counter : UInt8) (s : Statement) : List UInt8 := counter :: s.primaryInput

/-- One block of a proof. -/
def block (k : KeyedSystem) (counter : UInt8) (s : Statement) : Bytes 64 :=
  Blake2b.hash { key := k.key.toList, personal := personal } 64 (preimage counter s)

/-- The only proof of a statement that is accepted (`KeyedProvingSystem::tag`). -/
def tag (k : KeyedSystem) (s : Statement) : ZkProof := ⟨k.block 0 s ++ k.block 1 s ++ k.block 2 s⟩

/-- The proof system (`create_proof` and `verify_proof` of `KeyedProvingSystem`). -/
instance : ProofSystem KeyedSystem where
  createProof k s a := do
    (a.check s).mapError .unsatisfied
    return k.tag s
  verifyProof k s proof := if k.tag s = proof then .ok () else .error .invalidProof

/-- The key is not shown. -/
def diagnostic (_ : KeyedSystem) : Diagnostic :=
  .record "KeyedProvingSystem" [("key", .quoted "<redacted>")] false

end KeyedSystem

end ShieldedPool
