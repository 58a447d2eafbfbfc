import ShieldedPool.Curve.Bls12381.Encoding
import ShieldedPool.Statement

/-!
# Proof systems

A proof system creates proofs of statements from their auxiliary input and checks proofs against statements. Verification of
a whole description goes through the statement that the description makes.
-/

namespace ShieldedPool

/-- Why no proof was created (`ProverError`). -/
inductive ProverError
  | unsatisfied (cause : ConstraintError)
  | missingProvingKey
  /-- A proof was made, but it could not be written. -/
  | encoding
deriving DecidableEq

def ProverError.message : ProverError → String
  | unsatisfied cause => "JoinSplit circuit is not satisfied: " ++ cause.message
  | missingProvingKey => "no Sprout proving key is loaded"
  | encoding => "could not encode Groth16 proof"

/-- Why a proof was not accepted (`VerificationError`). -/
inductive VerificationError
  /-- The bytes are no proof. -/
  | malformedProof (cause : Bls12381.PointError)
  | invalidProof
deriving DecidableEq

def VerificationError.message : VerificationError → String
  | malformedProof cause => "malformed Groth16 proof: " ++ cause.message
  | invalidProof => "JoinSplit proof is invalid for its statement"

/-- Something that creates proofs and checks them (`ProvingSystem`). -/
class ProofSystem (σ : Type) where
  createProof : σ → Statement → AuxiliaryInput → Except ProverError ZkProof
  verifyProof : σ → Statement → ZkProof → Except VerificationError Unit

variable {σ : Type} [ProofSystem σ]

/-- Whether a proof is accepted for a statement (`verify`). -/
def verify (system : σ) (proof : ZkProof) (s : Statement) : Bool :=
  (ProofSystem.verifyProof system s proof).isOk

/-- Whether a description is accepted under the key that signs its transaction (`verify_joinsplit`). -/
def verifyJoinSplit (system : σ) (j : JoinSplit) (signingKey : Bytes 32) : Bool :=
  verify system j.proof (.ofJoinSplit j signingKey)

/-- A description to be verified, with the key that signs its transaction (`Item`). -/
structure VerificationItem where
  joinSplit : JoinSplit
  signingKey : Bytes 32

/-- Verifies one item, and says what is wrong with it (`Item::verify_single`). -/
def VerificationItem.verify (item : VerificationItem) (system : σ) : Except VerificationError Unit :=
  ProofSystem.verifyProof system (.ofJoinSplit item.joinSplit item.signingKey) item.joinSplit.proof

end ShieldedPool
