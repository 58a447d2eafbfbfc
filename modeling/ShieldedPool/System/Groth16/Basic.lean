import ShieldedPool.Curve.Bls12381.Pairing
import ShieldedPool.System.Basic
import ShieldedPool.System.Groth16.Packing
import ShieldedPool.System.Groth16.Parameters

/-!
# Groth16 proofs

A proof is three points, and it is accepted if one equation between pairings holds that combines them with the verifying key
and the scalars of the primary input. Making proofs takes the proving key and a circuit for the relation. The circuit
(`zcash_proofs::sprout::create_proof`) is not part of this library: a proof system is made with any `Groth16.Prover`, which
is asked for a proof only if there is a proving key and the auxiliary input has passed the check.
-/

namespace ShieldedPool

/-- The three points of a proof (`groth16::Proof`). None is at infinity. -/
structure Groth16.Proof where
  a : Groth16.G1
  b : Groth16.G2
  c : Groth16.G1

/-- The first two points are followed by the third, all compressed (`Proof::read`). -/
def Groth16.Proof.read : Groth16.PointReader Groth16.Proof := do
  let a ← Groth16.PointReader.compressedG1
  let b ← Groth16.PointReader.compressedG2
  let c ← Groth16.PointReader.compressedG1
  return { a, b, c }

/-- The point that a primary input stands for. -/
def Groth16.VerifyingKey.inputPoint (k : Groth16.VerifyingKey) (scalars : List Bls12381.Scalar) : Groth16.G1 :=
  Point.combine ((1 :: scalars.map Residue.value).zip k.ic)

/-- Whether a proof satisfies the equation (`groth16::verify_proof`). A key for another number of scalars accepts none. -/
def Groth16.VerifyingKey.accepts (k : Groth16.VerifyingKey) (scalars : List Bls12381.Scalar)
    (p : Groth16.Proof) : Bool :=
  scalars.length + 1 = k.ic.length &&
    Bls12381.pairingProduct [(p.a, p.b)] =
      Bls12381.pairingProduct [(k.alpha, k.beta), (k.inputPoint scalars, k.gamma), (p.c, k.delta)]

/-! ## Making proofs -/

namespace Groth16

/-- What `zcash_proofs::sprout::create_proof` is told of an input. -/
structure CircuitInput where
  spendingKey : Bytes 32
  value : Nat
  rho : Bytes 32
  rcm : Bytes 32
  path : List UInt8

/-- What `zcash_proofs::sprout::create_proof` is told of an output. -/
structure CircuitOutput where
  payingKey : Bytes 32
  value : Nat
  rcm : Bytes 32

/-- All that `zcash_proofs::sprout::create_proof` is given beside the parameters. -/
structure Assignment where
  phi : Bytes 32
  anchor : Bytes 32
  hSig : Bytes 32
  inputs : Vector CircuitInput 2
  outputs : Vector CircuitOutput 2
  vpubOld : Nat
  vpubNew : Nat

def CircuitInput.of (n : SpentNote) : CircuitInput where
  spendingKey := n.spendingKey.bytes
  value := n.note.value.zatoshis
  rho := n.note.rho.bytes
  rcm := n.note.rcm.bytes
  path := n.witness.pathBytes

def CircuitOutput.of (n : Note) : CircuitOutput where
  payingKey := n.payingKey.bytes
  value := n.value.zatoshis
  rcm := n.rcm.bytes

def Assignment.of (s : Statement) (a : AuxiliaryInput) : Assignment where
  phi := a.phi
  anchor := s.anchor.bytes
  hSig := s.hSig.bytes
  inputs := a.inputs.map .of
  outputs := a.outputs.map .of
  vpubOld := s.vpubOld.zatoshis
  vpubNew := s.vpubNew.zatoshis

/-- A prover for the circuit, whatever it is: how it makes the points of a proof from the parameters and an assignment
(`zcash_proofs::sprout::create_proof`), and how it writes them (`Proof::write`). -/
class Prover where
  create : VerifyingKey → ProvingKey → Assignment → Proof
  write : Proof → List UInt8

end Groth16

/-- A verifying key, and the proving key if there is one (`Groth16`). -/
structure Groth16System where
  verifyingKey : Groth16.VerifyingKey
  provingKey : Option Groth16.ProvingKey

namespace Groth16System

/-- The parameters in a file (`Groth16::read`); bytes after them are left alone. -/
def read (file : List UInt8) : Except Bls12381.PointError Groth16System := do
  let (verifyingKey, rest) ← Groth16.VerifyingKey.read file
  let (provingKey, _) ← Groth16.ProvingKey.read rest
  return { verifyingKey, provingKey := some provingKey }

/-- The proof system (`create_proof` and `verify_proof` of `Groth16`). -/
instance [Groth16.Prover] : ProofSystem Groth16System where
  createProof g s a := do
    let some provingKey := g.provingKey | throw .missingProvingKey
    (a.check s).mapError .unsatisfied
    let written := Groth16.Prover.write (Groth16.Prover.create g.verifyingKey provingKey (.of s a))
    -- what is written goes into a buffer of zeros as large as a proof
    unless written.length ≤ ZkProof.size do throw .encoding
    return ⟨Bytes.ofPadded ZkProof.size written⟩
  verifyProof g s proof := do
    let (p, _) ← (Groth16.Proof.read proof.bytes.toList).mapError .malformedProof
    unless g.verifyingKey.accepts s.scalars p do throw .invalidProof

/-- Of the points, only whether they suffice for proving is shown. -/
def diagnostic (g : Groth16System) : Diagnostic :=
  .record "Groth16" [("proving_key", .bool g.provingKey.isSome)] true

end Groth16System

end ShieldedPool
