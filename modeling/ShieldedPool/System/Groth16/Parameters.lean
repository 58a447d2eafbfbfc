import ShieldedPool.Curve.Bls12381.Encoding

/-!
# Proof system parameters

A verifying key is a few points of both groups. The parameter file holds it in front of the lists of points that proving
needs. The points of the verifying key are checked when the file is read; of the lists, which are long and come from the same
trusted file, only the encoding is.
-/

namespace ShieldedPool

namespace Groth16

abbrev G1 := Point Bls12381.Fp

abbrev G2 := Point Bls12381.Fp2

/-- What proofs are checked with (`groth16::VerifyingKey`). There is one point `ic` for each scalar of the primary input and
one more in front. -/
structure VerifyingKey where
  alpha : G1
  beta : G2
  gamma : G2
  delta : G2
  ic : List G1

/-- The lists of points that proofs are made from (`groth16::Parameters`). -/
structure ProvingKey where
  h : List G1 := []
  l : List G1 := []
  a : List G1 := []
  b1 : List G1 := []
  b2 : List G2 := []

/-! ## Reading -/

/-- Reads from the front of a byte string and returns the bytes it leaves. -/
abbrev PointReader := StateT (List UInt8) (Except Bls12381.PointError)

namespace PointReader

/-- The next `n` bytes. -/
def bytes (n : Nat) : PointReader (List UInt8) := fun l =>
  if n ≤ l.length then .ok (l.take n, l.drop n) else .error .unexpectedEnd

/-- A point in the next `n` bytes, or a given error if they hold none. -/
def point {α : Type} (n : Nat) (read? : List UInt8 → Option α) (invalid : Bls12381.PointError) : PointReader α := do
  match read? (← bytes n) with
  | some p => return p
  | none => throw invalid

/-- A point that must not be at infinity. -/
def finite {F : Type} (point : PointReader (Point F)) : PointReader (Point F) := do
  let p ← point
  if p.isInfinity then throw .infinity
  return p

def compressedG1 : PointReader G1 := finite (point 48 Bls12381.g1.ofCompressed? .invalidG1)

def compressedG2 : PointReader G2 := finite (point 96 Bls12381.g2.ofCompressed? .invalidG2)

def checkedG1 : PointReader G1 := point 96 Bls12381.g1.ofUncompressed? .invalidG1

def checkedG2 : PointReader G2 := point 192 Bls12381.g2.ofUncompressed? .invalidG2

def trustedG1 : PointReader G1 := finite (point 96 Bls12381.g1.ofTrusted? .invalidG1)

def trustedG2 : PointReader G2 := finite (point 192 Bls12381.g2.ofTrusted? .invalidG2)

/-- As many items as are due. -/
def replicate {α : Type} (item : PointReader α) : Nat → PointReader (List α)
  | 0 => return []
  | n + 1 => do
    let a ← item
    let r ← replicate item n
    return a :: r

/-- A list after its length, which has four bytes, the most significant first. -/
def list {α : Type} (item : PointReader α) : PointReader (List α) := do
  replicate item (Bytes.toNatBE (← bytes 4))

end PointReader

/-- The points of the verifying key (`VerifyingKey::read`). Two of them, in the first group, are there for proving. -/
def VerifyingKey.read : PointReader VerifyingKey := do
  let alpha ← PointReader.checkedG1
  let _ ← PointReader.checkedG1
  let beta ← PointReader.checkedG2
  let gamma ← PointReader.checkedG2
  let _ ← PointReader.checkedG1
  let delta ← PointReader.checkedG2
  let ic ← PointReader.list (.finite .checkedG1)
  return { alpha, beta, gamma, delta, ic }

/-- The lists after the verifying key (`Parameters::read`). -/
def ProvingKey.read : PointReader ProvingKey := do
  let h ← PointReader.list .trustedG1
  let l ← PointReader.list .trustedG1
  let a ← PointReader.list .trustedG1
  let b1 ← PointReader.list .trustedG1
  let b2 ← PointReader.list .trustedG2
  return { h, l, a, b1, b2 }

end Groth16

end ShieldedPool
