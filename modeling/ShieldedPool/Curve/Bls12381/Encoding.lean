import ShieldedPool.Bytes
import ShieldedPool.Curve.Bls12381.Field
import ShieldedPool.Curve.Point

/-!
# Points of BLS12-381 in bytes

Coordinates are written most significant byte first, and their width leaves three bits at the front free. They flag a
compressed encoding, the point at infinity, and which of the two roots `y` is meant. A compressed encoding has `x` alone, an
uncompressed one both coordinates. Only one encoding of each kind is accepted for a point.
-/

namespace ShieldedPool.Bls12381

/-- Why bytes are no point, or not one that is due. -/
inductive PointError
  | unexpectedEnd
  | invalidG1
  | invalidG2
  | infinity
deriving DecidableEq

def PointError.message : PointError → String
  | unexpectedEnd => "failed to fill whole buffer"
  | invalidG1 => "invalid G1"
  | invalidG2 => "invalid G2"
  | infinity => "point at infinity"

/-- One of the two groups: its curve, and how the coordinates of its points are written. -/
structure Group (F : Type) where
  /-- The constant of the curve. -/
  b : F
  /-- The number of bytes of a coordinate. -/
  width : Nat
  coordinate? : List UInt8 → Option F
  sqrt? : F → Option F
  isLarger : F → Bool

/-- The number that is written, if it is a least representative. -/
def Fp.ofBytes? (l : List UInt8) : Option Fp := Residue.ofNat? prime (Bytes.toNatBE l)

/-- The imaginary part comes first. -/
def Fp2.ofBytes? (l : List UInt8) : Option Fp2 := do
  let im ← Fp.ofBytes? (l.take 48)
  let re ← Fp.ofBytes? (l.drop 48)
  return ⟨re, im⟩

def g1 : Group Fp where
  b := 4
  width := 48
  coordinate? := Fp.ofBytes?
  sqrt? := Residue.sqrt?
  isLarger := isLarger

def g2 : Group Fp2 where
  b := Fp2.mulXi 4
  width := 96
  coordinate? := Fp2.ofBytes?
  sqrt? := Fp2.sqrt?
  isLarger := Fp2.isLarger

/-! ## Flags -/

/-- The bits in front of a coordinate. -/
structure Flags where
  compressed : Bool
  infinity : Bool
  larger : Bool

def Flags.ofBytes (l : List UInt8) : Flags :=
  let n := (l.headD 0).toNat
  ⟨n.testBit 7, n.testBit 6, n.testBit 5⟩

/-- The bytes with the flags cleared. -/
def clearFlags : List UInt8 → List UInt8
  | [] => []
  | x :: r => (x &&& 0x1f) :: r

/-! ## Reading -/

namespace Group

variable {F : Type} [Add F] [Sub F] [Neg F] [Mul F] [OfNat F 0] [OfNat F 1] [DecidableEq F]

/-- The point with a coordinate `x` and the larger or smaller root, if it is on the curve. -/
def lift? (g : Group F) (x : F) (larger : Bool) : Option (Point F) := do
  let y ← g.sqrt? (x * x * x + g.b)
  return .finite x (if g.isLarger y = larger then y else -y)

/-- Reads a compressed point of the group. -/
def ofCompressed? (g : Group F) (l : List UInt8) : Option (Point F) := do
  let flags := Flags.ofBytes l
  let x ← g.coordinate? (clearFlags l)
  if !flags.compressed then none
  else if flags.infinity then if x = 0 ∧ !flags.larger then some .infinity else none
  else
    let p ← g.lift? x flags.larger
    if p.hasOrder order then some p else none

/-- Reads an uncompressed pair of coordinates, whether or not it is a point of the curve. -/
def ofTrusted? (g : Group F) (l : List UInt8) : Option (Point F) := do
  let flags := Flags.ofBytes l
  let x ← g.coordinate? (clearFlags (l.take g.width))
  let y ← g.coordinate? (l.drop g.width)
  if flags.compressed || flags.larger then none
  else if flags.infinity then if x = 0 ∧ y = 0 then some .infinity else none
  else some (.finite x y)

/-- Reads an uncompressed point of the group. -/
def ofUncompressed? (g : Group F) (l : List UInt8) : Option (Point F) := do
  let p ← g.ofTrusted? l
  if p.onCurve g.b && p.hasOrder order then some p else none

end Group

end ShieldedPool.Bls12381
