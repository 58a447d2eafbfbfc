import ShieldedPool.Curve.Bls12381.Field
import ShieldedPool.Statement

/-!
# The primary input as scalars

The bytes of a statement are read as bits, most significant first within a byte, and cut into chunks of 254 bits. Each chunk
is a number with its least significant bit first. It is below the order of the groups, so the scalars determine the bits.
-/

namespace ShieldedPool

namespace Packing

/-- The bits of a byte, most significant first. -/
def byteBits (b : UInt8) : List Bool := (List.range 8).map fun i => b.toNat.testBit (7 - i)

/-- The bits of a byte string (`multipack::bytes_to_bits`). -/
def bits (l : List UInt8) : List Bool := l.flatMap byteBits

/-- The number of bits that fit into a scalar whatever they are. -/
def capacity : Nat := 254

/-- Cuts a list into pieces of the capacity; the last may be shorter. -/
def chunks (l : List Bool) : List (List Bool) :=
  (List.range ((l.length + (capacity - 1)) / capacity)).map fun i => (l.drop (capacity * i)).take capacity

/-- The number whose least significant bit comes first. -/
def number (l : List Bool) : Nat := l.foldr (fun b n => b.toNat + 2 * n) 0

end Packing

/-- The scalars that a proof of the statement is checked against (`primary_inputs`). -/
def Statement.scalars (s : Statement) : List Bls12381.Scalar :=
  (Packing.chunks (Packing.bits s.primaryInput)).map fun c => .ofNat Bls12381.order (Packing.number c)

end ShieldedPool
