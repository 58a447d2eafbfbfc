import ShieldedPool.Curve.Bls12381.Field
import ShieldedPool.Curve.Point

/-!
# The pairing of BLS12-381

A bilinear map from the two groups into the roots of unity at the top of the tower. The loop doubles a point of the second
group up to a fixed multiple, and collects the values of the tangents and chords it meets at the point of the first group; the
power at the end makes the result independent of how the lines were scaled.
-/

namespace ShieldedPool.Bls12381

/-- The length of the loop. -/
def loopLength : Nat := 0xd201000000010000

/-- The value at `(px, py)` of the line through a point `(x, y)` of the second group with a given slope, up to a factor that
the last power takes away. -/
def lineValue (slope x y : Fp2) (px py : Fp) : Fp12 :=
  ⟨⟨slope * x - y, -(slope * ⟨px, 0⟩), 0⟩, ⟨0, ⟨py, 0⟩, 0⟩⟩

/-- A multiple of the point of the second group, and the product of the lines so far. -/
structure LoopState where
  x : Fp2
  y : Fp2
  value : Fp12

namespace LoopState

/-- Goes on along the line with a given slope, to the negative of its third point; `qx` is the coordinate of its second. -/
def follow (s : LoopState) (slope qx : Fp2) (px py : Fp) : LoopState :=
  let x := slope * slope - s.x - qx
  ⟨x, slope * (s.x - x) - s.y, s.value * lineValue slope s.x s.y px py⟩

/-- Doubles the point; the product is squared first. -/
def double (s : LoopState) (px py : Fp) : LoopState :=
  let xx := s.x * s.x
  { s with value := s.value * s.value }.follow ((xx + xx + xx) * (s.y + s.y)⁻¹) s.x px py

/-- Adds the point that the loop started from. -/
def add (s : LoopState) (qx qy : Fp2) (px py : Fp) : LoopState :=
  s.follow ((qy - s.y) * (qx - s.x)⁻¹) qx px py

end LoopState

/-- The product of the lines; one if either point is at infinity. -/
def millerLoop (p : Point Fp) (q : Point Fp2) : Fp12 :=
  match p, q with
  | .finite px py, .finite qx qy =>
    ((List.range loopLength.log2).foldr
      (fun i s => if loopLength.testBit i then (s.double px py).add qx qy px py else s.double px py)
      (⟨qx, qy, 1⟩ : LoopState)).value
  | _, _ => 1

/-- The exponent that is left of the last power once the conjugate has been divided by the value itself. -/
def lastExponent : Nat :=
  (prime * prime + 1) * ((prime * prime * prime * prime - prime * prime + 1) / order)

/-- Takes the power that leaves only roots of unity of the order of the groups. -/
def lastPower (x : Fp12) : Fp12 := power 1 (x.conjugate * x⁻¹) lastExponent

/-- The product of the pairings of several pairs of points. -/
def pairingProduct (l : List (Point Fp × Point Fp2)) : Fp12 :=
  lastPower (l.foldl (fun acc pair => acc * millerLoop pair.1 pair.2) 1)

end ShieldedPool.Bls12381
