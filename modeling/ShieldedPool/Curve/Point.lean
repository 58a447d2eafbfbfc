/-!
# Points of an elliptic curve

Curves `y * y = x * x * x + b` over any field. A point is at infinity or has two coordinates. Multiples are computed on
projective triples, which need no division: `(x, y, z)` stands for `(x / z ^ 2, y / z ^ 3)`, and for infinity if `z` is zero.
-/

namespace ShieldedPool

/-- A point by its coordinates. -/
inductive Point (F : Type) where
  | infinity
  | finite (x y : F)
deriving DecidableEq

/-- A point by a projective triple. -/
structure ProjectivePoint (F : Type) where
  x : F
  y : F
  z : F

variable {F : Type} [Add F] [Sub F] [Mul F] [OfNat F 0] [OfNat F 1] [DecidableEq F]

namespace ProjectivePoint

def infinity : ProjectivePoint F := ⟨1, 1, 0⟩

def isInfinity (p : ProjectivePoint F) : Bool := p.z = 0

def ofPoint : Point F → ProjectivePoint F
  | .infinity => infinity
  | .finite x y => ⟨x, y, 1⟩

/-- The point that a triple stands for. -/
def toPoint [Inv F] (p : ProjectivePoint F) : Point F :=
  if p.isInfinity then .infinity
  else
    let i := p.z⁻¹
    .finite (p.x * (i * i)) (p.y * (i * i * i))

def double (p : ProjectivePoint F) : ProjectivePoint F :=
  let b := p.y * p.y
  let d := p.x * b
  let d := d + d + d + d
  let e := p.x * p.x
  let e := e + e + e
  let f := e * e - (d + d)
  let c := b * b
  let c := c + c + c + c
  let z := p.y * p.z
  ⟨f, e * (d - f) - (c + c), z + z⟩

/-- The sum, by the tangent if the points are equal. -/
def add (p q : ProjectivePoint F) : ProjectivePoint F :=
  if p.isInfinity then q
  else if q.isInfinity then p
  else
    let zp := p.z * p.z
    let zq := q.z * q.z
    let xp := p.x * zq
    let h := q.x * zp - xp
    let yp := p.y * (zq * q.z)
    let r := q.y * (zp * p.z) - yp
    if h = 0 then if r = 0 then p.double else infinity
    else
      let hh := h * h
      let v := xp * hh
      let x := r * r - hh * h - (v + v)
      ⟨x, r * (v - x) - yp * (hh * h), h * (p.z * q.z)⟩

/-- The product with a number, by doubling over its bits from the top. -/
def mul (n : Nat) (p : ProjectivePoint F) : ProjectivePoint F :=
  (List.range (n.log2 + 1)).foldr (fun i q => if n.testBit i then q.double.add p else q.double) infinity

end ProjectivePoint

namespace Point

def isInfinity : Point F → Bool
  | infinity => true
  | finite _ _ => false

/-- Whether a point is on the curve with the constant `b`. -/
def onCurve (b : F) : Point F → Bool
  | infinity => true
  | finite x y => y * y = x * x * x + b

/-- Whether the product of a point with a number is at infinity. -/
def hasOrder (n : Nat) (p : Point F) : Bool := ((ProjectivePoint.ofPoint p).mul n).isInfinity

/-- A linear combination of points. -/
def combine [Inv F] (terms : List (Nat × Point F)) : Point F :=
  let sum := terms.foldl (fun (acc : ProjectivePoint F) t => acc.add ((ProjectivePoint.ofPoint t.2).mul t.1))
    ProjectivePoint.infinity
  sum.toPoint

end Point

end ShieldedPool
