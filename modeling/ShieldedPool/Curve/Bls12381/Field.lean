import ShieldedPool.Curve.Residue

/-!
# The fields of BLS12-381

Coordinates of the first group are residues modulo a 381-bit prime; those of the second lie in the quadratic extension by a
root `u` of `-1`. The pairing takes values in a tower above that: a cubic extension by a root `v` of `1 + u`, and a quadratic
one by a root `w` of `v`.
-/

namespace ShieldedPool.Bls12381

/-- The characteristic of the fields. -/
def prime : Nat :=
  0x1a0111ea397fe69a4b1ba7b6434bacd764774b84f38512bf6730d2a0f6b0f6241eabfffeb153ffffb9feffffffffaaab

/-- The order of the groups. -/
def order : Nat := 0x73eda753299d7d483339d80809a1d80553bda402fffe5bfeffffffff00000001

abbrev Fp := Residue prime

/-- A multiplier of points. -/
abbrev Scalar := Residue order

/-- An element is larger than its negative if it is in the upper half of the least representatives. -/
def isLarger (x : Fp) : Bool := (prime - 1) / 2 < x.value

/-! ## The quadratic extension -/

/-- The number `re + im * u`. -/
structure Fp2 where
  re : Fp
  im : Fp
deriving DecidableEq

namespace Fp2

instance {n : Nat} : OfNat Fp2 n := ⟨⟨.ofNat prime n, 0⟩⟩

def add (x y : Fp2) : Fp2 := ⟨x.re + y.re, x.im + y.im⟩

def neg (x : Fp2) : Fp2 := ⟨-x.re, -x.im⟩

def sub (x y : Fp2) : Fp2 := ⟨x.re - y.re, x.im - y.im⟩

instance : Add Fp2 := ⟨add⟩

instance : Neg Fp2 := ⟨neg⟩

instance : Sub Fp2 := ⟨sub⟩

def mul (x y : Fp2) : Fp2 := ⟨x.re * y.re - x.im * y.im, x.re * y.im + x.im * y.re⟩

instance : Mul Fp2 := ⟨mul⟩

/-- The inverse, by the norm; zero for zero. -/
def inv (x : Fp2) : Fp2 :=
  let n := (x.re * x.re + x.im * x.im)⁻¹
  ⟨x.re * n, -(x.im * n)⟩

instance : Inv Fp2 := ⟨inv⟩

/-- The product with `u`. -/
def mulU (x : Fp2) : Fp2 := ⟨-x.im, x.re⟩

/-- The product with `1 + u`. -/
def mulXi (x : Fp2) : Fp2 := ⟨x.re - x.im, x.re + x.im⟩

/-- The imaginary part decides, unless it is zero. -/
def isLarger (x : Fp2) : Bool :=
  Bls12381.isLarger x.im || (x.im = 0 && Bls12381.isLarger x.re)

/-- A square root, if there is one. The square of `s` is `x` times the factor `t * s`, whose norm is one; unless the factor is
`-1`, a power of its successor is a root of its inverse. -/
def sqrt? (x : Fp2) : Option Fp2 :=
  let t := power 1 x ((prime - 3) / 4)
  let s := t * x
  let r := if t * s = -1 then s.mulU else power 1 (1 + t * s) ((prime - 1) / 2) * s
  if r * r = x then some r else none

end Fp2

/-! ## The tower -/

/-- The number `c0 + c1 * v + c2 * v * v`. -/
structure Fp6 where
  c0 : Fp2
  c1 : Fp2
  c2 : Fp2
deriving DecidableEq

namespace Fp6

instance {n : Nat} : OfNat Fp6 n := ⟨⟨OfNat.ofNat n, 0, 0⟩⟩

instance : Add Fp6 := ⟨fun x y => ⟨x.c0 + y.c0, x.c1 + y.c1, x.c2 + y.c2⟩⟩

instance : Neg Fp6 := ⟨fun x => ⟨-x.c0, -x.c1, -x.c2⟩⟩

instance : Sub Fp6 := ⟨fun x y => ⟨x.c0 - y.c0, x.c1 - y.c1, x.c2 - y.c2⟩⟩

def mul (x y : Fp6) : Fp6 :=
  ⟨x.c0 * y.c0 + (x.c1 * y.c2 + x.c2 * y.c1).mulXi,
   x.c0 * y.c1 + x.c1 * y.c0 + (x.c2 * y.c2).mulXi,
   x.c0 * y.c2 + x.c1 * y.c1 + x.c2 * y.c0⟩

instance : Mul Fp6 := ⟨mul⟩

/-- The product with `v`. -/
def mulV (x : Fp6) : Fp6 := ⟨x.c2.mulXi, x.c0, x.c1⟩

/-- The inverse, by the norm; zero for zero. -/
def inv (x : Fp6) : Fp6 :=
  let a := x.c0 * x.c0 - (x.c1 * x.c2).mulXi
  let b := (x.c2 * x.c2).mulXi - x.c0 * x.c1
  let c := x.c1 * x.c1 - x.c0 * x.c2
  let n := (x.c0 * a + (x.c2 * b + x.c1 * c).mulXi)⁻¹
  ⟨a * n, b * n, c * n⟩

instance : Inv Fp6 := ⟨inv⟩

end Fp6

/-- The number `c0 + c1 * w`. -/
structure Fp12 where
  c0 : Fp6
  c1 : Fp6
deriving DecidableEq

namespace Fp12

instance {n : Nat} : OfNat Fp12 n := ⟨⟨OfNat.ofNat n, 0⟩⟩

def mul (x y : Fp12) : Fp12 := ⟨x.c0 * y.c0 + (x.c1 * y.c1).mulV, x.c0 * y.c1 + x.c1 * y.c0⟩

instance : Mul Fp12 := ⟨mul⟩

/-- The conjugate over the field below, which is also the power by the sixth power of the characteristic. -/
def conjugate (x : Fp12) : Fp12 := ⟨x.c0, -x.c1⟩

/-- The inverse, by the norm; zero for zero. -/
def inv (x : Fp12) : Fp12 :=
  let n := (x.c0 * x.c0 - (x.c1 * x.c1).mulV)⁻¹
  ⟨x.c0 * n, -(x.c1 * n)⟩

instance : Inv Fp12 := ⟨inv⟩

end Fp12

end ShieldedPool.Bls12381
