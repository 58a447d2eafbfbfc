import ShieldedPool.Bytes
import ShieldedPool.Curve.Residue
import ShieldedPool.Diagnostic

/-!
# X25519 key agreement

Secrets and public keys are 32-byte strings. A secret is clamped whenever it is used, not when it is stored. Of a public key
only the field element it encodes matters for the agreement: the top bit is ignored and the rest is taken modulo
`2 ^ 255 - 19`, so some points have several encodings.
-/

namespace ShieldedPool.X25519

def prime : Nat := (1 <<< 255) - 19

/-- The field that coordinates live in. -/
abbrev Field := Residue prime

/-- The `u` coordinate that a public key encodes. -/
def coordinate (key : Bytes 32) : Field := .ofNat prime (key.toNat % (1 <<< 255))

/-- Clears the low three bits and the top bit, and sets the bit below the top (`clamp_curve25519`). -/
def clamp (secret : Bytes 32) : Bytes 32 :=
  (secret.modify 0 (· &&& 248)).modify 31 (· &&& 127 ||| 64)

theorem clamp_clamp (secret : Bytes 32) : clamp (clamp secret) = clamp secret := by
  have h0 (x : UInt8) : x &&& 248 &&& 248 = x &&& 248 := by rw [UInt8.and_assoc]; rfl
  have h31 (x : UInt8) : (x &&& 127 ||| 64) &&& 127 ||| 64 = x &&& 127 ||| 64 := by
    apply UInt8.toBitVec_inj.1
    simp only [UInt8.toBitVec_or, UInt8.toBitVec_and]
    generalize x.toBitVec = y
    revert y
    decide
  ext i hi
  by_cases hl : i = 31
  · simp [clamp, hl, h31]
  · by_cases hf : i = 0 <;> simp [clamp, hl, hf, h0]

/-! ## The Montgomery ladder -/

/-- A point by a projective coordinate pair. -/
structure Point where
  x : Field
  z : Field

/-- The double of a point. -/
def Point.double (p : Point) : Point :=
  let s := (p.x + p.z) * (p.x + p.z)
  let d := (p.x - p.z) * (p.x - p.z)
  let e := s - d
  ⟨s * d, e * (s + 121665 * e)⟩

/-- The sum of two points whose difference has the affine coordinate `u`. -/
def Point.add (u : Field) (p q : Point) : Point :=
  let a := (q.x - q.z) * (p.x + p.z)
  let b := (q.x + q.z) * (p.x - p.z)
  ⟨(a + b) * (a + b), u * ((a - b) * (a - b))⟩

/-- One bit of the ladder: keeps two neighbouring multiples of the point. -/
def ladderStep (u : Field) (bit : Bool) (r : Point × Point) : Point × Point :=
  if bit then (r.1.add u r.2, r.2.double) else (r.1.double, r.1.add u r.2)

/-- The product of a clamped secret and a public key. -/
@[irreducible]
def scalarMult (secret key : Bytes 32) : Bytes 32 :=
  let k := (clamp secret).toNat
  let u := coordinate key
  let r := (List.range 255).foldr (fun i r => ladderStep u (k.testBit i) r) (⟨1, 0⟩, ⟨u, 1⟩)
  Bytes.ofNat 32 (r.1.x * r.1.z⁻¹).value

def basePoint : Bytes 32 := Bytes.ofNat 32 9

/-! ## Public keys -/

/-- A public key (`x25519::PublicKey`). Any 32 bytes are one, and they are kept as they are. -/
structure PublicKey where
  bytes : Bytes 32

/-- Public keys are compared by the field element they encode, not byte by byte. -/
instance : BEq PublicKey := ⟨fun a b => coordinate a.bytes == coordinate b.bytes⟩

/-- The public key of a secret (`PublicKey::from` a `StaticSecret`). -/
def publicKey (secret : Bytes 32) : PublicKey := ⟨scalarMult secret basePoint⟩

/-- What the holder of a secret and the holder of a public key's secret both can compute (`diffie_hellman`). -/
def agree (secret : Bytes 32) (key : PublicKey) : Bytes 32 := scalarMult secret key.bytes

def PublicKey.diagnostic (k : PublicKey) : Diagnostic :=
  .tuple "PublicKey" [.tuple "MontgomeryPoint" [.byteList k.bytes.toList]]

end ShieldedPool.X25519
