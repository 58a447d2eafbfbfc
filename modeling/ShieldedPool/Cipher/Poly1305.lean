import ShieldedPool.Bytes

/-!
# The Poly1305 authenticator

The message is cut into 16-byte chunks, each read as a number with a one byte above it. The tag is the polynomial with these
coefficients, evaluated modulo `2 ^ 130 - 5` at a clamped secret point, plus a secret pad.
-/

namespace ShieldedPool.Poly1305

def prime : Nat := (1 <<< 130) - 5

/-- The bits of the evaluation point that a key may set. -/
def clampMask : Nat := 0x0ffffffc0ffffffc0ffffffc0fffffff

/-- One step of the evaluation: adds a chunk and multiplies by the point. -/
def step (r acc : Nat) (chunk : List UInt8) : Nat :=
  (acc + chunk.foldr (fun x n => x.toNat + 256 * n) 1) * r % prime

/-- Takes `n` chunks from the front of the message; the last may be short. -/
def evaluate (r : Nat) : Nat → Nat → List UInt8 → Nat
  | 0, acc, _ => acc
  | n + 1, acc, l => evaluate r n (step r acc (l.take 16)) (l.drop 16)

/-- The tag of a message under a one-time key. -/
@[irreducible]
def tag (key : Bytes 32) (message : List UInt8) : Bytes 16 :=
  let r := Bytes.toNat (Bytes.split (m := 16) (n := 16) key).1 &&& clampMask
  let s := Bytes.toNat (Bytes.split (m := 16) (n := 16) key).2
  Bytes.ofNat 16 (evaluate r ((message.length + 15) / 16) 0 message + s)

end ShieldedPool.Poly1305
