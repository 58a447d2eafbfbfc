import ShieldedPool.Bytes

/-!
# SHA-256

`compress` is the bare compression function applied to one block from the standard initial value, without padding: the
pseudorandom functions and the commitment tree hash exactly two 32-byte strings with it. `hash` is the full function with
length padding.
-/

namespace ShieldedPool.Sha256

/-- The eight working words. -/
structure State where
  a : UInt32
  b : UInt32
  c : UInt32
  d : UInt32
  e : UInt32
  f : UInt32
  g : UInt32
  h : UInt32
deriving DecidableEq

def initial : State :=
  ⟨0x6a09e667, 0xbb67ae85, 0x3c6ef372, 0xa54ff53a, 0x510e527f, 0x9b05688c, 0x1f83d9ab, 0x5be0cd19⟩

def roundConstants : List UInt32 :=
  [0x428a2f98, 0x71374491, 0xb5c0fbcf, 0xe9b5dba5, 0x3956c25b, 0x59f111f1, 0x923f82a4, 0xab1c5ed5,
   0xd807aa98, 0x12835b01, 0x243185be, 0x550c7dc3, 0x72be5d74, 0x80deb1fe, 0x9bdc06a7, 0xc19bf174,
   0xe49b69c1, 0xefbe4786, 0x0fc19dc6, 0x240ca1cc, 0x2de92c6f, 0x4a7484aa, 0x5cb0a9dc, 0x76f988da,
   0x983e5152, 0xa831c66d, 0xb00327c8, 0xbf597fc7, 0xc6e00bf3, 0xd5a79147, 0x06ca6351, 0x14292967,
   0x27b70a85, 0x2e1b2138, 0x4d2c6dfc, 0x53380d13, 0x650a7354, 0x766a0abb, 0x81c2c92e, 0x92722c85,
   0xa2bfe8a1, 0xa81a664b, 0xc24b8b70, 0xc76c51a3, 0xd192e819, 0xd6990624, 0xf40e3585, 0x106aa070,
   0x19a4c116, 0x1e376c08, 0x2748774c, 0x34b0bcb5, 0x391c0cb3, 0x4ed8aa4a, 0x5b9cca4f, 0x682e6ff3,
   0x748f82ee, 0x78a5636f, 0x84c87814, 0x8cc70208, 0x90befffa, 0xa4506ceb, 0xbef9a3f7, 0xc67178f2]

def rotr (x n : UInt32) : UInt32 := (x >>> n) ||| (x <<< (32 - n))

/-! ## The message schedule -/

/-- Sixteen consecutive words of the message schedule, oldest first. -/
abbrev Window := Vector UInt32 16

/-- The block as sixteen words, most significant byte first. -/
def Window.ofBlock (block : Bytes 64) : Window :=
  Vector.ofFn fun i =>
    block[4 * i.val].toUInt32 <<< 24 ||| block[4 * i.val + 1].toUInt32 <<< 16 |||
      block[4 * i.val + 2].toUInt32 <<< 8 ||| block[4 * i.val + 3].toUInt32

/-- Drops the oldest word and appends the one that follows the window. -/
def Window.slide (w : Window) : Window :=
  let s0 := rotr w[1] 7 ^^^ rotr w[1] 18 ^^^ w[1] >>> 3
  let s1 := rotr w[14] 17 ^^^ rotr w[14] 19 ^^^ w[14] >>> 10
  w.tail.push (w[0] + s0 + w[9] + s1)

/-! ## Rounds -/

def State.round (s : State) (k w : UInt32) : State :=
  let s1 := rotr s.e 6 ^^^ rotr s.e 11 ^^^ rotr s.e 25
  let ch := (s.e &&& s.f) ^^^ (~~~s.e &&& s.g)
  let t1 := s.h + s1 + ch + k + w
  let s0 := rotr s.a 2 ^^^ rotr s.a 13 ^^^ rotr s.a 22
  let maj := (s.a &&& s.b) ^^^ (s.a &&& s.c) ^^^ (s.b &&& s.c)
  ⟨t1 + (s0 + maj), s.a, s.b, s.c, s.d + t1, s.e, s.f, s.g⟩

instance : Add State where
  add s t := ⟨s.a + t.a, s.b + t.b, s.c + t.c, s.d + t.d, s.e + t.e, s.f + t.f, s.g + t.g, s.h + t.h⟩

/-- Absorbs one block: round `i` takes the head of the window after `i` slides, and the result is added to the input. -/
def State.absorb (s : State) (block : Bytes 64) : State :=
  s + (roundConstants.foldl (fun (t, w) k => (t.round k w[0], w.slide)) (s, Window.ofBlock block)).1

/-- The words written out, each most significant byte first. -/
def State.toBytes (s : State) : Bytes 32 :=
  #v[s.a, s.b, s.c, s.d, s.e, s.f, s.g, s.h].flatMap fun w => Bytes.ofNatBE 4 w.toNat

/-- The compression function on one block, from the standard initial value and with no padding (`sha256_compress`). -/
@[irreducible]
def compress (block : Bytes 64) : Bytes 32 := (initial.absorb block).toBytes

/-! ## The padded hash -/

/-- The message, a one bit, zeros up to 8 bytes before a block boundary, and the length in bits. -/
def pad (message : List UInt8) : List UInt8 :=
  message ++ 0x80 :: List.replicate ((119 - message.length % 64) % 64) 0
    ++ (Bytes.ofNatBE 8 (8 * message.length)).toList

/-- Absorbs the first `n` blocks of a padded message. -/
def State.absorbBlocks (s : State) : Nat → List UInt8 → State
  | 0, _ => s
  | n + 1, l => (s.absorb (Bytes.ofPadded 64 l)).absorbBlocks n (l.drop 64)

/-- The hash of a message of any length (`Sha256`). -/
@[irreducible]
def hash (message : List UInt8) : Bytes 32 :=
  (initial.absorbBlocks ((pad message).length / 64) (pad message)).toBytes

end ShieldedPool.Sha256
