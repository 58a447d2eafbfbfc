import ShieldedPool.Bytes

/-!
# BLAKE2b

The hash with a chosen output length, an optional key and a 16-byte personalization. The three are mixed into the initial
state, so changing any of them gives an unrelated function; a key is also absorbed as a first block of its own.
-/

namespace ShieldedPool.Blake2b

/-- What fixes one function of the family (`blake2b_simd::Params`): its key, empty for none and at most 64 bytes, and its
personalization. -/
structure Params where
  key : List UInt8 := []
  personal : Bytes 16

def initial : Vector UInt64 8 :=
  #v[0x6a09e667f3bcc908, 0xbb67ae8584caa73b, 0x3c6ef372fe94f82b, 0xa54ff53a5f1d36f1,
     0x510e527fade682d1, 0x9b05688c2b3e6c1f, 0x1f83d9abfb41bd6b, 0x5be0cd19137e2179]

/-- The order in which each of the twelve rounds takes the message words. -/
def schedule : List (List Nat) :=
  [[0, 1, 2, 3, 4, 5, 6, 7, 8, 9, 10, 11, 12, 13, 14, 15],
   [14, 10, 4, 8, 9, 15, 13, 6, 1, 12, 0, 2, 11, 7, 5, 3],
   [11, 8, 12, 0, 5, 2, 15, 13, 10, 14, 3, 6, 7, 1, 9, 4],
   [7, 9, 3, 1, 13, 12, 11, 14, 2, 6, 5, 10, 4, 0, 15, 8],
   [9, 0, 5, 7, 2, 4, 10, 15, 14, 1, 11, 12, 6, 8, 3, 13],
   [2, 12, 6, 10, 0, 11, 8, 3, 4, 13, 7, 5, 15, 14, 1, 9],
   [12, 5, 1, 15, 14, 13, 4, 10, 0, 7, 6, 3, 9, 2, 8, 11],
   [13, 11, 7, 14, 12, 1, 3, 9, 5, 0, 15, 4, 8, 6, 2, 10],
   [6, 15, 14, 9, 11, 3, 0, 8, 12, 2, 13, 7, 1, 4, 10, 5],
   [10, 2, 8, 4, 7, 6, 1, 5, 15, 11, 9, 14, 3, 12, 13, 0],
   [0, 1, 2, 3, 4, 5, 6, 7, 8, 9, 10, 11, 12, 13, 14, 15],
   [14, 10, 4, 8, 9, 15, 13, 6, 1, 12, 0, 2, 11, 7, 5, 3]]

def rotr (x n : UInt64) : UInt64 := (x >>> n) ||| (x <<< (64 - n))

/-- Word `i` of a byte string, least significant byte first. -/
def word {n : Nat} (b : Bytes n) (i : Nat) : UInt64 :=
  UInt64.ofNat (Bytes.toNat (Bytes.ofPadded 8 (b.toList.drop (8 * i))))

/-! ## Compression -/

/-- Mixes the words at four indices of the working state with two message words. -/
def mix (v : Vector UInt64 16) (a b c d : Nat) (x y : UInt64) : Vector UInt64 16 :=
  let va := v.getD a 0 + v.getD b 0 + x
  let vd := rotr (v.getD d 0 ^^^ va) 32
  let vc := v.getD c 0 + vd
  let vb := rotr (v.getD b 0 ^^^ vc) 24
  let va := va + vb + y
  let vd := rotr (vd ^^^ va) 16
  let vc := vc + vd
  let vb := rotr (vb ^^^ vc) 63
  (((v.setIfInBounds a va).setIfInBounds b vb).setIfInBounds c vc).setIfInBounds d vd

/-- The indices that are mixed: four columns, then four diagonals. -/
def lanes : List (Nat × Nat × Nat × Nat) :=
  [(0, 4, 8, 12), (1, 5, 9, 13), (2, 6, 10, 14), (3, 7, 11, 15),
   (0, 5, 10, 15), (1, 6, 11, 12), (2, 7, 8, 13), (3, 4, 9, 14)]

/-- Mixes the remaining lanes of a round with the remaining message words, two for each lane. -/
def mixAll (m : Vector UInt64 16) (v : Vector UInt64 16) :
    List (Nat × Nat × Nat × Nat) → List Nat → Vector UInt64 16
  | (a, b, c, d) :: lanes, x :: y :: order => mixAll m (mix v a b c d (m.getD x 0) (m.getD y 0)) lanes order
  | _, _ => v

/-- One round, which takes the message words in a given order. -/
def round (m : Vector UInt64 16) (v : Vector UInt64 16) (order : List Nat) : Vector UInt64 16 :=
  mixAll m v lanes order

/-- Absorbs a block; `total` counts the bytes so far, this block's included, and `last` marks the final one. -/
def compress (h : Vector UInt64 8) (block : Bytes 128) (total : Nat) (last : Bool) : Vector UInt64 8 :=
  let m : Vector UInt64 16 := Vector.ofFn fun i => word block i
  let v : Vector UInt64 16 := h ++ initial
  let v := v.setIfInBounds 12 (v.getD 12 0 ^^^ UInt64.ofNat total)
  let v := if last then v.setIfInBounds 14 (~~~v.getD 14 0) else v
  let v := schedule.foldl (round m) v
  Vector.ofFn fun i => h.get i ^^^ v.getD i.val 0 ^^^ v.getD (i.val + 8) 0

/-! ## The hash -/

/-- The initial state with output length, key length and personalization mixed in. -/
def Params.state (p : Params) (length : Nat) : Vector UInt64 8 :=
  let h := initial.setIfInBounds 0 (initial.getD 0 0 ^^^ UInt64.ofNat (0x01010000 + 256 * p.key.length + length))
  let h := h.setIfInBounds 6 (h.getD 6 0 ^^^ word p.personal 0)
  h.setIfInBounds 7 (h.getD 7 0 ^^^ word p.personal 1)

/-- The bytes that are absorbed: a key comes first, filled up with zeros to a block. -/
def Params.input (p : Params) (message : List UInt8) : List UInt8 :=
  if p.key.isEmpty then message else (Bytes.ofPadded 128 p.key).toList ++ message

/-- Absorbs `n` full blocks and then the rest as the last one. -/
def absorb (h : Vector UInt64 8) (taken : Nat) : Nat → List UInt8 → Vector UInt64 8
  | 0, l => compress h (Bytes.ofPadded 128 l) (taken + l.length) true
  | n + 1, l => absorb (compress h (Bytes.ofPadded 128 l) (taken + 128) false) (taken + 128) n (l.drop 128)

/-- The `length`-byte hash of a message, for lengths up to 64. -/
@[irreducible]
def hash (p : Params) (length : Nat) (message : List UInt8) : Bytes length :=
  let input := p.input message
  let h := absorb (p.state length) 0 ((input.length - 1) / 128) input
  Bytes.ofPadded length (h.flatMap fun w => Bytes.ofNat 8 w.toNat).toList

end ShieldedPool.Blake2b
