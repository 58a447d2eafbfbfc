import ShieldedPool.Bytes

/-!
# The ChaCha20 stream cipher

A 32-byte key, a 12-byte nonce and a 32-bit block counter give 64 bytes of keystream. Encryption adds the keystream bit by
bit, so applying it twice gives the text back.
-/

namespace ShieldedPool.ChaCha20

def rotl (x n : UInt32) : UInt32 := (x <<< n) ||| (x >>> (32 - n))

def quarterRound (v : Vector UInt32 16) (a b c d : Fin 16) : Vector UInt32 16 :=
  let va := v[a] + v[b]
  let vd := rotl (v[d] ^^^ va) 16
  let vc := v[c] + vd
  let vb := rotl (v[b] ^^^ vc) 12
  let va := va + vb
  let vd := rotl (vd ^^^ va) 8
  let vc := vc + vd
  let vb := rotl (vb ^^^ vc) 7
  (((v.set a va).set b vb).set c vc).set d vd

/-- A round on the columns and one on the diagonals. -/
def doubleRound (v : Vector UInt32 16) : Vector UInt32 16 :=
  let v := quarterRound v 0 4 8 12
  let v := quarterRound v 1 5 9 13
  let v := quarterRound v 2 6 10 14
  let v := quarterRound v 3 7 11 15
  let v := quarterRound v 0 5 10 15
  let v := quarterRound v 1 6 11 12
  let v := quarterRound v 2 7 8 13
  quarterRound v 3 4 9 14

/-- Word `i` of a byte string, least significant byte first. -/
def word {n : Nat} (b : Bytes n) (i : Nat) : UInt32 :=
  UInt32.ofNat (Bytes.toNat (Bytes.ofPadded 4 (b.toList.drop (4 * i))))

/-- The sixteen words a block starts from: four constants, the key, the counter and the nonce. -/
def start (key : Bytes 32) (nonce : Bytes 12) (counter : UInt32) : Vector UInt32 16 :=
  let constants : Vector UInt32 4 := #v[0x61707865, 0x3320646e, 0x79622d32, 0x6b206574]
  let keyWords : Vector UInt32 8 := Vector.ofFn fun i => word key i
  let nonceWords : Vector UInt32 3 := Vector.ofFn fun i => word nonce i
  constants ++ keyWords ++ #v[counter] ++ nonceWords

/-- One block of keystream. -/
def block (key : Bytes 32) (nonce : Bytes 12) (counter : UInt32) : Bytes 64 :=
  let v := start key nonce counter
  let w := Nat.repeat doubleRound 10 v
  (Vector.zipWith (· + ·) v w).flatMap fun x => Bytes.ofNat 4 x.toNat

/-- The first `n` bytes of keystream from a counter on. -/
@[irreducible]
def keystream (key : Bytes 32) (nonce : Bytes 12) (counter : UInt32) (n : Nat) : Bytes n :=
  Bytes.ofPadded n <|
    (List.range ((n + 63) / 64)).flatMap fun i => (block key nonce (counter + UInt32.ofNat i)).toList

/-- Encrypts, and just as well decrypts, with the keystream from a counter on. -/
def apply {n : Nat} (key : Bytes 32) (nonce : Bytes 12) (counter : UInt32) (text : Bytes n) : Bytes n :=
  Vector.zipWith (· ^^^ ·) text (keystream key nonce counter n)

theorem apply_apply {n : Nat} (key : Bytes 32) (nonce : Bytes 12) (counter : UInt32) (text : Bytes n) :
    apply key nonce counter (apply key nonce counter text) = text := by
  ext i hi
  rw [apply, apply, Vector.getElem_zipWith, Vector.getElem_zipWith, UInt8.xor_assoc, UInt8.xor_self, UInt8.xor_zero]

end ShieldedPool.ChaCha20
