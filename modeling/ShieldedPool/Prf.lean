import ShieldedPool.Hash.Sha256

/-!
# Pseudorandom functions

All keyed functions of the pool (`prf_addr`, `prf_nf`, `prf_pk`, `prf_rho`) are one application of the SHA-256 compression
function to a 252-bit argument and a 256-bit argument. Each use puts a tag of its own into the four bits above the first
argument, so no two uses hash the same block.
-/

namespace ShieldedPool

/-- Tells the two inputs, or the two outputs, of a JoinSplit apart. -/
abbrev Index := Fin 2

def Index.first : Index := ⟨0, Nat.zero_lt_two⟩

def Index.second : Index := ⟨1, Nat.one_lt_two⟩

namespace Prf

/-- What a pseudorandom value is for: one of `prf_addr`, `prf_nf`, `prf_pk` and `prf_rho`. -/
inductive Use
  | address
  | nullifier
  | mac (index : Index)
  | rho (index : Index)
deriving DecidableEq

/-- The four bits that stand for a use (the `prefix` of `prf`). -/
def Use.tag : Use → UInt8
  | address => 0b1100
  | nullifier => 0b1110
  | mac index => UInt8.ofNat index <<< 2
  | rho index => UInt8.ofNat index <<< 2 ||| 0b0010

/-- Clears the four high bits of a string, which leaves 252 bits. -/
def mask252 (x : Bytes 32) : Bytes 32 := x.modify 0 (· &&& 0x0f)

/-- The block that `prf` compresses: the tag, the low 252 bits of `x`, and `y`. -/
def block (use : Use) (x y : Bytes 32) : Bytes 64 :=
  (mask252 x).modify 0 (· ||| use.tag <<< 4) ++ y

/-- The pseudorandom value for a use (`prf`). -/
def eval (use : Use) (x y : Bytes 32) : Bytes 32 := Sha256.compress (block use x y)

/-- The second argument of an address derivation (`prf_addr`): a selector byte and zeros. -/
def selector (t : UInt8) : Bytes 32 := (Bytes.zero 32).modify 0 fun _ => t

end Prf

end ShieldedPool
