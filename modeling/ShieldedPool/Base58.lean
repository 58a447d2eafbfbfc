import ShieldedPool.Hash.Sha256

/-!
# Base58Check

A byte string is read as a number, most significant byte first, and written in base 58 with an alphabet that leaves out
look-alike characters. Each leading zero byte is written as the zero digit `1`. Base58Check adds a four-byte checksum, the
start of a double SHA-256.
-/

namespace ShieldedPool.Base58

def alphabet : List Char := "123456789ABCDEFGHJKLMNPQRSTUVWXYZabcdefghijkmnopqrstuvwxyz".toList

/-- The digits of a number, most significant first and without leading zeros. -/
def digits (base n : Nat) : List Nat :=
  if _h : n = 0 ∨ base < 2 then [] else digits base (n / base) ++ [n % base]
termination_by n
decreasing_by exact Nat.div_lt_self (by omega) (by omega)

/-- The number with the given digits, most significant first. -/
def ofDigits (base : Nat) (l : List Nat) : Nat := l.foldl (fun n d => base * n + d) 0

/-- The text of a byte string, without a checksum (`bs58::encode`). -/
def encode (l : List UInt8) : List Char :=
  (l.takeWhile (· == 0)).map (fun _ => '1')
    ++ (digits 58 (Bytes.toNatBE l)).map fun d => alphabet.getD d '1'

/-- The digit that a character stands for. -/
def digit? (c : Char) : Option Nat := alphabet.idxOf? c

/-- Reads a text back, if it has no character outside the alphabet (`bs58::decode`). -/
def decode? (text : List Char) : Option (List UInt8) := do
  let ds ← text.mapM digit?
  return (ds.takeWhile (· == 0)).map (fun _ => 0) ++ (digits 256 (ofDigits 58 ds)).map UInt8.ofNat

/-! ## With a checksum -/

def checksum (payload : List UInt8) : List UInt8 :=
  (Sha256.hash (Sha256.hash payload).toList).toList.take 4

/-- The text with a checksum (`bs58::encode` then `with_check`). -/
def encodeCheck (payload : List UInt8) : String := String.ofList (encode (payload ++ checksum payload))

/-- The payload of a text whose last four bytes are its checksum (`bs58::decode` then `with_check`). -/
def decodeCheck? (text : String) : Option (List UInt8) := do
  let l ← decode? text.toList
  let payload := l.take (l.length - 4)
  if 4 ≤ l.length ∧ l.drop (l.length - 4) = checksum payload then some payload else none

end ShieldedPool.Base58
