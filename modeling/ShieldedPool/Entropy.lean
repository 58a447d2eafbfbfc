import ShieldedPool.Bytes

/-!
# Randomness

Secrets are drawn from an endless stream of bytes, front to back. A computation that draws is a state transformer on the
stream, so what it took, and in which order, is part of its result.
-/

namespace ShieldedPool

/-- An endless stream of bytes and how many of them have been taken. -/
structure Entropy where
  byteAt : Nat → UInt8
  taken : Nat := 0

/-- A computation that may draw random bytes, one that is given a `csprng`. -/
abbrev Draw := StateM Entropy

namespace Entropy

/-- The stream that repeats a list of bytes for ever, or zeros if there are none. -/
def cycle (l : List UInt8) : Entropy :=
  let bytes := l.toArray
  { byteAt := fun i => bytes.getD (i % bytes.size) 0 }

/-- The bytes `start, …, start + n - 1` of the stream. -/
def slice (e : Entropy) (start n : Nat) : Bytes n := Vector.ofFn fun i => e.byteAt (start + i.val)

end Entropy

/-- Takes the next `n` bytes (`fill_bytes`). -/
def drawBytes (n : Nat) : Draw (Bytes n) := fun e => (e.slice e.taken n, { e with taken := e.taken + n })

end ShieldedPool
