/-!
# Byte strings

A width that a format fixes is in the type: `Bytes n` holds exactly `n` bytes. Encodings and hash inputs whose length
varies are `List UInt8`. Both integer orders are written most and least significant byte first by the definitions below.
-/

namespace ShieldedPool

/-- A string of exactly `n` bytes. -/
abbrev Bytes (n : Nat) := Vector UInt8 n

namespace Bytes

def zero (n : Nat) : Bytes n := Vector.replicate n 0

/-- The first `n` bytes of a list that has them. -/
def ofPrefix {n : Nat} (l : List UInt8) (h : n ≤ l.length) : Bytes n :=
  ⟨(l.take n).toArray, by simp [h]⟩

/-- The first `n` bytes of a list, with zeros where it ends early. -/
def ofPadded (n : Nat) (l : List UInt8) : Bytes n :=
  ⟨((l.rightpad n 0).take n).toArray, by simp; omega⟩

/-- The list as a fixed-width string, if it has that width. -/
def ofList? (n : Nat) (l : List UInt8) : Option (Bytes n) :=
  if h : l.length = n then some ⟨l.toArray, by simp [h]⟩ else none

theorem toList_ofPrefix {n : Nat} (l : List UInt8) (h : n ≤ l.length) : (ofPrefix l h).toList = l.take n := by
  simp [ofPrefix, Vector.toList]

theorem ofList?_toList {n : Nat} (b : Bytes n) : ofList? n b.toList = some b := by
  simp [ofList?, Vector.toList]

/-- Changes the byte at one index. -/
def modify {n : Nat} (b : Bytes n) (i : Nat) (f : UInt8 → UInt8) : Bytes n :=
  b.mapIdx fun j x => if j = i then f x else x

@[simp] theorem getElem_modify {n : Nat} (b : Bytes n) (i : Nat) (f : UInt8 → UInt8) (j : Nat) (h : j < n) :
    (b.modify i f)[j] = if j = i then f b[j] else b[j] := by
  simp [modify]

/-- Cuts a string after its first `m` bytes. -/
def split {m n : Nat} (b : Bytes (m + n)) : Bytes m × Bytes n :=
  (Vector.ofFn fun i => b[i.val], Vector.ofFn fun i => b[m + i.val])

@[simp] theorem split_append {m n : Nat} (a : Bytes m) (b : Bytes n) : split (a ++ b) = (a, b) := by
  simp only [split, Prod.mk.injEq]
  constructor <;> ext i hi <;> simp

theorem append_split {m n : Nat} (b : Bytes (m + n)) : b.split.1 ++ b.split.2 = b := by
  ext i hi
  simp only [split, Vector.getElem_append, Vector.getElem_ofFn]
  by_cases h : i < m
  · simp [h]
  · simp only [h, dite_false]
    have e : m + (i - m) = i := by omega
    simp only [e]

/-- Two strings written one after the other can be told apart again when the first has a fixed width. -/
theorem toList_append_inj {n : Nat} {a b : Bytes n} {s t : List UInt8} :
    a.toList ++ s = b.toList ++ t ↔ a = b ∧ s = t := by
  constructor
  · intro h
    have h' := List.append_inj h (by simp)
    exact ⟨Vector.toList_inj.1 h'.1, h'.2⟩
  · rintro ⟨rfl, rfl⟩; rfl

/-! ## Integers -/

/-- The number whose least significant byte comes first. -/
def toNat {n : Nat} (b : Bytes n) : Nat := b.toList.foldr (fun x acc => x.toNat + 256 * acc) 0

/-- The `n` low bytes of a number, least significant first. -/
def ofNat (n value : Nat) : Bytes n := Vector.ofFn fun i => UInt8.ofNat (value >>> (8 * i.val))

/-- The number whose most significant byte comes first. -/
def toNatBE (l : List UInt8) : Nat := l.foldl (fun acc x => 256 * acc + x.toNat) 0

/-- The `n` low bytes of a number, most significant first. -/
def ofNatBE (n value : Nat) : Bytes n := Vector.ofFn fun i => UInt8.ofNat (value >>> (8 * (n - 1 - i.val)))

/-! ## Text -/

def hexDigit (n : Nat) : Char := if n < 10 then Char.ofNat (48 + n) else Char.ofNat (87 + n)

/-- Two lower-case digits for each byte, in memory order. -/
def hex (l : List UInt8) : String :=
  String.ofList (l.flatMap fun b => [hexDigit (b.toNat / 16), hexDigit (b.toNat % 16)])

end Bytes

end ShieldedPool
