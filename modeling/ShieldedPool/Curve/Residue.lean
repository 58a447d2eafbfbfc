/-!
# Residues

Arithmetic modulo a number, on least representatives. Modulo a prime this is a field, in which inverses and square roots are
powers.
-/

namespace ShieldedPool

/-- The value of `x ^ e`, by squaring over the bits of the exponent from the top. -/
def power {α : Type} [Mul α] (one x : α) (e : Nat) : α :=
  (List.range (e.log2 + 1)).foldr (fun i acc => if e.testBit i then acc * acc * x else acc * acc) one

/-- An integer modulo `m`. -/
structure Residue (m : Nat) where
  value : Nat
  value_mod : value % m = value
deriving DecidableEq

namespace Residue

variable {m : Nat}

/-- The residue of a number. -/
def ofNat (m n : Nat) : Residue m := ⟨n % m, Nat.mod_mod n m⟩

@[simp] theorem ofNat_value (x : Residue m) : ofNat m x.value = x := by
  cases x with
  | mk value h => simp [ofNat, h]

instance {n : Nat} : OfNat (Residue m) n := ⟨ofNat m n⟩

instance : Inhabited (Residue m) := ⟨0⟩

def add (x y : Residue m) : Residue m := ofNat m (x.value + y.value)

def neg (x : Residue m) : Residue m := ofNat m (m - x.value)

def sub (x y : Residue m) : Residue m := ofNat m (x.value + (m - y.value))

def mul (x y : Residue m) : Residue m := ofNat m (x.value * y.value)

instance : Add (Residue m) := ⟨add⟩

instance : Neg (Residue m) := ⟨neg⟩

instance : Sub (Residue m) := ⟨sub⟩

instance : Mul (Residue m) := ⟨mul⟩

/-- The inverse modulo a prime; zero for zero. -/
def inv (x : Residue m) : Residue m := power 1 x (m - 2)

instance : Inv (Residue m) := ⟨inv⟩

/-- The number, if it is a least representative. -/
def ofNat? (m n : Nat) : Option (Residue m) :=
  if n < m then some (ofNat m n) else none

/-- A square root modulo a prime that leaves the remainder 3 on division by 4, if there is one. -/
def sqrt? (x : Residue m) : Option (Residue m) :=
  let r := power 1 x ((m + 1) / 4)
  if r * r = x then some r else none

end Residue

end ShieldedPool
