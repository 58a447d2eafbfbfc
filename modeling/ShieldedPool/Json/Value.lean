import ShieldedPool.Bytes

/-!
# JSON values

The JSON form in which records are stored: numbers are not negative and whole, byte strings are arrays of numbers, and the
members of an object are in the order of the record's fields.
-/

namespace ShieldedPool

inductive Json
  | null
  | bool (b : Bool)
  | number (n : Nat)
  | string (s : String)
  | array (items : List Json)
  | object (members : List (String × Json))

/-- A byte string as an array of numbers. -/
def Json.bytes {n : Nat} (b : Bytes n) : Json := .array (b.toList.map fun x => .number x.toNat)

end ShieldedPool
