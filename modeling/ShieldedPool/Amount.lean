import ShieldedPool.Bytes
import ShieldedPool.Diagnostic
import ShieldedPool.Text.Padded

/-!
# Amounts

A value in zatoshis, never negative and never above `maxMoney`. Addition refuses a result outside that range; a sum checks
every prefix and keeps its first error.
-/

namespace ShieldedPool

/-- Zatoshis in one coin (`COIN`). -/
def coin : Nat := 100000000

/-- The largest amount (`MAX_MONEY`): no note, public value or side of a balance may exceed it. -/
def maxMoney : Nat := 21000000 * coin

/-- A number of zatoshis in the valid range (`Amount::VALID_RANGE`). -/
structure Amount where
  zatoshis : Nat
  le_maxMoney : zatoshis ≤ maxMoney
deriving DecidableEq

/-- Why a number is no amount (`amount::Error`). -/
inductive AmountError
  /-- The number is above `maxMoney`. -/
  | constraint (value : Nat)
  /-- The sum of two numbers does not fit in 64 bits. -/
  | additionOverflow (lhs rhs : Nat)
deriving DecidableEq

/-- What is wrong, in words (`Display` of `amount::Error`). -/
def AmountError.message : AmountError → String
  | .constraint value =>
    s!"input {value} is outside of valid range for zatoshi Amount, valid_range=0..={maxMoney}"
  | .additionOverflow lhs rhs => s!"u64 overflow when adding zatoshi amounts {lhs} + {rhs}"

/-- The message for readers that report only the number. -/
def AmountError.brief : AmountError → String
  | .constraint value => s!"input {value} is outside of valid range for zatoshi Amount"
  | e => e.message

namespace Amount

/-- No zatoshis (`Amount::zero`). -/
def zero : Amount := ⟨0, Nat.zero_le _⟩

instance : Inhabited Amount := ⟨zero⟩

/-- Takes a number as an amount, unless it is out of range (`Amount::try_from`). -/
def ofZatoshis (value : Nat) : Except AmountError Amount :=
  if h : value ≤ maxMoney then .ok ⟨value, h⟩ else .error (.constraint value)

/-- Whether there are no zatoshis (`Amount::is_zero`). -/
def isZero (a : Amount) : Bool := a.zatoshis == 0

/-- Eight bytes, least significant first (`Amount::to_bytes`). -/
def toBytes (a : Amount) : Bytes 8 := Bytes.ofNat 8 a.zatoshis

/-- Reads eight bytes and checks the range (`Amount::from_bytes`). -/
def ofBytes (b : Bytes 8) : Except AmountError Amount := ofZatoshis b.toNat

/-! ## Sums -/

/-- The sum, refused if it leaves 64 bits or the valid range (`Add` for `Amount`). -/
def add (a b : Amount) : Except AmountError Amount :=
  if a.zatoshis + b.zatoshis < UInt64.size then ofZatoshis (a.zatoshis + b.zatoshis)
  else .error (.additionOverflow a.zatoshis b.zatoshis)

/-- Adds to a result, which stays what it is if it is an error (`Add` for results). -/
def addTo (acc : Except AmountError Amount) (a : Amount) : Except AmountError Amount :=
  acc.bind fun t => t.add a

/-- Replaces a running total by its sum with an amount (`AddAssign` for results); an error is left in place. -/
def accumulate (acc : Except AmountError Amount) (a : Amount) : Except AmountError Amount :=
  match acc with
  | .ok t => t.add a
  | .error _ => acc

/-- The total of a list, added from the front (`Sum` for results). -/
def sum (l : List Amount) : Except AmountError Amount := l.foldl addTo (.ok zero)

/-! ## Text -/

/-- The amount in decimal, laid out in a field (`Display`). -/
def format (f : NumberFormat) (a : Amount) : String := f.render a.zatoshis

instance : ToString Amount := ⟨fun a => a.format {}⟩

def diagnostic (a : Amount) : Diagnostic := .tuple "Amount" [.number a.zatoshis]

end Amount

end ShieldedPool
