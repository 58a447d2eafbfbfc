import ShieldedPool.Amount

/-!
# Reading JSON

A reader takes the text of one value from the front of a text. It knows which type of value is due and refuses any other, so
the first fault in the order of the text decides what is reported. Where a whole number is due, a fraction or an exponent is
refused even if the value is whole. Members of an object that are not known are skipped, or refused where the record is strict.
-/

namespace ShieldedPool

/-- Why a JSON text was refused. -/
inductive JsonError
  /-- The text is not JSON, or holds another type of value than is due. -/
  | unexpected
  /-- A number is no amount. -/
  | amount (cause : AmountError)
deriving DecidableEq

/-- Reads a value from the front of a text and returns the text it leaves. -/
abbrev JsonReader := StateT (List Char) (Except JsonError)

namespace JsonReader

def fail {α : Type} : JsonReader α := throw .unexpected

/-! ## Characters -/

def isSpace (c : Char) : Bool := c == ' ' || c == '\n' || c == '\t' || c == '\r'

def skipSpace : JsonReader Unit := modify fun l => l.dropWhile isSpace

/-- The next character, which is left in place; none at the end. -/
def peek : JsonReader (Option Char) := return (← get).head?

def next : JsonReader Char := do
  match ← get with
  | c :: r => set r; return c
  | [] => fail

def expect (c : Char) : JsonReader Unit := do
  unless (← next) == c do fail

def keyword (s : String) : JsonReader Unit := s.toList.forM expect

/-! ## Strings -/

def hexValue? (c : Char) : Option Nat :=
  if '0' ≤ c ∧ c ≤ '9' then some (c.toNat - 48)
  else if 'a' ≤ c ∧ c ≤ 'f' then some (c.toNat - 87)
  else if 'A' ≤ c ∧ c ≤ 'F' then some (c.toNat - 55)
  else none

def hexDigit : JsonReader Nat := do
  match hexValue? (← next) with
  | some d => return d
  | none => fail

/-- The number that four hexadecimal digits write. -/
def hex4 : JsonReader Nat := do
  let a ← hexDigit
  let b ← hexDigit
  let c ← hexDigit
  let d ← hexDigit
  return 4096 * a + 256 * b + 16 * c + d

/-- The character of a code that follows a backslash and a `u`. Characters above the first plane are a pair of codes. -/
def codeEscape : JsonReader Char := do
  let high ← hex4
  if 0xd800 ≤ high ∧ high ≤ 0xdbff then
    expect '\\'
    expect 'u'
    let low ← hex4
    if 0xdc00 ≤ low ∧ low ≤ 0xdfff then
      return Char.ofNat (0x10000 + (high - 0xd800) * 0x400 + (low - 0xdc00))
    else fail
  else if 0xdc00 ≤ high ∧ high ≤ 0xdfff then fail
  else return Char.ofNat high

/-- What a backslash and one character stand for. -/
def shortEscape? : Char → Option Char
  | '"' => some '"'
  | '\\' => some '\\'
  | '/' => some '/'
  | 'b' => some '\x08'
  | 'f' => some '\x0c'
  | 'n' => some '\n'
  | 'r' => some '\r'
  | 't' => some '\t'
  | _ => none

/-- What stands between the quotes and the closing quote, `code` being how an escaped code is read. The first argument
bounds the number of characters. -/
def stringBody (code : JsonReader Char) : Nat → List Char → JsonReader (List Char)
  | 0, _ => fail
  | n + 1, acc => do
    let c ← next
    if c == '"' then return acc.reverse
    else if c == '\\' then
      let e ← next
      if e == 'u' then stringBody code n ((← code) :: acc)
      else match shortEscape? e with
        | some c => stringBody code n (c :: acc)
        | none => fail
    else if c.toNat < 0x20 then fail
    else stringBody code n (c :: acc)

def string : JsonReader String := do
  skipSpace
  expect '"'
  return String.ofList (← stringBody codeEscape (← get).length [])

/-! ## Numbers -/

def isDigit (c : Char) : Bool := '0' ≤ c && c ≤ '9'

/-- The digits at the front; there must be one. -/
def digits : JsonReader (List Char) := do
  let l ← get
  set (l.dropWhile isDigit)
  if (l.takeWhile isDigit).isEmpty then fail else return l.takeWhile isDigit

/-- Digits without a leading zero, a lone zero apart. -/
def wholePart : JsonReader (List Char) := do
  match ← digits with
  | '0' :: _ :: _ => fail
  | ds => return ds

/-- A whole number of at most `bound`, without sign, fraction or exponent. -/
def natural (bound : Nat) : JsonReader Nat := do
  skipSpace
  let ds ← wholePart
  match ← peek with
  | some '.' | some 'e' | some 'E' => fail
  | _ =>
    let n := ds.foldl (fun n c => 10 * n + (c.toNat - 48)) 0
    if n ≤ bound then return n else fail

/-! ## Values of other types -/

def null : JsonReader Unit := do
  skipSpace
  keyword "null"

def bool : JsonReader Bool := do
  skipSpace
  match ← peek with
  | some 't' => keyword "true"; return true
  | _ => keyword "false"; return false

/-- Either null, or a value. -/
def optional {α : Type} (value : JsonReader α) : JsonReader (Option α) := do
  skipSpace
  match ← peek with
  | some 'n' => keyword "null"; return none
  | _ => some <$> value

/-- The rest of an array of which `n` items are still due; a comma comes before every item but the first. -/
def arrayItems {α : Type} (item : JsonReader α) : (n : Nat) → (first : Bool) → JsonReader (Vector α n)
  | 0, _ => do
    skipSpace
    expect ']'
    return #v[]
  | n + 1, first => do
    unless first do
      skipSpace
      expect ','
    let a ← item
    let rest ← arrayItems item n false
    return ⟨(a :: rest.toList).toArray, by simp⟩

/-- An array of exactly `n` items. -/
def array {α : Type} (item : JsonReader α) (n : Nat) : JsonReader (Vector α n) := do
  skipSpace
  expect '['
  arrayItems item n true

/-- An array of exactly `n` numbers below 256. -/
def bytes (n : Nat) : JsonReader (Bytes n) := array (UInt8.ofNat <$> natural 255) n

/-! ## Skipping -/

/-- Passes over a number of any kind. -/
def skipNumber : JsonReader Unit := do
  if (← peek) == some '-' then discard next
  discard wholePart
  if (← peek) == some '.' then
    discard next
    discard digits
  match ← peek with
  | some 'e' | some 'E' =>
    discard next
    match ← peek with
    | some '+' | some '-' => discard next
    | _ => pure ()
    discard digits
  | _ => pure ()

/-- Passes over a string; an escaped code may be half of a pair. -/
def skipString : JsonReader Unit := do
  skipSpace
  expect '"'
  discard (stringBody (hex4 >>= fun _ => return '?') (← get).length [])

mutual

/-- Passes over a value of any type. The argument bounds the number of steps. -/
def skipValueWithin : Nat → JsonReader Unit
  | 0 => fail
  | n + 1 => do
    skipSpace
    match ← peek with
    | some 'n' => keyword "null"
    | some 't' => keyword "true"
    | some 'f' => keyword "false"
    | some '"' => skipString
    | some '[' =>
      discard next
      skipSpace
      if (← peek) == some ']' then discard next else skipItems n
    | some '\x7b' =>
      discard next
      skipSpace
      if (← peek) == some '\x7d' then discard next else skipMembers n
    | _ => skipNumber

/-- Passes over items up to the closing bracket. -/
def skipItems : Nat → JsonReader Unit
  | 0 => fail
  | n + 1 => do
    skipValueWithin n
    skipSpace
    match ← next with
    | ',' => skipItems n
    | ']' => pure ()
    | _ => fail

/-- Passes over members up to the closing brace. -/
def skipMembers : Nat → JsonReader Unit
  | 0 => fail
  | n + 1 => do
    skipString
    skipSpace
    expect ':'
    skipValueWithin n
    skipSpace
    match ← next with
    | ',' => skipMembers n
    | '\x7d' => pure ()
    | _ => fail

end

/-- Passes over a value of any type. Each step but every other takes a character, so twice the length is enough of them. -/
def skipValue : JsonReader Unit := do skipValueWithin (2 * (← get).length + 2)

/-! ## Objects -/

/-- What an object's members are read into: for a known key, how its value changes the record so far. -/
abbrev Members (σ : Type) := String → Option (σ → JsonReader σ)

/-- A member that may occur once. -/
def once {σ α : Type} (read : JsonReader α) (field : σ → Option α) (put : σ → α → σ) : σ → JsonReader σ :=
  fun s => if (field s).isSome then fail else put s <$> read

/-- The value of a member: into the record if the key is known, and past it or refused if it is not. -/
def member {σ : Type} (strict : Bool) (members : Members σ) (key : String) (s : σ) : JsonReader σ :=
  match members key with
  | some read => do
    skipSpace
    expect ':'
    read s
  | none => do
    if strict then fail
    skipSpace
    expect ':'
    skipValue
    return s

/-- The members up to the closing brace. The first argument bounds their number. -/
def memberList {σ : Type} (strict : Bool) (members : Members σ) : Nat → σ → JsonReader σ
  | 0, _ => fail
  | n + 1, s => do
    let key ← string
    let s ← member strict members key s
    skipSpace
    match ← next with
    | ',' => memberList strict members n s
    | '\x7d' => return s
    | _ => fail

def object {σ : Type} (strict : Bool) (members : Members σ) (s : σ) : JsonReader σ := do
  skipSpace
  expect '\x7b'
  skipSpace
  if (← peek) == some '\x7d' then
    discard next
    return s
  memberList strict members ((← get).length + 1) s

/-- A value that has to be there. -/
def required {α : Type} : Option α → JsonReader α
  | some a => return a
  | none => fail

/-! ## Whole texts -/

/-- Reads a text that holds one value and nothing but space around it. -/
def parse {α : Type} (value : JsonReader α) (text : String) : Except JsonError α := do
  let (a, rest) ← value.run text.toList
  if (rest.dropWhile isSpace).isEmpty then return a else throw .unexpected

end JsonReader

end ShieldedPool
