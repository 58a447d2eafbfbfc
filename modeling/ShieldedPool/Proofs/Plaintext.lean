import ShieldedPool.Proofs.Codec

/-!
# The encoding of a note plaintext

A plaintext is written field by field into a buffer of 585 bytes. A field that finds no room would be refused; the widths add
up to the buffer's size, so each finds its room and the last one leaves none (`writeAll?_parts`). What is written so is read
back, whatever follows it, and nothing else is read. Of what is refused the first bytes say why: `encoding_canonical` has an
equivalence for each of the three causes.
-/

namespace ShieldedPool

/-! ## Buffers -/

/-- A buffer while it is filled: the bytes written so far, and how many more there is room for. -/
structure Buffer where
  written : List UInt8
  room : Nat

namespace Buffer

/-- An empty buffer. -/
def ofSize (n : Nat) : Buffer := ⟨[], n⟩

/-- Writes a field behind the bytes that are there, if it has room. -/
def write? (b : Buffer) (field : List UInt8) : Option Buffer :=
  if field.length ≤ b.room then some ⟨b.written ++ field, b.room - field.length⟩ else none

/-- Writes one field after the other, until one has no room. -/
def writeAll? (b : Buffer) : List (List UInt8) → Option Buffer
  | [] => some b
  | field :: fields => (b.write? field).bind fun b => b.writeAll? fields

/-- Fields have room one after the other just where they have it together. -/
theorem writeAll?_eq (b : Buffer) (fields : List (List UInt8)) : b.writeAll? fields = b.write? fields.flatten := by
  induction fields generalizing b with
  | nil => simp [writeAll?, write?]
  | cons field fields ih =>
    rw [writeAll?, List.flatten_cons]
    by_cases hfield : field.length ≤ b.room
    · rw [write?, if_pos hfield, Option.bind_some, ih]
      simp only [write?, List.append_assoc, List.length_append, Nat.sub_sub]
      by_cases hrest : field.length + fields.flatten.length ≤ b.room
      · rw [if_pos hrest, if_pos (by omega)]
      · rw [if_neg hrest, if_neg (by omega)]
    · rw [write?, if_neg hfield, Option.bind_none, write?, if_neg (by rw [List.length_append]; omega)]

/-- An encoding is written into a buffer of its size just as field by field. -/
theorem writeAll?_ofSize (n : Nat) (fields : List (List UInt8)) :
    (ofSize n).writeAll? fields = (writeWithin? n fields.flatten).map fun room => ⟨fields.flatten, room⟩ := by
  rw [writeAll?_eq, write?, writeWithin?, ofSize, List.nil_append]
  split <;> rfl

end Buffer

/-! ## Plaintexts -/

namespace NotePlaintext

/-- What is written for a plaintext, field by field. -/
def parts (p : NotePlaintext) : List (List UInt8) :=
  [[lead], p.value.toBytes.toList, p.rho.bytes.toList, p.rcm.bytes.toList, p.memo.bytes.toList]

theorem flatten_parts (p : NotePlaintext) : p.parts.flatten = p.encode := by
  simp [parts, encode]

/-- **Every field finds its room**, and the last fills the buffer up. -/
theorem writeAll?_parts (p : NotePlaintext) :
    (Buffer.ofSize size).writeAll? p.parts = some ⟨p.toBytes.toList, 0⟩ := by
  rw [Buffer.writeAll?_ofSize, flatten_parts, writeWithin?, if_pos (Nat.le_of_eq p.length_encode), p.length_encode,
    Nat.sub_self]
  rfl

theorem badLead_iff {l : List UInt8} : BadLead l ↔ ∃ b tail, l = b :: tail ∧ b ≠ 0 := by
  cases l <;> simp [BadLead, lead]

theorem not_badLead_iff {l : List UInt8} : ¬ BadLead l ↔ l = [] ∨ ∃ tail, l = 0 :: tail := by
  cases l <;> simp [BadLead, lead]

theorem decode_eq_malformed_iff {l : List UInt8} {cause : Malformed} :
    decode l = .error (.malformed cause) ↔ BadLead l ∧ cause = .plaintextLead := by
  simp [decode_eq_error_iff]

theorem decode_eq_amount_iff {l : List UInt8} {cause : AmountError} :
    decode l = .error (.amount cause) ↔ ¬ BadLead l ∧ ∃ v, Amount.RefusedAt l 1 v ∧ cause = .constraint v := by
  simp [decode_eq_error_iff]

theorem decode_eq_unexpectedEnd_iff {l : List UInt8} :
    decode l = .error .unexpectedEnd ↔ ¬ BadLead l ∧ (∀ v, ¬ Amount.RefusedAt l 1 v) ∧ l.length < size := by
  simp [decode_eq_error_iff]

/-- **The encoding is canonical.** Reading returns a plaintext and leaves the rest just where its bytes are followed by this
rest. These are 585 bytes, the same as written without a bound, and a buffer of this size takes all of them. What is refused
has a first byte that is not zero, or otherwise a number out of range behind it, or otherwise too few bytes; so an empty input
ends too early. -/
theorem encoding_canonical :
    (∀ l (p : NotePlaintext) rest, decode l = .ok (p, rest) ↔ l = p.toBytes.toList ++ rest) ∧
    (∀ p : NotePlaintext, p.toBytes.toList.length = 585 ∧ p.toBytes.toList = p.encode ∧
      (Buffer.ofSize 585).writeAll? p.parts = some ⟨p.toBytes.toList, 0⟩) ∧
    decode [] = .error .unexpectedEnd ∧
    (∀ l cause, decode l = .error (.malformed cause) ↔
      (∃ b tail, l = b :: tail ∧ b ≠ 0) ∧ cause = .plaintextLead) ∧
    (∀ l cause, decode l = .error (.amount cause) ↔
      (∃ tail, l = 0 :: tail) ∧ ∃ v, Amount.numberAt? l 1 = some v ∧ maxMoney < v ∧ cause = .constraint v) ∧
    ∀ l, decode l = .error .unexpectedEnd ↔
      l = [] ∨ (∃ tail, l = 0 :: tail) ∧ (∀ v, Amount.numberAt? l 1 = some v → v ≤ maxMoney) ∧ l.length < 585 := by
  refine ⟨reads_decode, fun p => ⟨Vector.length_toList, rfl, p.writeAll?_parts⟩, rfl, fun l cause => ?malformed,
    fun l cause => ?amount, fun l => ?tooShort⟩
  case malformed => rw [decode_eq_malformed_iff, badLead_iff]
  case amount =>
    rw [decode_eq_amount_iff, not_badLead_iff]
    constructor
    · rintro ⟨rfl | hlead, v, ⟨hv, hmax⟩, hcause⟩
      -- in an empty input there is no number
      · cases hv
      · exact ⟨hlead, v, hv, hmax, hcause⟩
    · rintro ⟨hlead, v, hv, hmax, hcause⟩
      exact ⟨Or.inr hlead, v, ⟨hv, hmax⟩, hcause⟩
  case tooShort =>
    rw [decode_eq_unexpectedEnd_iff, not_badLead_iff]
    simp only [Amount.RefusedAt, not_and, Nat.not_lt]
    constructor
    · rintro ⟨hempty | hlead, hrange, hshort⟩
      · exact Or.inl hempty
      · exact Or.inr ⟨hlead, hrange, hshort⟩
    · rintro (rfl | ⟨hlead, hrange, hshort⟩)
      · exact ⟨Or.inl rfl, fun v hv => (by cases hv), by decide⟩
      · exact ⟨Or.inr hlead, hrange, hshort⟩

end NotePlaintext

end ShieldedPool
