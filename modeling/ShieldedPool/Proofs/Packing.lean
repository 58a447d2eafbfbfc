import Mathlib.Data.Nat.Digits.Lemmas
import ShieldedPool.Proofs.Preimages
import ShieldedPool.System.Groth16.Packing

/-!
# The scalars of a statement determine it

No step from a statement to its scalars (`primary_inputs`) loses anything: the bytes determine the bits (`bits_inj`), the
bits are the chunks put together again (`flatten_chunks`), a chunk is read off its number (`number_inj`), and the number is
small enough to be its own residue (`number_lt_order`). So a proof for one statement is checked against scalars that no other
statement has (`scalars_faithful`).
-/

namespace ShieldedPool

namespace Packing

variable {l m c : List Bool}

/-! ## Numbers -/

/-- A number has its bits as digits. -/
theorem number_eq_ofDigits (l : List Bool) : number l = Nat.ofDigits 2 (l.map Bool.toNat) := by
  induction l with
  | nil => rfl
  | cons b l ih =>
    rw [List.map_cons, Nat.ofDigits_cons, ← ih]
    rfl

theorem lt_two_of_mem_map_toNat (l : List Bool) : ∀ d ∈ l.map Bool.toNat, d < 2 := by
  intro d hd
  obtain ⟨b, _, rfl⟩ := List.mem_map.1 hd
  exact b.toNat_lt

theorem number_lt (l : List Bool) : number l < 2 ^ l.length := by
  have h := Nat.ofDigits_lt_base_pow_length Nat.one_lt_two (lt_two_of_mem_map_toNat l)
  rwa [List.length_map, ← number_eq_ofDigits] at h

/-- Among lists of one length, the number determines the bits. -/
theorem number_inj (hlen : l.length = m.length) : number l = number m ↔ l = m := by
  constructor
  · intro h
    rw [number_eq_ofDigits, number_eq_ofDigits] at h
    have hdigits := Nat.ofDigits_inj_of_len_eq Nat.one_lt_two (by rw [List.length_map, List.length_map, hlen])
      (lt_two_of_mem_map_toNat l) (lt_two_of_mem_map_toNat m) h
    have hbit : Function.Injective Bool.toNat := fun a b => by cases a <;> cases b <;> decide
    exact List.map_injective_iff.2 hbit hdigits
  · rintro rfl; rfl

/-! ## Chunks -/

theorem flatten_map_take_drop (l : List Bool) (k n : Nat) :
    ((List.range n).map fun i => (l.drop (k * i)).take k).flatten = l.take (k * n) := by
  induction n with
  | zero => simp
  | succ n ih =>
    rw [List.range_succ, List.map_append, List.flatten_append, ih, Nat.mul_succ, List.take_add]
    simp

/-- The chunks put together are the list. -/
theorem flatten_chunks (l : List Bool) : (chunks l).flatten = l := by
  rw [chunks, flatten_map_take_drop, List.take_of_length_le]
  simp only [capacity]
  omega

theorem length_chunks (l : List Bool) : (chunks l).length = (l.length + 253) / 254 := by
  simp [chunks, capacity]

theorem length_le_of_mem_chunks (hc : c ∈ chunks l) : c.length ≤ 254 := by
  obtain ⟨i, _, rfl⟩ := List.mem_map.1 hc
  exact List.length_take_le _ _

/-- No chunk is reduced, whatever its bits. -/
theorem number_lt_order (hc : c ∈ chunks l) : number c < Bls12381.order :=
  calc number c < 2 ^ c.length := number_lt c
    _ ≤ 2 ^ 254 := Nat.pow_le_pow_right Nat.two_pos (length_le_of_mem_chunks hc)
    _ ≤ Bls12381.order := by decide

/-- Lists of one length are cut at the same places, so their chunks have the same lengths, the last one included. -/
theorem map_number_chunks_inj (hlen : l.length = m.length) :
    (chunks l).map number = (chunks m).map number ↔ l = m := by
  constructor
  · intro h
    rw [← flatten_chunks l, ← flatten_chunks m]
    simp only [chunks, hlen, List.map_map, List.map_inj_left, Function.comp_apply] at h
    refine congrArg List.flatten ?_
    simp only [chunks, hlen, List.map_inj_left]
    intro i hi
    exact (number_inj (by rw [List.length_take, List.length_take, List.length_drop, List.length_drop, hlen])).1 (h i hi)
  · rintro rfl; rfl

/-! ## Bits -/

theorem length_byteBits (b : UInt8) : (byteBits b).length = 8 := by simp [byteBits]

theorem byteBits_inj {b c : UInt8} : byteBits b = byteBits c ↔ b = c := by
  constructor
  · intro h
    have hbit := List.map_inj_left.1 h
    refine UInt8.toNat_inj.1 (Nat.eq_of_testBit_eq fun i => ?_)
    by_cases hi : i < 8
    · have hi' := hbit (7 - i) (List.mem_range.2 (by omega))
      rwa [show 7 - (7 - i) = i by omega] at hi'
    · have hlt (b : UInt8) : b.toNat < 2 ^ i :=
        Nat.lt_of_lt_of_le b.toNat_lt (Nat.pow_le_pow_right Nat.two_pos (Nat.le_of_not_lt hi))
      rw [Nat.testBit_lt_two_pow (hlt b), Nat.testBit_lt_two_pow (hlt c)]
  · rintro rfl; rfl

theorem length_bits (l : List UInt8) : (bits l).length = 8 * l.length := by
  induction l with
  | nil => rfl
  | cons b l ih =>
    rw [bits, List.flatMap_cons, List.length_append, length_byteBits, List.length_cons]
    rw [bits] at ih
    omega

theorem bits_inj {l m : List UInt8} : bits l = bits m ↔ l = m := by
  constructor
  · intro h
    have hlen : l.length = m.length := by
      have := congrArg List.length h
      rw [length_bits, length_bits] at this
      omega
    induction l generalizing m with
    | nil => exact (List.length_eq_zero_iff.1 hlen.symm).symm
    | cons b l ih =>
      cases m with
      | nil => cases hlen
      | cons c m =>
        obtain ⟨hbyte, hrest⟩ := List.append_inj h (by rw [length_byteBits, length_byteBits])
        rw [byteBits_inj.1 hbyte, ih hrest (Nat.succ.inj hlen)]
  · rintro rfl; rfl

end Packing

/-! ## Statements -/

namespace Statement

theorem length_primaryInput (s : Statement) : s.primaryInput.length = 272 := by
  simp only [primaryInput, toList_pair, List.flatMap_cons, List.flatMap_nil, List.length_append, List.length_nil,
    Vector.length_toList]

theorem length_bits_primaryInput (s : Statement) : (Packing.bits s.primaryInput).length = 2176 := by
  rw [Packing.length_bits, length_primaryInput]

/-- The least representatives of the scalars are the numbers of the chunks. -/
theorem map_value_scalars (s : Statement) :
    s.scalars.map Residue.value = (Packing.chunks (Packing.bits s.primaryInput)).map Packing.number := by
  rw [scalars, List.map_map]
  refine List.map_congr_left fun c hc => ?_
  exact Nat.mod_eq_of_lt (Packing.number_lt_order hc)

/-- **The scalars are a faithful packing of the statement.** Statements with the same scalars are the same. There are always
nine scalars. Each is the number of one chunk, which is below the order of the groups, so nothing has been reduced. -/
theorem scalars_faithful (s t : Statement) :
    (s.scalars = t.scalars ↔ s = t) ∧ s.scalars.length = 9 ∧
      s.scalars.map Residue.value = (Packing.chunks (Packing.bits s.primaryInput)).map Packing.number ∧
      ∀ c ∈ Packing.chunks (Packing.bits s.primaryInput), Packing.number c < Bls12381.order := by
  refine ⟨⟨fun h => ?_, ?_⟩, ?_, s.map_value_scalars, fun c => Packing.number_lt_order⟩
  · have hlen : (Packing.bits s.primaryInput).length = (Packing.bits t.primaryInput).length := by
      rw [length_bits_primaryInput, length_bits_primaryInput]
    have hnumbers := congrArg (List.map Residue.value) h
    rw [map_value_scalars, map_value_scalars, Packing.map_number_chunks_inj hlen, Packing.bits_inj] at hnumbers
    exact primaryInput_inj.1 hnumbers
  · rintro rfl; rfl
  · rw [scalars, List.length_map, Packing.length_chunks, length_bits_primaryInput]

end Statement

end ShieldedPool
