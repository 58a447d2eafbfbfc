import ShieldedPool.Proofs.Codec
import ShieldedPool.Proofs.Relation
import ShieldedPool.System.Keyed

/-!
# What a hash input determines

Everything that the pool hashes is laid out in fields of fixed width, so the input of a hash determines what it was made
of: the use and both arguments of a pseudorandom function, up to the four bits that it masks (`Prf.block_inj`), all of a
note, all of a signature hash, and all of a statement. With these, equal hashes of different things are collisions.
-/

namespace ShieldedPool

attribute [ext] SpendingKey PayingKey NullifierSeed CommitmentRandomness NoteCommitment Note Nullifier RandomSeed HSig Mac
  Root Statement

/-! ## Pseudorandom functions -/

namespace Prf

variable {u v : Use} {x y x' y' : Bytes 32}

theorem toNat_masked (b : UInt8) : (b &&& 0x0f).toNat = b.toNat % 16 := by
  rw [UInt8.toNat_and]
  exact Nat.and_two_pow_sub_one_eq_mod b.toNat 4

theorem getElem_mask252_zero (x : Bytes 32) : (mask252 x)[0] = x[0] &&& 0x0f := by
  simp [mask252]

theorem getElem_mask252 (x : Bytes 32) {i : Nat} (hi : i < 32) (h0 : i ≠ 0) : (mask252 x)[i] = x[i] := by
  simp [mask252, h0]

/-- Strings that differ at most in the four high bits of the first byte: the low halves of all bytes agree, and all bytes
after the first. -/
def AgreeBelow252 (x x' : Bytes 32) : Prop :=
  ∀ i (_ : i < 32), x[i].toNat % 16 = x'[i].toNat % 16 ∧ (i ≠ 0 → x[i] = x'[i])

/-- Only the first byte has a half in which the strings may differ. -/
theorem agreeBelow252_iff :
    AgreeBelow252 x x' ↔ x[0].toNat % 16 = x'[0].toNat % 16 ∧ ∀ i (_ : i < 32), i ≠ 0 → x[i] = x'[i] := by
  constructor
  · intro h
    exact ⟨(h 0 (by decide)).1, fun i hi => (h i hi).2⟩
  · rintro ⟨hfirst, hrest⟩ i hi
    by_cases h0 : i = 0
    · subst h0
      exact ⟨hfirst, fun h => absurd rfl h⟩
    · exact ⟨by rw [hrest i hi h0], hrest i hi⟩

/-- Masking forgets just the bits in which the strings may differ. -/
theorem mask252_eq_iff_agreeBelow252 : mask252 x = mask252 x' ↔ AgreeBelow252 x x' := by
  rw [agreeBelow252_iff]
  constructor
  · intro h
    refine ⟨?_, fun i hi h0 => ?_⟩
    · rw [← toNat_masked, ← toNat_masked, ← getElem_mask252_zero, ← getElem_mask252_zero, h]
    · rw [← getElem_mask252 x hi h0, ← getElem_mask252 x' hi h0, h]
  · rintro ⟨hfirst, hrest⟩
    refine Vector.ext fun i hi => ?_
    by_cases h0 : i = 0
    · subst h0
      apply UInt8.toNat_inj.1
      rw [getElem_mask252_zero, getElem_mask252_zero, toNat_masked, toNat_masked, hfirst]
    · rw [getElem_mask252 x hi h0, getElem_mask252 x' hi h0, hrest i hi h0]

/-- A masked byte and a tag stand beside each other in one byte. -/
theorem toNat_tagged (b t : UInt8) : (b &&& 0x0f ||| t <<< (4 : UInt8)).toNat = 16 * (t.toNat % 16) + b.toNat % 16 := by
  have hhigh : (t <<< (4 : UInt8)).toNat = (t.toNat % 16) <<< 4 := by
    rw [UInt8.toNat_shiftLeft, Nat.shiftLeft_eq, Nat.shiftLeft_eq]
    change t.toNat * 16 % 256 = t.toNat % 16 * 16
    omega
  have hsum := Nat.shiftLeft_add_eq_or_of_lt (b := b.toNat % 16) (i := 4) (Nat.mod_lt _ (by decide)) (t.toNat % 16)
  rw [UInt8.toNat_or, toNat_masked, hhigh, Nat.or_comm, ← hsum, Nat.shiftLeft_eq, Nat.mul_comm]

theorem Use.eq_of_tag (h : u.tag.toNat % 16 = v.tag.toNat % 16) : u = v := by
  cases u <;> cases v <;> (revert h; decide +revert)

/-- **A block determines its use, the second argument, and the first one up to the four bits that are masked.** -/
theorem block_inj : block u x y = block v x' y' ↔ u = v ∧ AgreeBelow252 x x' ∧ y = y' := by
  constructor
  · intro h
    obtain ⟨hx, hy⟩ := Vector.append_inj h
    -- the tag and the low half of the first argument's first byte share one byte of the block
    have hfirst : 16 * (u.tag.toNat % 16) + x[0].toNat % 16 = 16 * (v.tag.toNat % 16) + x'[0].toNat % 16 := by
      have h0 := congrArg (fun b : Bytes 32 => b[0].toNat) hx
      simpa [mask252, ← toNat_tagged] using h0
    refine ⟨Use.eq_of_tag (by omega), agreeBelow252_iff.2 ⟨by omega, fun i hi h0 => ?_⟩, hy⟩
    have hbyte := congrArg (fun b : Bytes 32 => b[i]) hx
    simpa [mask252, h0] using hbyte
  · rintro ⟨rfl, hx, rfl⟩
    rw [block, block, mask252_eq_iff_agreeBelow252.2 hx]

/-- Equal values have been derived for one use from one pair of arguments, or their blocks collide. -/
theorem eval_eq_or_collision (h : eval u x y = eval v x' y') :
    (u = v ∧ AgreeBelow252 x x' ∧ y = y') ∨ Collision Sha256.compress (block u x y) (block v x' y') := by
  have hhash : Sha256.compress (block u x y) = Sha256.compress (block v x' y') := h
  rcases eq_or_collision hhash with hblock | hc
  · exact Or.inl (block_inj.1 hblock)
  · exact Or.inr hc

end Prf

theorem SpendingKey.eq_of_agreeBelow252 {k k' : SpendingKey} (h : Prf.AgreeBelow252 k.bytes k'.bytes) : k = k' := by
  have hmask : Prf.mask252 k.bytes = Prf.mask252 k'.bytes := Prf.mask252_eq_iff_agreeBelow252.2 h
  -- the bits that are masked are zero in a key, so nothing of it is lost
  rw [k.mask252_bytes, k'.mask252_bytes] at hmask
  exact SpendingKey.ext hmask

/-! ## Notes -/

namespace Note

variable {n m : Note}

/-- **A commitment hashes all of a note.** -/
theorem preimage_inj : n.preimage = m.preimage ↔ n = m := by
  constructor
  · intro h
    simp only [preimage, List.cons_append, List.append_assoc, List.cons.injEq, true_and, Bytes.toList_append_inj,
      Vector.toList_inj, Amount.toBytes_inj] at h
    obtain ⟨hkey, hvalue, hrho, hrcm⟩ := h
    exact Note.ext (PayingKey.ext hkey) hvalue (NullifierSeed.ext hrho) (CommitmentRandomness.ext hrcm)
  · rintro rfl; rfl

end Note

/-! ## Signature hashes -/

namespace HSig

variable {s s' : RandomSeed} {l l' : List Nullifier} {k k' : Bytes 32}

/-- Nullifiers with a key after them are told apart, also from more or fewer: each is as wide as the key. -/
theorem nullifiers_append_inj :
    l.flatMap (fun n => n.bytes.toList) ++ k.toList = l'.flatMap (fun n => n.bytes.toList) ++ k'.toList ↔
      l = l' ∧ k = k' := by
  induction l generalizing l' with
  | nil =>
    cases l' with
    | nil => simp [Vector.toList_inj]
    | cons n l' =>
      refine iff_of_false (fun h => ?_) (fun h => by cases h.1)
      have hlen := congrArg List.length h
      simp at hlen
  | cons n l ih =>
    cases l' with
    | nil =>
      refine iff_of_false (fun h => ?_) (fun h => by cases h.1)
      have hlen := congrArg List.length h
      simp at hlen
    | cons n' l' =>
      simp only [List.flatMap_cons, List.append_assoc, Bytes.toList_append_inj, ih, List.cons.injEq, Nullifier.ext_iff,
        and_assoc]

/-- **A signature hash is of all it is computed from**, the nullifiers in their order and however many they are. -/
theorem preimage_inj : preimage s l k = preimage s' l' k' ↔ s = s' ∧ l = l' ∧ k = k' := by
  simp only [preimage, List.append_assoc, Bytes.toList_append_inj, nullifiers_append_inj, RandomSeed.ext_iff]

end HSig

/-! ## Seeds of output notes -/

/-- **A seed is of one output**, of one secret up to the bits that are masked, and of one signature hash. -/
theorem outputRho_eq_or_collision {phi phi' : Bytes 32} {i j : Index} {h h' : HSig}
    (hrho : outputRho phi i h = outputRho phi' j h') :
    (i = j ∧ Prf.AgreeBelow252 phi phi' ∧ h = h') ∨
      Collision Sha256.compress (Prf.block (.rho i) phi h.bytes) (Prf.block (.rho j) phi' h'.bytes) := by
  rcases Prf.eval_eq_or_collision (congrArg NullifierSeed.bytes hrho) with ⟨huse, hphi, hsig⟩ | hc
  · exact Or.inl ⟨Prf.Use.rho.inj huse, hphi, HSig.ext hsig⟩
  · exact Or.inr hc

/-! ## Statements -/

section
variable {α β : Type} {n : Nat} {v w : Vector α n}

theorem get_ext (h : ∀ i, v.get i = w.get i) : v = w := Vector.ext fun i hi => h ⟨i, hi⟩

theorem get_zip (v : Vector α n) (w : Vector β n) (i : Fin n) : (v.zip w).get i = (v.get i, w.get i) :=
  Vector.getElem_zip

end

/-- **A statement is read off its primary input.** -/
theorem Statement.primaryInput_inj {s t : Statement} : s.primaryInput = t.primaryInput ↔ s = t := by
  constructor
  · intro h
    simp only [primaryInput, toList_pair, get_zip, List.flatMap_cons, List.flatMap_nil, List.append_nil,
      List.append_assoc, Bytes.toList_append_inj, Vector.toList_inj, Amount.toBytes_inj] at h
    -- a nullifier and the code of the same input stand together
    obtain ⟨hanchor, hsig, hnf0, hmac0, hnf1, hmac1, hcm0, hcm1, hold, hnew⟩ := h
    exact Statement.ext (Root.ext hanchor) (HSig.ext hsig)
      (get_ext (Index.forall_iff.2 ⟨Nullifier.ext hnf0, Nullifier.ext hnf1⟩))
      (get_ext (Index.forall_iff.2 ⟨Mac.ext hmac0, Mac.ext hmac1⟩))
      (get_ext (Index.forall_iff.2 ⟨NoteCommitment.ext hcm0, NoteCommitment.ext hcm1⟩)) hold hnew
  · rintro rfl; rfl

end ShieldedPool
