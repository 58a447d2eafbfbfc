import ShieldedPool.Proofs.Preimages

/-!
# Derivations do not meet

Seven kinds of values are derived with one compression function (`prf`), and the block that is compressed says which
(`Derivation.block_eq_iff`): the two halves of an address have the same four bits at the front, but another selector, and all
other kinds have four bits of their own. So two values of different kinds, or of one kind under different spending keys, are
equal only if their blocks collide (`derivations_separated`).
-/

namespace ShieldedPool.Prf

theorem selector_inj {t t' : UInt8} : selector t = selector t' ↔ t = t' := by
  constructor
  · intro h
    have hfirst := congrArg (fun b : Bytes 32 => b[0]) h
    simpa [selector] using hfirst
  · rintro rfl; rfl

/-- What a pseudorandom value is derived for. The first argument is a spending key, but for seeds it is the secret of a
JoinSplit. -/
inductive Derivation
  | payingKey
  /-- The value is clamped afterwards. -/
  | receivingKey
  /-- The second argument is the note's seed. -/
  | nullifier
  /-- The second argument is the signature hash. -/
  | mac (index : Index)
  /-- The second argument is the signature hash. -/
  | rho (index : Index)
deriving DecidableEq

namespace Derivation

def use : Derivation → Use
  | payingKey => .address
  | receivingKey => .address
  | nullifier => .nullifier
  | mac index => .mac index
  | rho index => .rho index

/-- The second argument. Both halves of an address have a fixed one, the selector. -/
def argument (y : Bytes 32) : Derivation → Bytes 32
  | payingKey => selector 0
  | receivingKey => selector 1
  | _ => y

/-- What is compressed. -/
def block (d : Derivation) (x y : Bytes 32) : Bytes 64 := Prf.block d.use x (d.argument y)

def value (d : Derivation) (x y : Bytes 32) : Bytes 32 := eval d.use x (d.argument y)

variable {d e : Derivation} {x x' y y' : Bytes 32}

/-- The use leaves open only which half of an address is derived. -/
theorem eq_of_use_of_argument (huse : d.use = e.use) (harg : d.argument y = e.argument y') : d = e := by
  cases d <;> cases e <;> cases huse
  case payingKey.receivingKey => exact absurd (selector_inj.1 harg) (by decide)
  case receivingKey.payingKey => exact absurd (selector_inj.1 harg) (by decide)
  all_goals rfl

/-- **A block determines what it is for**, the first argument but for the bits that are masked, and the second. -/
theorem block_eq_iff :
    d.block x y = e.block x' y' ↔ d = e ∧ AgreeBelow252 x x' ∧ d.argument y = e.argument y' := by
  rw [block, block, block_inj]
  constructor
  · rintro ⟨huse, hx, hy⟩
    exact ⟨eq_of_use_of_argument huse hy, hx, hy⟩
  · rintro ⟨rfl, hx, hy⟩
    exact ⟨rfl, hx, hy⟩

/-- Equal values have been derived for the same from the same, or their blocks collide. -/
theorem eq_or_collision_of_value_eq (h : d.value x y = e.value x' y') :
    (d = e ∧ AgreeBelow252 x x' ∧ d.argument y = e.argument y') ∨
      Collision Sha256.compress (d.block x y) (e.block x' y') := by
  rcases eval_eq_or_collision h with ⟨huse, hx, hy⟩ | hc
  · exact Or.inl ⟨eq_of_use_of_argument huse hy, hx, hy⟩
  · exact Or.inr hc

end Derivation

/-- **Derivations are separated.** The blocks of two derivations are equal if and only if both are for the same, the first
arguments agree below 252 bits and the second arguments are equal. So equal values are a collision of their blocks if they
are for different things, or for the same thing under different spending keys. -/
theorem derivations_separated (d e : Derivation) (x x' y y' : Bytes 32) :
    (d.block x y = e.block x' y' ↔ d = e ∧ AgreeBelow252 x x' ∧ d.argument y = e.argument y') ∧
      (d ≠ e → d.value x y = e.value x' y' → Collision Sha256.compress (d.block x y) (e.block x' y')) ∧
      ∀ k k' : SpendingKey, k ≠ k' → d.value k.bytes y = d.value k'.bytes y' →
        Collision Sha256.compress (d.block k.bytes y) (d.block k'.bytes y') := by
  refine ⟨Derivation.block_eq_iff, fun hne h => ?_, fun k k' hne h => ?_⟩
  · rcases Derivation.eq_or_collision_of_value_eq h with ⟨hde, _⟩ | hc
    · exact absurd hde hne
    · exact hc
  · rcases Derivation.eq_or_collision_of_value_eq h with ⟨_, hx, _⟩ | hc
    -- a key has no bits where the arguments may differ
    · exact absurd (SpendingKey.eq_of_agreeBelow252 hx) hne
    · exact hc

/-- A bit that is masked makes no difference to a nullifier, and a selector makes one to an address. -/
theorem derivations_separated_masked :
    let x : Bytes 32 := Vector.replicate 32 0x0a
    let x' : Bytes 32 := x.modify 0 fun _ => 0xfa
    let y : Bytes 32 := Vector.replicate 32 0x0b
    x ≠ x' ∧ Derivation.nullifier.block x y = Derivation.nullifier.block x' y ∧
      Derivation.payingKey.block x y ≠ Derivation.receivingKey.block x y := by
  intro x x' y
  have hagree : AgreeBelow252 x x' := mask252_eq_iff_agreeBelow252.1 (by decide)
  refine ⟨by decide, (derivations_separated .nullifier .nullifier x x' y y).1.2 ⟨rfl, hagree, rfl⟩, fun h => ?_⟩
  exact absurd ((derivations_separated .payingKey .receivingKey x x y y).1.1 h).1 (by decide)

end ShieldedPool.Prf
