import ShieldedPool.Proofs.Proving
import ShieldedPool.Proofs.SignatureHash

/-!
# Keyed proofs cannot be moved

A keyed proof (`KeyedProvingSystem`) is accepted just when it is the tag of the statement that the description makes
(`verifyJoinSplit_eq_true_iff`). So each description has one proof, and a proof that two descriptions share is the tag of
both statements. The tag determines the statement (`tag_eq_or_collision`) and the statement determines the description up to
its encrypted notes (`ofJoinSplit_eq_or_collision`), unless a hash collides.
-/

namespace ShieldedPool

variable {j j' : JoinSplit} {signingKey signingKey' : Bytes 32}

/-! ## From descriptions to statements -/

/-- All that two descriptions, each under the key that signs its transaction, have in common if they make one statement. The
proof is left out, and so is what only the recipients read. -/
structure JoinSplit.SameTransfer (j : JoinSplit) (signingKey : Bytes 32) (j' : JoinSplit) (signingKey' : Bytes 32) :
    Prop where
  anchor_eq : j.anchor = j'.anchor
  nullifiers_eq : j.nullifiers = j'.nullifiers
  commitments_eq : j.commitments = j'.commitments
  macs_eq : j.macs = j'.macs
  vpubOld_eq : j.vpubOld = j'.vpubOld
  vpubNew_eq : j.vpubNew = j'.vpubNew
  randomSeed_eq : j.randomSeed = j'.randomSeed
  signingKey_eq : signingKey = signingKey'

namespace Statement

theorem ofJoinSplit_eq_of_sameTransfer (h : j.SameTransfer signingKey j' signingKey') :
    ofJoinSplit j signingKey = ofJoinSplit j' signingKey' := by
  simp only [ofJoinSplit, JoinSplit.hSig, h.anchor_eq, h.nullifiers_eq, h.commitments_eq, h.macs_eq, h.vpubOld_eq,
    h.vpubNew_eq, h.randomSeed_eq, h.signingKey_eq]

theorem ofJoinSplit_eq_or_collision (h : ofJoinSplit j signingKey = ofJoinSplit j' signingKey') :
    j.SameTransfer signingKey j' signingKey' ∨
      Collision HSig.hash (j.hSigPreimage signingKey) (j'.hSigPreimage signingKey') := by
  -- the seed and the key are not in the statement, the signature hash stands for them
  obtain ⟨hanchor, hsig, hnullifiers, hmacs, hcommitments, hold, hnew⟩ := Statement.ext_iff.1 h
  rcases HSig.compute_eq_or_collision hsig with ⟨hseed, _, hkey⟩ | hc
  · exact Or.inl ⟨hanchor, hnullifiers, hcommitments, hmacs, hold, hnew, hseed, hkey⟩
  · exact Or.inr hc

end Statement

/-! ## From statements to proofs -/

namespace KeyedSystem

variable {k : KeyedSystem} {s t : Statement} {counter : UInt8}

/-- What every block of a proof is hashed with. -/
def hash (k : KeyedSystem) : List UInt8 → Bytes 64 := Blake2b.hash { key := k.key.toList, personal := personal } 64

theorem preimage_inj : preimage counter s = preimage counter t ↔ s = t := by
  rw [preimage, preimage, List.cons.injEq, Statement.primaryInput_inj]
  exact and_iff_right rfl

theorem block_eq_of_tag_eq (h : k.tag s = k.tag t) (hcounter : counter < 3) : k.block counter s = k.block counter t := by
  obtain ⟨h01, h2⟩ := Vector.append_inj (congrArg ZkProof.bytes h)
  obtain ⟨h0, h1⟩ := Vector.append_inj h01
  have hcases : counter = 0 ∨ counter = 1 ∨ counter = 2 := by grind
  rcases hcases with rfl | rfl | rfl
  · exact h0
  · exact h1
  · exact h2

/-- **Two statements with one tag are equal, or all three blocks collide.** -/
theorem tag_eq_or_collision (h : k.tag s = k.tag t) :
    s = t ∨ ∀ counter < 3, Collision k.hash (preimage counter s) (preimage counter t) := by
  by_cases hst : s = t
  · exact Or.inl hst
  -- each counter is put before both statements, so their blocks have different inputs
  · exact Or.inr fun counter hcounter => ⟨mt preimage_inj.1 hst, block_eq_of_tag_eq h hcounter⟩

/-! ## Verified descriptions -/

/-- The inputs of a hash, one from each description, that collide if both are verified by one proof and yet are different. -/
inductive DescriptionCollision (k : KeyedSystem) (j : JoinSplit) (signingKey : Bytes 32) (j' : JoinSplit)
    (signingKey' : Bytes 32) : Prop
  | tag (hc : ∀ counter < 3, Collision k.hash (preimage counter (.ofJoinSplit j signingKey))
      (preimage counter (.ofJoinSplit j' signingKey')))
  | hSig (hc : Collision HSig.hash (j.hSigPreimage signingKey) (j'.hSigPreimage signingKey'))

theorem sameTransfer_or_collision (hproof : j.proof = j'.proof) (hj : verifyJoinSplit k j signingKey = true)
    (hj' : verifyJoinSplit k j' signingKey' = true) :
    j.SameTransfer signingKey j' signingKey' ∨ k.DescriptionCollision j signingKey j' signingKey' := by
  rw [verifyJoinSplit_eq_true_iff] at hj hj'
  have htag : k.tag (.ofJoinSplit j signingKey) = k.tag (.ofJoinSplit j' signingKey') := by rw [← hj, ← hj', hproof]
  rcases tag_eq_or_collision htag with hs | hc
  · rcases Statement.ofJoinSplit_eq_or_collision hs with hsame | hc
    · exact Or.inl hsame
    · exact Or.inr (.hSig hc)
  · exact Or.inr (.tag hc)

theorem verifyJoinSplit_congr (h : j.SameTransfer signingKey j' signingKey') (hproof : j.proof = j'.proof) :
    verifyJoinSplit k j signingKey = verifyJoinSplit k j' signingKey' := by
  rw [Bool.eq_iff_iff, verifyJoinSplit_eq_true_iff, verifyJoinSplit_eq_true_iff, hproof,
    Statement.ofJoinSplit_eq_of_sameTransfer h]

/-- **A verified description is not malleable.** If one proof verifies two descriptions, they are of the same transfer under
the same key, unless a hash collides on the two. The encrypted notes and the key that goes with them can be changed without
changing the verdict, and just one proof is accepted. -/
theorem verified_not_malleable (k : KeyedSystem) :
    (∀ j signingKey j' signingKey', j.proof = j'.proof → verifyJoinSplit k j signingKey = true →
      verifyJoinSplit k j' signingKey' = true →
      j.SameTransfer signingKey j' signingKey' ∨ k.DescriptionCollision j signingKey j' signingKey') ∧
    (∀ (j : JoinSplit) signingKey ephemeralKey ciphertexts,
      verifyJoinSplit k { j with ephemeralKey, ciphertexts } signingKey = verifyJoinSplit k j signingKey) ∧
    ∀ (j : JoinSplit) signingKey, ∃! proof, verifyJoinSplit k { j with proof } signingKey = true := by
  refine ⟨fun j signingKey j' signingKey' => sameTransfer_or_collision, fun j signingKey ephemeralKey ciphertexts => ?_,
    fun j signingKey => ?_⟩
  · exact verifyJoinSplit_congr ⟨rfl, rfl, rfl, rfl, rfl, rfl, rfl, rfl⟩ rfl
  · refine ⟨k.tag (.ofJoinSplit j signingKey), ?_, fun proof hproof => ?_⟩
    · exact verifyJoinSplit_eq_true_iff.2 rfl
    · exact verifyJoinSplit_eq_true_iff.1 hproof

/-- One proof verifies two descriptions that differ in what the recipients read. -/
theorem verified_not_malleable_ciphertexts :
    let k : KeyedSystem := ⟨Bytes.zero 32⟩
    let described (ephemeral : Bytes 32) (proof : ZkProof) : JoinSplit :=
      { vpubOld := .zero, vpubNew := .zero, anchor := ⟨Bytes.zero 32⟩
        nullifiers := #v[⟨Bytes.zero 32⟩, ⟨Vector.replicate 32 1⟩]
        commitments := #v[⟨Bytes.zero 32⟩, ⟨Bytes.zero 32⟩]
        ephemeralKey := ⟨ephemeral⟩, randomSeed := ⟨Bytes.zero 32⟩
        macs := #v[⟨Bytes.zero 32⟩, ⟨Bytes.zero 32⟩]
        proof, ciphertexts := Vector.replicate 2 ⟨Bytes.zero _⟩ }
    let proof := k.tag (.ofJoinSplit (described (Bytes.zero 32) ⟨Bytes.zero 192⟩) (Bytes.zero 32))
    let j := described (Bytes.zero 32) proof
    let j' := described (Vector.replicate 32 9) proof
    j.ephemeralKey.bytes ≠ j'.ephemeralKey.bytes ∧
      verifyJoinSplit k j (Bytes.zero 32) = true ∧ verifyJoinSplit k j' (Bytes.zero 32) = true ∧
      (j.SameTransfer (Bytes.zero 32) j' (Bytes.zero 32) ∨
        k.DescriptionCollision j (Bytes.zero 32) j' (Bytes.zero 32)) := by
  intro k described proof j j'
  -- the statement has neither the proof nor the ephemeral key in it
  have hstatement (ephemeral : Bytes 32) : Statement.ofJoinSplit (described ephemeral proof) (Bytes.zero 32)
      = .ofJoinSplit (described (Bytes.zero 32) ⟨Bytes.zero 192⟩) (Bytes.zero 32) :=
    Statement.ofJoinSplit_eq_of_sameTransfer ⟨rfl, rfl, rfl, rfl, rfl, rfl, rfl, rfl⟩
  have hverified (ephemeral : Bytes 32) : verifyJoinSplit k (described ephemeral proof) (Bytes.zero 32) = true :=
    k.verifyJoinSplit_of_tag (hstatement ephemeral) rfl
  have hj : verifyJoinSplit k j (Bytes.zero 32) = true := hverified _
  have hj' : verifyJoinSplit k j' (Bytes.zero 32) = true := hverified _
  have hkeys : j.ephemeralKey.bytes ≠ j'.ephemeralKey.bytes := by decide
  exact ⟨hkeys, hj, hj', (verified_not_malleable k).1 j (Bytes.zero 32) j' (Bytes.zero 32) rfl hj hj'⟩

end KeyedSystem

end ShieldedPool
