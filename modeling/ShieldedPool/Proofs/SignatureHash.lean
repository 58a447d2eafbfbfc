import ShieldedPool.JoinSplit
import ShieldedPool.Proofs.Preimages

/-!
# What a signature hash binds

The seed, the nullifiers and the key of the transaction are hashed one after the other (`HSig::new`). There is no count of
the nullifiers, but every part is equally wide, so the string can be read in one way only (`HSig.preimage_inj`). A signature
hash is therefore of one ordered context, and two contexts that share one are a collision (`HSig.compute_eq_iff`). Nullifiers
that are swapped, left out or added make another context.
-/

namespace ShieldedPool

namespace HSig

variable {seed seed' : RandomSeed} {nullifiers nullifiers' : List Nullifier} {signingKey signingKey' : Bytes 32}

/-! ## One part after the other -/

/-- What has been fed to a hash, with one more part. -/
def update {n : Nat} (fed : List UInt8) (part : Bytes n) : List UInt8 := fed ++ part.toList

/-- What has been fed to the hash in the end, if the nullifiers are taken up one by one. -/
def fed (seed : RandomSeed) (nullifiers : List Nullifier) (signingKey : Bytes 32) : List UInt8 :=
  update (nullifiers.foldl (fun s n => update s n.bytes) (update [] seed.bytes)) signingKey

theorem foldl_update (s : List UInt8) (nullifiers : List Nullifier) :
    nullifiers.foldl (fun s n => update s n.bytes) s = s ++ nullifiers.flatMap (fun n => n.bytes.toList) := by
  induction nullifiers generalizing s with
  | nil => simp
  | cons n l ih => rw [List.foldl_cons, ih, update, List.flatMap_cons, List.append_assoc]

theorem fed_eq_preimage : fed seed nullifiers signingKey = preimage seed nullifiers signingKey := by
  rw [fed, foldl_update, update, update, List.nil_append, preimage]

/-! ## One context for each hash -/

/-- What a signature hash is hashed with. -/
def hash : List UInt8 → Bytes 32 := Blake2b.hash { personal } 32

/-- **A signature hash is of one context**: the seed, the nullifiers in their order, and the key. -/
theorem compute_eq_or_collision (h : compute seed nullifiers signingKey = compute seed' nullifiers' signingKey') :
    (seed = seed' ∧ nullifiers = nullifiers' ∧ signingKey = signingKey') ∨
      Collision hash (preimage seed nullifiers signingKey) (preimage seed' nullifiers' signingKey') := by
  have hhash : hash (preimage seed nullifiers signingKey) = hash (preimage seed' nullifiers' signingKey') :=
    congrArg HSig.bytes h
  rcases eq_or_collision hhash with hpre | hc
  · exact Or.inl (preimage_inj.1 hpre)
  · exact Or.inr hc

theorem compute_eq_iff :
    compute seed nullifiers signingKey = compute seed' nullifiers' signingKey' ↔
      (seed = seed' ∧ nullifiers = nullifiers' ∧ signingKey = signingKey') ∨
        Collision hash (preimage seed nullifiers signingKey) (preimage seed' nullifiers' signingKey') := by
  constructor
  · exact compute_eq_or_collision
  · rintro (⟨rfl, rfl, rfl⟩ | hc)
    · rfl
    · exact HSig.ext hc.eq

end HSig

def JoinSplit.hSigPreimage (j : JoinSplit) (signingKey : Bytes 32) : List UInt8 :=
  HSig.preimage j.randomSeed j.nullifiers.toList signingKey

/-- **Descriptions share a signature hash** only with their seed, their nullifiers and the key of their transaction. -/
theorem JoinSplit.hSig_eq_iff {j j' : JoinSplit} {signingKey signingKey' : Bytes 32} :
    j.hSig signingKey = j'.hSig signingKey' ↔
      (j.randomSeed = j'.randomSeed ∧ j.nullifiers = j'.nullifiers ∧ signingKey = signingKey') ∨
        Collision HSig.hash (j.hSigPreimage signingKey) (j'.hSigPreimage signingKey') := by
  rw [hSig, hSig, HSig.compute_eq_iff, Vector.toList_inj]
  rfl

/-- **A signature hash binds the whole context, in order.** What is fed to the hash, part by part, is the same string for two
contexts just when the seeds are equal, the nullifiers are the same in the same order, however many they are, and the keys are
equal. All strings are hashed under one personalization, so of two different contexts the signature hashes are equal just when
the two strings collide. This holds of the contexts of any two descriptions. -/
theorem HSig.binds_context (seed seed' : RandomSeed) (nullifiers nullifiers' : List Nullifier)
    (signingKey signingKey' : Bytes 32) :
    (compute seed nullifiers signingKey).bytes
      = Blake2b.hash { personal := personal } 32 (fed seed nullifiers signingKey) ∧
    (fed seed nullifiers signingKey = fed seed' nullifiers' signingKey' ↔
      seed = seed' ∧ nullifiers = nullifiers' ∧ signingKey = signingKey') ∧
    (¬ (seed = seed' ∧ nullifiers = nullifiers' ∧ signingKey = signingKey') →
      (compute seed nullifiers signingKey = compute seed' nullifiers' signingKey' ↔
        Collision hash (fed seed nullifiers signingKey) (fed seed' nullifiers' signingKey'))) ∧
    ∀ j j' : JoinSplit, j.hSig signingKey = j'.hSig signingKey' ↔
      (j.randomSeed = j'.randomSeed ∧ j.nullifiers = j'.nullifiers ∧ signingKey = signingKey') ∨
        Collision hash (j.hSigPreimage signingKey) (j'.hSigPreimage signingKey') := by
  simp only [fed_eq_preimage]
  refine ⟨rfl, preimage_inj, fun hdifferent => ?_, fun _ _ => JoinSplit.hSig_eq_iff⟩
  rw [compute_eq_iff]
  exact or_iff_right hdifferent

end ShieldedPool
