import ShieldedPool.Proofs.Randomness
import ShieldedPool.Proofs.SignatureHash

/-!
# Output seeds do not repeat

Two notes with one seed under one spending key have one nullifier, and only one of them could ever be spent. The seed of an
output (`output_rho`) comes from a secret of its run, the number of the output and the signature hash, and the signature hash
from a fresh seed, the nullifiers and the key of the transaction. So outputs that share a seed are one output of one context,
in this run or between any two (`output_seeds_never_repeat`), unless a hash collides.
-/

namespace ShieldedPool

/-- The block that the seed of output `i` is compressed from. -/
def ProveSecrets.rhoBlock (x : ProveSecrets) (hSig : HSig) (i : Index) : Bytes 64 := Prf.block (.rho i) x.phi hSig.bytes

/-- The secret is masked when it is drawn, just as it is when a seed is derived from it. -/
theorem Entropy.mask252_phi_secrets (e : Entropy) : Prf.mask252 e.secrets.phi = e.secrets.phi :=
  SpendingKey.mask252_mask252 _

namespace ProvedJoinSplit

/-- What the signature hash of a result is computed from. -/
def hSigPreimage (p : ProvedJoinSplit) (signingKey : Bytes 32) : List UInt8 :=
  HSig.preimage p.randomSeed p.statement.nullifiers.toList signingKey

/-- What two results, each under the key that signs its transaction, have in common if an output of one has the seed of an
output of the other. -/
structure SameContext (p : ProvedJoinSplit) (signingKey : Bytes 32) (q : ProvedJoinSplit) (signingKey' : Bytes 32) :
    Prop where
  signingKey_eq : signingKey = signingKey'
  randomSeed_eq : p.randomSeed = q.randomSeed
  nullifiers_eq : p.statement.nullifiers = q.statement.nullifiers

end ProvedJoinSplit

section
variable {σ τ : Type} [ProofSystem σ] [ProofSystem τ] {system : σ} {other : τ} {r s : ProveRequest} {e f : Entropy}
  {p q : ProvedJoinSplit} {i j : Index}

/-- Equal seeds are of the same output, secret and signature hash. -/
theorem hSig_eq_or_collision (hp : ((prove system r).run.run e).1 = .ok p) (hq : ((prove other s).run.run f).1 = .ok q)
    (hrho : (p.outputNotes.get i).rho = (q.outputNotes.get j).rho) :
    (i = j ∧ e.secrets.phi = f.secrets.phi ∧ p.hSig = q.hSig) ∨
      Collision Sha256.compress (e.secrets.rhoBlock p.hSig i) (f.secrets.rhoBlock q.hSig j) := by
  rw [(prove_madeOf hp).rho_eq, (prove_madeOf hq).rho_eq] at hrho
  rcases outputRho_eq_or_collision hrho with ⟨hij, hphi, hsig⟩ | hc
  · have hmask := Prf.mask252_eq_iff_agreeBelow252.2 hphi
    rw [e.mask252_phi_secrets, f.mask252_phi_secrets] at hmask
    exact Or.inl ⟨hij, hmask, hsig⟩
  · exact Or.inr hc

/-- Equal signature hashes are of the same context. -/
theorem sameContext_or_collision (hp : ((prove system r).run.run e).1 = .ok p)
    (hq : ((prove other s).run.run f).1 = .ok q) (hsig : p.hSig = q.hSig) :
    p.SameContext r.signingKey q s.signingKey ∨
      Collision HSig.hash (p.hSigPreimage r.signingKey) (q.hSigPreimage s.signingKey) := by
  rw [(prove_madeOf hp).hSig_eq, (prove_madeOf hq).hSig_eq] at hsig
  rcases HSig.compute_eq_or_collision hsig with ⟨hseed, hnullifiers, hkey⟩ | hc
  · exact Or.inl ⟨hkey, hseed, Vector.toList_inj.1 hnullifiers⟩
  · exact Or.inr hc

end

/-- **Output seeds never repeat.** If an output of one successful run has the seed of an output of another, or of the same,
both are the output of one number, of runs with the same signing key, random seed and nullifiers in order, and with the same
secret. Otherwise the blocks of the two seeds collide, or what the two signature hashes are computed from. The two outputs of
one run have different seeds, unless their blocks collide. -/
theorem output_seeds_never_repeat {σ τ : Type} [ProofSystem σ] [ProofSystem τ] (system : σ) (other : τ)
    (r s : ProveRequest) (e f : Entropy) (p q : ProvedJoinSplit) (hp : ((prove system r).run.run e).1 = .ok p)
    (hq : ((prove other s).run.run f).1 = .ok q) :
    (∀ i j, (p.outputNotes.get i).rho = (q.outputNotes.get j).rho →
      (i = j ∧ e.secrets.phi = f.secrets.phi ∧ p.SameContext r.signingKey q s.signingKey) ∨
      Collision Sha256.compress (e.secrets.rhoBlock p.hSig i) (f.secrets.rhoBlock q.hSig j) ∨
      Collision HSig.hash (p.hSigPreimage r.signingKey) (q.hSigPreimage s.signingKey)) ∧
    ((p.outputNotes.get Index.first).rho ≠ (p.outputNotes.get Index.second).rho ∨
      Collision Sha256.compress (e.secrets.rhoBlock p.hSig .first) (e.secrets.rhoBlock p.hSig .second)) := by
  constructor
  · intro i j hrho
    rcases hSig_eq_or_collision hp hq hrho with ⟨hij, hphi, hsig⟩ | hc
    · rcases sameContext_or_collision hp hq hsig with hcontext | hc
      · exact Or.inl ⟨hij, hphi, hcontext⟩
      · exact Or.inr (Or.inr hc)
    · exact Or.inr (Or.inl hc)
  · by_cases hrho : (p.outputNotes.get Index.first).rho = (p.outputNotes.get Index.second).rho
    -- within one run the context is the same anyway, and only the number tells the outputs apart
    · rcases hSig_eq_or_collision hp hp hrho with ⟨hij, _⟩ | hc
      · exact absurd hij (by decide)
      · exact Or.inr hc
    · exact Or.inl hrho

/-- Two requests for the same notes under the same key are proved with the same randomness: they pay different recipients, but
their second outputs share a seed. -/
theorem output_seeds_never_repeat_reused :
    let spendingKey := SpendingKey.ofBytes (Bytes.zero 32)
    let dummy : Note := ⟨spendingKey.payingKey, .zero, ⟨Bytes.zero 32⟩, ⟨Bytes.zero 32⟩⟩
    let spent : SpentNote := ⟨spendingKey, dummy, .single dummy.commitment⟩
    let paid (payee : Bytes 32) (value : Amount) : RequestedOutput := ⟨⟨⟨payee⟩, ⟨Vector.replicate 32 9⟩⟩, value, .none⟩
    let r : ProveRequest :=
      { inputs := #v[spent, spent], outputs := #v[paid (Bytes.zero 32) .zero, paid (Bytes.zero 32) .zero]
        anchor := ⟨Bytes.zero 32⟩, vpubOld := .zero, vpubNew := .zero, signingKey := Bytes.zero 32 }
    let s : ProveRequest :=
      { r with outputs := #v[paid (Vector.replicate 32 1) ⟨2, by decide⟩, paid (Vector.replicate 32 1) ⟨3, by decide⟩]
               vpubOld := ⟨5, by decide⟩ }
    let k : KeyedSystem := ⟨Bytes.zero 32⟩
    let e : Entropy := .cycle [9, 8]
    ∃ p q, ((prove k r).run.run e).1 = .ok p ∧ ((prove k s).run.run e).1 = .ok q ∧
      p.outputNotes.get Index.second ≠ q.outputNotes.get Index.second ∧
      (p.outputNotes.get Index.second).rho = (q.outputNotes.get Index.second).rho ∧
      ((Index.second = Index.second ∧ e.secrets.phi = e.secrets.phi ∧ p.SameContext r.signingKey q s.signingKey) ∨
        Collision Sha256.compress (e.secrets.rhoBlock p.hSig .second) (e.secrets.rhoBlock q.hSig .second) ∨
        Collision HSig.hash (p.hSigPreimage r.signingKey) (q.hSigPreimage s.signingKey)) := by
  intro spendingKey dummy spent paid r s k e
  have hr : r.Valid :=
    ⟨Index.forall_iff.2 ⟨⟨rfl, fun h => absurd rfl h⟩, ⟨rfl, fun h => absurd rfl h⟩⟩, ⟨rfl, by decide⟩⟩
  have hs : s.Valid :=
    ⟨Index.forall_iff.2 ⟨⟨rfl, fun h => absurd rfl h⟩, ⟨rfl, fun h => absurd rfl h⟩⟩, ⟨rfl, by decide⟩⟩
  have hp := congrArg Prod.fst (prove_keyed_of_valid hr k e)
  have hq := congrArg Prod.fst (prove_keyed_of_valid hs k e)
  have hnotes : r.noteOf e.secrets .second ≠ s.noteOf e.secrets .second := fun h =>
    absurd (congrArg (fun n => n.value.zatoshis) h) (by decide)
  -- both requests spend the same inputs, so the seeds are equal before anything is hashed
  have hinputs : s.inputs = r.inputs := rfl
  have hnullifiers : s.nullifiers = r.nullifiers := by rw [ProveRequest.nullifiers, ProveRequest.nullifiers, hinputs]
  have hsig : r.hSigOf e.secrets = s.hSigOf e.secrets := by rw [ProveRequest.hSigOf, ProveRequest.hSigOf, hnullifiers]
  have hrho : (r.noteOf e.secrets .second).rho = (s.noteOf e.secrets .second).rho :=
    congrArg (outputRho e.secrets.phi Index.second) hsig
  exact ⟨_, _, hp, hq, hnotes, hrho, (output_seeds_never_repeat k k r s e e _ _ hp hq).1 Index.second Index.second hrho⟩

end ShieldedPool
