import ShieldedPool.Proofs.Preimages
import ShieldedPool.Proofs.Proving

/-!
# What a run draws

A run of `prove` (`Prover::prove`) fails before it draws, or else takes 160 bytes. These are five secrets one after another
(`Entropy.takenInOrder_secrets`), and every part of a result is made of the secret that was drawn for it (`prove_madeOf`). No
byte belongs to two of them, so any five secrets can come together (`exists_secrets_eq`).
-/

namespace ShieldedPool

/-! ## The bytes of the stream -/

namespace Entropy

/-- Bytes that are taken in one go can as well be taken in two. -/
theorem ahead_add (e : Entropy) (start m n : Nat) :
    (e.ahead start (m + n)).toList = (e.ahead start m).toList ++ (e.ahead (start + m) n).toList := by
  simp only [ahead, slice, Vector.toList_ofFn, List.ofFn_add, Fin.val_natAdd, Fin.val_castLE, Nat.add_assoc]

/-- A stream begins with the list that it repeats. -/
theorem ahead_cycle {n start : Nat} {l : List UInt8} {b : Bytes n} (before after : List UInt8)
    (hl : l = before ++ (b.toList ++ after)) (hstart : before.length = start) : (cycle l).ahead start n = b := by
  refine Vector.ext fun i hi => ?_
  have hlen : before.length + i < l.length := by
    rw [hl, List.length_append, List.length_append, Vector.length_toList]
    omega
  have hbyte : l[before.length + i]? = some b[i] := by
    rw [hl, List.getElem?_append_right (by omega), List.getElem?_append_left (by simp; omega)]
    simp [hi]
  simp [ahead, slice, cycle, ← hstart, Nat.mod_eq_of_lt hlen, hbyte]

end Entropy

/-! ## The order of the secrets -/

/-- The bytes that are taken are those of the secrets, one after another; the four high bits of `phi` are cleared
afterwards. -/
def ProveSecrets.TakenInOrder (x : ProveSecrets) (taken : Bytes 160) : Prop :=
  ∃ phi : Bytes 32, x.phi = Prf.mask252 phi ∧
    taken.toList = x.seed.bytes.toList ++ phi.toList ++ (x.rcm.get Index.first).bytes.toList
      ++ (x.rcm.get Index.second).bytes.toList ++ x.ephemeral.toList

theorem Entropy.takenInOrder_secrets (e : Entropy) : e.secrets.TakenInOrder (e.ahead 0 160) := by
  refine ⟨e.ahead 32 32, rfl, ?_⟩
  rw [e.ahead_add 0 128 32, e.ahead_add 0 96 32, e.ahead_add 0 64 32, e.ahead_add 0 32 32]
  rfl

/-- **The secrets are independent**: any five of them can be drawn in one run. -/
theorem exists_secrets_eq {x : ProveSecrets} (hphi : Prf.mask252 x.phi = x.phi) : ∃ e : Entropy, e.secrets = x := by
  obtain ⟨⟨seed⟩, phi, rcm, ephemeral⟩ := x
  obtain ⟨⟨first⟩, ⟨second⟩, rfl⟩ := Decoder.exists_eq_pair rcm
  let l := seed.toList ++ phi.toList ++ first.toList ++ second.toList ++ ephemeral.toList
  refine ⟨.cycle l, ?_⟩
  have hseed : (Entropy.cycle l).ahead 0 32 = seed :=
    Entropy.ahead_cycle [] (phi.toList ++ first.toList ++ second.toList ++ ephemeral.toList) (by simp [l]) rfl
  have hdrawn : (Entropy.cycle l).ahead 32 32 = phi :=
    Entropy.ahead_cycle seed.toList (first.toList ++ second.toList ++ ephemeral.toList) (by simp [l]) (by simp)
  have hfirst : (Entropy.cycle l).ahead 64 32 = first :=
    Entropy.ahead_cycle (seed.toList ++ phi.toList) (second.toList ++ ephemeral.toList) (by simp [l]) (by simp)
  have hsecond : (Entropy.cycle l).ahead 96 32 = second :=
    Entropy.ahead_cycle (seed.toList ++ phi.toList ++ first.toList) ephemeral.toList (by simp [l]) (by simp)
  have hephemeral : (Entropy.cycle l).ahead 128 32 = ephemeral :=
    Entropy.ahead_cycle (seed.toList ++ phi.toList ++ first.toList ++ second.toList) [] (by simp [l]) (by simp)
  have hmask : Prf.mask252 phi = phi := hphi
  simp only [Entropy.secrets, hseed, hdrawn, hfirst, hsecond, hephemeral, hmask]

/-! ## What the secrets are used for -/

/-- A result that is made of some secrets, each in the place that it was drawn for. -/
structure ProvedJoinSplit.MadeOf (p : ProvedJoinSplit) (r : ProveRequest) (x : ProveSecrets) : Prop where
  randomSeed_eq : p.randomSeed = x.seed
  hSig_eq : p.hSig = .compute p.randomSeed p.statement.nullifiers.toList r.signingKey
  rho_eq : ∀ i, (p.outputNotes.get i).rho = outputRho x.phi i p.hSig
  rcm_eq : ∀ i, (p.outputNotes.get i).rcm = x.rcm.get i
  ephemeralKey_eq : p.ephemeralKey = X25519.publicKey x.ephemeral
  ciphertext_eq : ∀ i, p.ciphertexts.get i = r.ciphertext p.outputNotes x.ephemeral p.hSig i
  ephemeralSecret_eq : p.ephemeralSecret = if r.paymentDisclosure then some x.ephemeral else none

theorem ProveRequest.resultOf_madeOf (r : ProveRequest) (x : ProveSecrets) (proof : Option ZkProof) :
    (r.resultOf x proof).MadeOf r x where
  randomSeed_eq := rfl
  hSig_eq := rfl
  rho_eq i := congrArg Note.rho (r.get_notesOf x i)
  rcm_eq i := congrArg Note.rcm (r.get_notesOf x i)
  ephemeralKey_eq := rfl
  ciphertext_eq i := r.get_ciphertextsOf x i
  ephemeralSecret_eq := rfl

/-- **Every part of a result has its own secret.** -/
theorem prove_madeOf {σ : Type} [ProofSystem σ] {system : σ} {r : ProveRequest} {e : Entropy} {p : ProvedJoinSplit}
    (hp : ((prove system r).run.run e).1 = .ok p) : p.MadeOf r e.secrets := by
  obtain ⟨_, proof, rfl⟩ := prove_eq_ok hp
  exact r.resultOf_madeOf e.secrets proof

/-! ## Runs -/

/-- **A run draws all or nothing, in one order.** If the request is refused, nothing has been taken, and it is refused with
the same error under every stream and by every proof system, so none has been asked. Otherwise, whether the result is a
JoinSplit or the failure of the proof system, exactly 160 bytes have been taken. They are the seed, `phi`, the trapdoors of
both outputs and the ephemeral secret, in this order and each used once, and they may be any. -/
theorem prove_draws_in_order {σ : Type} [ProofSystem σ] (system : σ) (r : ProveRequest) (e : Entropy) :
    (∀ cause, ((prove system r).run.run e).1 = .error cause → cause.kind ≠ .backend →
      ((prove system r).run.run e).2 = e ∧
        ∀ (τ : Type) [ProofSystem τ] (other : τ) (f : Entropy), (prove other r).run.run f = (.error cause, f)) ∧
    (∀ cause, ((prove system r).run.run e).1 = .error cause → cause.kind = .backend →
      ((prove system r).run.run e).2 = e.skip 160 ∧ r.computeProof = true ∧
        ∃ c, ProofSystem.createProof system (r.statementOf e.secrets) (r.auxiliaryOf e.secrets) = .error c ∧
          cause = .backend c) ∧
    (∀ p, ((prove system r).run.run e).1 = .ok p →
      ((prove system r).run.run e).2 = e.skip 160 ∧ p.MadeOf r e.secrets) ∧
    e.secrets.TakenInOrder (e.ahead 0 160) ∧
    ∀ x : ProveSecrets, Prf.mask252 x.phi = x.phi → ∃ f : Entropy, f.secrets = x := by
  have horder := e.takenInOrder_secrets
  have hany (x : ProveSecrets) (hphi : Prf.mask252 x.phi = x.phi) : ∃ f : Entropy, f.secrets = x := exists_secrets_eq hphi
  rcases prove_cases system r e with ⟨c, hcheck, hkind, hend⟩ | ⟨c, _, hasked, hcreate, hend⟩ | ⟨_, proof, hend⟩
  -- refused: the check looks at the request only
  · have hrefused (τ : Type) [ProofSystem τ] (other : τ) (f : Entropy) : (prove other r).run.run f = (.error c, f) := by
      rw [prove_run, hcheck]
    rw [hend]
    refine ⟨?_, ?_, ?_, horder, hany⟩
    · rintro _ ⟨⟩ _
      exact ⟨rfl, hrefused⟩
    · rintro _ ⟨⟩ hbackend
      exact absurd hbackend hkind
    · rintro _ ⟨⟩
  -- the proof system has been asked, and failed
  · rw [hend]
    refine ⟨?_, ?_, ?_, horder, hany⟩
    · rintro _ ⟨⟩ hbackend
      exact absurd rfl hbackend
    · rintro _ ⟨⟩ _
      exact ⟨rfl, hasked, c, hcreate, rfl⟩
    · rintro _ ⟨⟩
  · rw [hend]
    refine ⟨?_, ?_, ?_, horder, hany⟩
    · rintro _ ⟨⟩
    · rintro _ ⟨⟩
    · rintro _ ⟨⟩
      exact ⟨rfl, r.resultOf_madeOf e.secrets proof⟩

end ShieldedPool
