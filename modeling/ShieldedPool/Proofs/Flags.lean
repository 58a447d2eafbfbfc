import ShieldedPool.Proofs.Numbering
import ShieldedPool.Proofs.Proving

/-!
# What the flags of a request change

A request says whether a proof is created (`without_proof`) and whether the ephemeral secret is handed out
(`with_payment_disclosure`). Neither is looked at by the check, and neither has a part in what is drawn: the proof is created
after the last draw, and the secret is drawn in any case. So the four runs of one request on one stream fail alike or publish
the same transfer (`flags_independent`), and a secret that is handed out is the one that the outputs have been encrypted with
(`resultOf_disclosedBy`).
-/

namespace ShieldedPool

/-- The request with other flags. -/
def ProveRequest.withFlags (r : ProveRequest) (computeProof paymentDisclosure : Bool) : ProveRequest :=
  { r with computeProof, paymentDisclosure }

/-- What goes to the recipients, each plaintext with the key that it is sent to, in order. -/
def ProveRequest.deliveries (r : ProveRequest) (notes : Vector Note 2) : List (X25519.PublicKey × NotePlaintext) :=
  [(r.recipient .first, r.plaintext notes .first), (r.recipient .second, r.plaintext notes .second)]

namespace ProvedJoinSplit

/-- What two results have in common if they differ only in what the flags ask for. -/
structure AlikeUpToFlags (p q : ProvedJoinSplit) : Prop where
  statement_eq : p.statement = q.statement
  randomSeed_eq : p.randomSeed = q.randomSeed
  ephemeralKey_eq : p.ephemeralKey = q.ephemeralKey
  ciphertexts_eq : p.ciphertexts = q.ciphertexts
  outputNotes_eq : p.outputNotes = q.outputNotes

/-- A secret that shows what a result's outputs are: it belongs to the ephemeral key, and whoever encrypts the plaintexts with
it again gets the same ciphertexts. -/
structure DisclosedBy (p : ProvedJoinSplit) (r : ProveRequest) (secret : Bytes 32) : Prop where
  publicKey_eq : X25519.publicKey secret = p.ephemeralKey
  encryptAll_eq : (NoteEncryptor.encryptAll { secret, hSig := p.hSig } (r.deliveries p.outputNotes)).1
    = p.ciphertexts.toList.map .ok

end ProvedJoinSplit

namespace ProveRequest

variable {σ : Type} [ProofSystem σ] {system : σ} (r : ProveRequest) (x : ProveSecrets) (c d c' d' : Bool)

/-! ## What the flags do not change -/

theorem check_withFlags : (r.withFlags c d).check = r.check := rfl

theorem statementOf_withFlags : (r.withFlags c d).statementOf x = r.statementOf x := rfl

theorem auxiliaryOf_withFlags : (r.withFlags c d).auxiliaryOf x = r.auxiliaryOf x := rfl

theorem resultOf_alikeUpToFlags (proof proof' : Option ZkProof) :
    ((r.withFlags c d).resultOf x proof).AlikeUpToFlags ((r.withFlags c' d').resultOf x proof') :=
  ⟨rfl, rfl, rfl, rfl, rfl⟩

/-- **The secret of a run discloses its outputs.** Encrypting anew starts from the first number, as the run has done. -/
theorem resultOf_disclosedBy (proof : Option ZkProof) :
    ((r.withFlags c d).resultOf x proof).DisclosedBy r x.ephemeral := by
  refine ⟨rfl, ?_⟩
  -- a fresh encryptor gives the numbers 0 and 1 to the outputs, and so does the run
  rw [NoteEncryptor.fst_encryptAll_fresh]
  rfl

end ProveRequest

/-! ## The four runs -/

/-- A request that passes its check succeeds under all flags, if a proof can be created. -/
theorem prove_withFlags {σ : Type} [ProofSystem σ] {system : σ} {r : ProveRequest} {e : Entropy} {proof : ZkProof}
    (hr : r.Valid)
    (hproof : ProofSystem.createProof system (r.statementOf e.secrets) (r.auxiliaryOf e.secrets) = .ok proof)
    (c d : Bool) :
    (prove system (r.withFlags c d)).run.run e
      = (.ok ((r.withFlags c d).resultOf e.secrets (if c then some proof else none)), e.skip 160) := by
  rw [← r.statementOf_withFlags e.secrets c d, ← r.auxiliaryOf_withFlags e.secrets c d] at hproof
  rw [prove_run, r.check_withFlags c d, ProveRequest.check_eq_ok_iff.2 hr,
    ProveRequest.proofOf_eq_of_createProof hproof]
  rfl

/-- **The flags change nothing but what they ask for.** If the proof system can prove what it is given, the four runs of a
request on one stream all fail with one error, before anything is drawn, or all take the same bytes and come to the same
statement, seed, ephemeral key, ciphertexts and notes. The proof is there if it is asked for, and so is the secret, which then
belongs to the ephemeral key and encrypts the outputs to the same ciphertexts again. -/
theorem flags_independent {σ : Type} [ProofSystem σ] (system : σ) (r : ProveRequest) (e : Entropy)
    (hcreate : r.Valid →
      ∃ proof, ProofSystem.createProof system (r.statementOf e.secrets) (r.auxiliaryOf e.secrets) = .ok proof) :
    (∃ cause, ∀ c d, (prove system (r.withFlags c d)).run.run e = (.error cause, e)) ∨
    ∃ p : Bool → Bool → ProvedJoinSplit,
      (∀ c d, (prove system (r.withFlags c d)).run.run e = (.ok (p c d), e.skip 160)) ∧
      (∀ c d c' d', (p c d).AlikeUpToFlags (p c' d')) ∧
      (∀ c d, (p c d).proof.isSome = c ∧ (p c d).ephemeralSecret.isSome = d) ∧
      ∀ c d secret, (p c d).ephemeralSecret = some secret → (p c d).DisclosedBy r secret := by
  cases hcheck : r.check with
  | error cause =>
    refine Or.inl ⟨cause, fun c d => ?_⟩
    rw [prove_run, r.check_withFlags c d, hcheck]
  | ok u =>
    have hr : r.Valid := ProveRequest.check_eq_ok_iff.1 hcheck
    obtain ⟨proof, hproof⟩ := hcreate hr
    refine Or.inr ⟨_, prove_withFlags hr hproof, fun c d c' d' => r.resultOf_alikeUpToFlags _ _ _ _ _ _ _, fun c d => ?_,
      fun c d secret hsecret => ?_⟩
    · cases c <;> cases d <;> exact ⟨rfl, rfl⟩
    · cases d with
      | false => cases hsecret
      | true =>
        obtain rfl : e.secrets.ephemeral = secret := Option.some.inj hsecret
        exact r.resultOf_disclosedBy e.secrets c true _

/-- Two outputs of different values go to two recipients. A run without a proof that hands out the secret is compared with one
that creates a proof and keeps the secret. -/
theorem flags_independent_disclosed :
    let spendingKey := SpendingKey.ofBytes (Bytes.zero 32)
    let dummy : Note := ⟨spendingKey.payingKey, .zero, ⟨Bytes.zero 32⟩, ⟨Bytes.zero 32⟩⟩
    let spent : SpentNote := ⟨spendingKey, dummy, .single dummy.commitment⟩
    let paid (key : Bytes 32) (value : Amount) : RequestedOutput := ⟨⟨dummy.payingKey, ⟨key⟩⟩, value, .none⟩
    let r : ProveRequest :=
      { inputs := #v[spent, spent]
        outputs := #v[paid (Vector.replicate 32 9) ⟨3, by decide⟩, paid (Vector.replicate 32 7) ⟨2, by decide⟩]
        anchor := ⟨Bytes.zero 32⟩, vpubOld := ⟨5, by decide⟩, vpubNew := .zero, signingKey := Bytes.zero 32 }
    let k : KeyedSystem := ⟨Bytes.zero 32⟩
    let e : Entropy := .cycle [9, 8]
    r.Valid ∧ (∃ proof, ProofSystem.createProof k (r.statementOf e.secrets) (r.auxiliaryOf e.secrets) = .ok proof) ∧
      ∃ p : Bool → Bool → ProvedJoinSplit,
        (∀ c d, (prove k (r.withFlags c d)).run.run e = (.ok (p c d), e.skip 160)) ∧
        (p false true).AlikeUpToFlags (p true false) ∧ (p false true).proof.isSome = false ∧
        (p true false).proof.isSome = true ∧ (p true false).ephemeralSecret.isSome = false ∧
        ∃ secret, (p false true).ephemeralSecret = some secret ∧ (p false true).DisclosedBy r secret := by
  intro spendingKey dummy spent paid r k e
  have hvalid : r.Valid :=
    ⟨Index.forall_iff.2 ⟨⟨rfl, fun h => absurd rfl h⟩, ⟨rfl, fun h => absurd rfl h⟩⟩, ⟨rfl, by decide⟩⟩
  have hproof := hvalid.createProof_keyed e.secrets k
  refine ⟨hvalid, ⟨_, hproof⟩, ?_⟩
  rcases flags_independent k r e fun _ => ⟨_, hproof⟩ with ⟨cause, hfail⟩ | ⟨p, hrun, halike, hflags, hdisclosed⟩
  -- the request is valid, so its run does not fail
  · have hend := (hfail true false).symm.trans (prove_withFlags hvalid hproof true false)
    cases congrArg Prod.fst hend
  · obtain ⟨hnone, hsome⟩ := hflags false true
    obtain ⟨secret, hsecret⟩ := Option.isSome_iff_exists.1 hsome
    exact ⟨p, hrun, halike _ _ _ _, hnone, (hflags true false).1, (hflags true false).2, secret, hsecret,
      hdisclosed _ _ _ hsecret⟩

end ShieldedPool
