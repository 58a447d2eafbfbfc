import ShieldedPool.Proofs.Relation
import ShieldedPool.Proving
import ShieldedPool.System.Keyed

/-!
# What proving does

A run of `prove` (`Prover::prove`) is a function of the request and of what it draws: `prove_run` says what comes out and how
many bytes are taken, and `prove_cases` how it can end. The request is checked for `Valid`, and from a valid request the
statement and the auxiliary input that are built satisfy the relation (`Valid.satisfies`), whatever was drawn. So with keyed
proofs nothing but an invalid request can fail.
-/

namespace ShieldedPool

/-! ## Runs -/

section
variable {ε α β : Type} {e : Entropy}

theorem run_bind (x : ExceptT ε Draw α) (f : α → ExceptT ε Draw β) :
    (x >>= f).run.run e = match x.run.run e with
      | (.ok a, e') => (f a).run.run e'
      | (.error cause, e') => (.error cause, e') := by
  change (match x.run.run e with | (a, e') => ExceptT.bindCont f a e') = _
  rcases x.run.run e with ⟨_ | _, _⟩ <;> rfl

theorem run_except (x : Except ε α) : (liftM x : ExceptT ε Draw α).run.run e = (x, e) := by
  cases x <;> rfl

theorem run_draw (d : Draw α) : (liftM d : ExceptT ε Draw α).run.run e = (.ok (d.run e).1, (d.run e).2) := rfl

end

namespace Entropy

/-- The stream after `n` more bytes have been taken. -/
def skip (e : Entropy) (n : Nat) : Entropy := { e with taken := e.taken + n }

@[simp] theorem skip_taken (e : Entropy) (n : Nat) : (e.skip n).taken = e.taken + n := rfl

@[simp] theorem skip_slice (e : Entropy) (n start m : Nat) : (e.skip n).slice start m = e.slice start m := rfl

@[simp] theorem skip_skip (e : Entropy) (n m : Nat) : (e.skip n).skip m = e.skip (n + m) := by
  simp only [skip, Nat.add_assoc]

/-- The bytes from `start` on, counted from what has been taken. -/
def ahead (e : Entropy) (start n : Nat) : Bytes n := e.slice (e.taken + start) n

@[simp] theorem skip_ahead (e : Entropy) (n start m : Nat) : (e.skip n).ahead start m = e.ahead (n + start) m := by
  simp only [ahead, skip_taken, skip_slice, Nat.add_assoc]

end Entropy

section
variable (e : Entropy) (h : HSig) (r : ProveRequest) (phi : Bytes 32) (i : Index)

theorem drawBytes_run (n : Nat) : (drawBytes n).run e = (e.ahead 0 n, e.skip n) := rfl

theorem RandomSeed.draw_run : RandomSeed.draw.run e = (⟨e.ahead 0 32⟩, e.skip 32) := rfl

theorem NoteEncryptor.draw_run : (draw h).run e = ({ secret := e.ahead 0 32, hSig := h }, e.skip 32) := rfl

theorem ProveRequest.drawOutput_run :
    (r.drawOutput phi h i).run e = (⟨(r.outputs.get i).address.payingKey, (r.outputs.get i).value, outputRho phi i h,
      ⟨e.ahead 0 32⟩⟩, e.skip 32) := rfl

end

/-! ## What is drawn, and what is made of it -/

/-- The secrets of one run, in the order in which they are drawn. -/
structure ProveSecrets where
  seed : RandomSeed
  phi : Bytes 32
  rcm : Vector CommitmentRandomness 2
  ephemeral : Bytes 32

/-- The secrets at the head of a stream. -/
def Entropy.secrets (e : Entropy) : ProveSecrets where
  seed := ⟨e.ahead 0 32⟩
  phi := Prf.mask252 (e.ahead 32 32)
  rcm := #v[⟨e.ahead 64 32⟩, ⟨e.ahead 96 32⟩]
  ephemeral := e.ahead 128 32

namespace ProveRequest

variable (r : ProveRequest)

/-- Output `i`, encrypted under the key that has its number. -/
def ciphertext (notes : Vector Note 2) (secret : Bytes 32) (h : HSig) (i : Index) : EncryptedNote :=
  let encryptor : NoteEncryptor := { secret, hSig := h, nonce := UInt8.ofNat i }
  ⟨Aead.encrypt (encryptor.nextKey (r.recipient i)) (r.plaintext notes i).toBytes⟩

/-- Two outputs are too few to exhaust an encryptor. -/
theorem encryptOutputs_eq (notes : Vector Note 2) (secret : Bytes 32) (h : HSig) :
    r.encryptOutputs notes { secret, hSig := h }
      = .ok #v[r.ciphertext notes secret h .first, r.ciphertext notes secret h .second] := by
  have hfirst : NoteEncryptor.encrypt { secret, hSig := h } (r.recipient .first) (r.plaintext notes .first)
      = (.ok (r.ciphertext notes secret h .first), { secret, hSig := h, nonce := 1 }) :=
    if_neg (show (0 : UInt8) ≠ NoteEncryptor.maxNonce by decide)
  have hsecond : NoteEncryptor.encrypt { secret, hSig := h, nonce := 1 } (r.recipient .second) (r.plaintext notes .second)
      = (.ok (r.ciphertext notes secret h .second), { secret, hSig := h, nonce := 2 }) :=
    if_neg (show (1 : UInt8) ≠ NoteEncryptor.maxNonce by decide)
  rw [encryptOutputs, hfirst]
  simp only [hsecond]
  rfl

variable (x : ProveSecrets)

def hSigOf : HSig := .compute x.seed r.nullifiers.toList r.signingKey

def noteOf (i : Index) : Note :=
  ⟨(r.outputs.get i).address.payingKey, (r.outputs.get i).value, outputRho x.phi i (r.hSigOf x), x.rcm.get i⟩

def notesOf : Vector Note 2 := #v[r.noteOf x .first, r.noteOf x .second]

def ciphertextsOf : Vector EncryptedNote 2 :=
  #v[r.ciphertext (r.notesOf x) x.ephemeral (r.hSigOf x) .first, r.ciphertext (r.notesOf x) x.ephemeral (r.hSigOf x) .second]

def statementOf : Statement := r.statement (r.hSigOf x) (r.notesOf x)

def auxiliaryOf : AuxiliaryInput := ⟨x.phi, r.inputs, r.notesOf x⟩

/-- What the proof system answers, if it is asked. -/
def proofOf {σ : Type} [ProofSystem σ] (system : σ) : Except ProveError (Option ZkProof) :=
  if r.computeProof then
    ((ProofSystem.createProof system (r.statementOf x) (r.auxiliaryOf x)).mapError ProveError.backend).map some
  else .ok none

def resultOf (proof : Option ZkProof) : ProvedJoinSplit where
  statement := r.statementOf x
  randomSeed := x.seed
  ephemeralKey := X25519.publicKey x.ephemeral
  ciphertexts := r.ciphertextsOf x
  outputNotes := r.notesOf x
  proof := proof
  ephemeralSecret := if r.paymentDisclosure then some x.ephemeral else none

theorem get_notesOf (i : Index) : (r.notesOf x).get i = r.noteOf x i :=
  (Index.forall_iff (p := fun i => (r.notesOf x).get i = r.noteOf x i)).2 ⟨rfl, rfl⟩ i

theorem get_ciphertextsOf (i : Index) :
    (r.ciphertextsOf x).get i = r.ciphertext (r.notesOf x) x.ephemeral (r.hSigOf x) i :=
  (Index.forall_iff (p := fun i => (r.ciphertextsOf x).get i = r.ciphertext (r.notesOf x) x.ephemeral (r.hSigOf x) i)).2
    ⟨rfl, rfl⟩ i

end ProveRequest

theorem run_proof (y : Except ProverError ZkProof) (f : Option ZkProof → ProvedJoinSplit) (e : Entropy) :
    (do let proof ← some <$> (liftM (y.mapError ProveError.backend) : ExceptT ProveError Draw ZkProof)
        pure (f proof)).run.run e = (((y.mapError ProveError.backend).map some).map f, e) := by
  cases y <;> rfl

/-- **What a run of `prove` does.** A request that fails its check fails with that error, before anything is drawn. Otherwise
the run takes 160 bytes, and the result is made of them and of the proof. -/
theorem prove_run {σ : Type} [ProofSystem σ] (system : σ) (r : ProveRequest) (e : Entropy) :
    (prove system r).run.run e = match r.check with
      | .error cause => (.error cause, e)
      | .ok () => ((r.proofOf e.secrets system).map (r.resultOf e.secrets), e.skip 160) := by
  unfold prove
  simp only [run_bind, run_except, run_draw, drawBytes_run, RandomSeed.draw_run, NoteEncryptor.draw_run,
    ProveRequest.drawOutput_run, Entropy.skip_skip, Entropy.skip_ahead, Nat.reduceAdd]
  cases r.check with
  | error cause => rfl
  | ok u =>
    dsimp only
    rw [ProveRequest.encryptOutputs_eq]
    unfold ProveRequest.proofOf
    cases r.computeProof with
    | false => rfl
    | true => exact run_proof _ (r.resultOf e.secrets) _

/-! ## Valid requests -/

namespace ProveRequest

variable {r : ProveRequest} {i : Index}

def inputValues (r : ProveRequest) : List Amount := r.inputs.toList.map fun n => n.note.value

def outputValues (r : ProveRequest) : List Amount := r.outputs.toList.map RequestedOutput.value

/-- A request that a JoinSplit can come of. -/
structure Valid (r : ProveRequest) : Prop where
  spendable : ∀ i, (r.inputs.get i).Spendable r.anchor
  balanced : Balanced r.vpubOld r.inputValues r.vpubNew r.outputValues

theorem checkInput_eq_ok_iff : r.checkInput i = .ok () ↔ (r.inputs.get i).Spendable r.anchor := by
  by_cases hz : (r.inputs.get i).note.value.isZero
  · have hv := Amount.isZero_iff.1 hz
    simp only [checkInput, if_pos hz, guard_eq_ok_iff]
    constructor
    · rintro ⟨hk, _⟩; exact ⟨hk, fun h => absurd hv h⟩
    · rintro ⟨hk, _⟩; exact ⟨hk, rfl⟩
  · have hv := mt Amount.isZero_iff.2 hz
    simp only [checkInput, if_neg hz, guard_bind_eq_ok_iff, guard_eq_ok_iff]
    constructor
    · rintro ⟨hr, he, hk, _⟩; exact ⟨hk, fun _ => ⟨hr, he⟩⟩
    · rintro ⟨hk, hw⟩
      obtain ⟨hr, he⟩ := hw hv
      exact ⟨hr, he, hk, rfl⟩

theorem check_eq_ok_iff : r.check = .ok () ↔ r.Valid := by
  simp only [check, seq_eq_ok_iff, checkInput_eq_ok_iff, mapError_eq_ok_iff, checkBalance_eq_ok_iff]
  constructor
  · rintro ⟨h0, h1, hb⟩; exact ⟨Index.forall_iff.2 ⟨h0, h1⟩, hb⟩
  · rintro ⟨hi, hb⟩; exact ⟨hi Index.first, hi Index.second, hb⟩

theorem checkInput_error_kind {cause : ProveError} (h : r.checkInput i = .error cause) : cause.kind ≠ .backend := by
  simp only [checkInput] at h
  by_cases hz : (r.inputs.get i).note.value.isZero
  · rw [if_pos hz] at h
    rcases guard_eq_error_iff.1 h with ⟨_, ⟨⟩⟩ | ⟨_, rfl⟩
    exact ProveErrorKind.noConfusion
  · rw [if_neg hz] at h
    rcases guard_eq_error_iff.1 h with ⟨_, h⟩ | ⟨_, rfl⟩
    · rcases guard_eq_error_iff.1 h with ⟨_, h⟩ | ⟨_, rfl⟩
      · rcases guard_eq_error_iff.1 h with ⟨_, ⟨⟩⟩ | ⟨_, rfl⟩
        exact ProveErrorKind.noConfusion
      · exact ProveErrorKind.noConfusion
    · exact ProveErrorKind.noConfusion

/-- A check that fails does not put the blame on the proof system. -/
theorem check_error_kind {cause : ProveError} (h : r.check = .error cause) : cause.kind ≠ .backend := by
  rcases seq_eq_error_iff.1 h with h | ⟨_, h⟩
  · exact checkInput_error_kind h
  · rcases seq_eq_error_iff.1 h with h | ⟨_, h⟩
    · exact checkInput_error_kind h
    · obtain ⟨c, _, rfl⟩ := mapError_eq_error_iff.1 h
      exact ProveErrorKind.noConfusion

/-! ## The statement holds -/

/-- **What is built from a valid request satisfies the relation**, whatever was drawn. -/
theorem Valid.satisfies (hr : r.Valid) (x : ProveSecrets) : (r.auxiliaryOf x).Satisfies (r.statementOf x) := by
  have hrho (i : Index) : ((r.auxiliaryOf x).outputs.get i).rho = outputRho x.phi i (r.hSigOf x) :=
    congrArg Note.rho (r.get_notesOf x i)
  have hvalues : (r.auxiliaryOf x).outputValues = r.outputValues := by
    rw [AuxiliaryInput.outputValues, outputValues, toList_pair, toList_pair]
    rfl
  have hbalanced := hr.balanced
  rw [← hvalues] at hbalanced
  exact AuxiliaryInput.satisfies_statement hr.spendable hrho hbalanced

/-- The description makes the statement that was proved. -/
theorem ofJoinSplit_resultOf (r : ProveRequest) (x : ProveSecrets) (proof : Option ZkProof) :
    Statement.ofJoinSplit (r.resultOf x proof).toJoinSplit r.signingKey = (r.resultOf x proof).statement := rfl

theorem Valid.createProof_keyed (hr : r.Valid) (x : ProveSecrets) (k : KeyedSystem) :
    ProofSystem.createProof k (r.statementOf x) (r.auxiliaryOf x) = .ok (k.tag (r.statementOf x)) := by
  have hc : (r.auxiliaryOf x).check (r.statementOf x) = .ok () := AuxiliaryInput.check_eq_ok_iff.2 (hr.satisfies x)
  simp only [ProofSystem.createProof, hc]
  rfl

/-- A proof that can be created is there just when it is asked for. -/
theorem proofOf_eq_of_createProof {σ : Type} [ProofSystem σ] {system : σ} {x : ProveSecrets} {proof : ZkProof}
    (hproof : ProofSystem.createProof system (r.statementOf x) (r.auxiliaryOf x) = .ok proof) :
    r.proofOf x system = .ok (if r.computeProof then some proof else none) := by
  unfold proofOf
  cases r.computeProof with
  | false => rfl
  | true => simp only [hproof]; rfl

theorem Valid.proofOf_keyed (hr : r.Valid) (x : ProveSecrets) (k : KeyedSystem) :
    r.proofOf x k = .ok (if r.computeProof then some (k.tag (r.statementOf x)) else none) :=
  proofOf_eq_of_createProof (hr.createProof_keyed x k)

end ProveRequest

/-! ## How a run ends -/

section
variable {σ : Type} [ProofSystem σ] {system : σ} {r : ProveRequest} {e : Entropy}

/-- Once a request has passed its check, only the proof system can fail, and only if it is asked. -/
theorem ProveRequest.proofOf_eq_error_iff {x : ProveSecrets} {cause : ProveError} :
    r.proofOf x system = .error cause ↔ r.computeProof = true ∧
      ∃ c, ProofSystem.createProof system (r.statementOf x) (r.auxiliaryOf x) = .error c ∧ cause = .backend c := by
  unfold proofOf
  by_cases hasked : r.computeProof = true
  · cases hproof : ProofSystem.createProof system (r.statementOf x) (r.auxiliaryOf x) with
    | error c =>
      simp only [hasked, if_true, Except.mapError, Except.map, Except.error.injEq, true_and, exists_eq_left']
      exact eq_comm
    | ok proof => simp [hasked, Except.mapError, Except.map]
  · simp [hasked]

/-- **How a run can end, and what it has taken by then.** -/
theorem prove_cases (system : σ) (r : ProveRequest) (e : Entropy) :
    (∃ cause, r.check = .error cause ∧ cause.kind ≠ .backend ∧ (prove system r).run.run e = (.error cause, e)) ∨
    (∃ cause, r.Valid ∧ r.computeProof = true ∧
      ProofSystem.createProof system (r.statementOf e.secrets) (r.auxiliaryOf e.secrets) = .error cause ∧
      (prove system r).run.run e = (.error (.backend cause), e.skip 160)) ∨
    (r.Valid ∧ ∃ proof, (prove system r).run.run e = (.ok (r.resultOf e.secrets proof), e.skip 160)) := by
  have hrun := prove_run system r e
  cases hcheck : r.check with
  | error cause =>
    rw [hcheck] at hrun
    exact Or.inl ⟨cause, rfl, ProveRequest.check_error_kind hcheck, hrun⟩
  | ok u =>
    have hr : r.Valid := ProveRequest.check_eq_ok_iff.1 hcheck
    rw [hcheck] at hrun
    cases hproof : r.proofOf e.secrets system with
    | error cause =>
      obtain ⟨hasked, c, hcreate, rfl⟩ := ProveRequest.proofOf_eq_error_iff.1 hproof
      rw [hproof] at hrun
      exact Or.inr (Or.inl ⟨c, hr, hasked, hcreate, hrun⟩)
    | ok proof =>
      rw [hproof] at hrun
      exact Or.inr (Or.inr ⟨hr, proof, hrun⟩)

/-- A run that succeeds was of a valid request, and its result is made of what it drew. -/
theorem prove_eq_ok {p : ProvedJoinSplit} (hp : ((prove system r).run.run e).1 = .ok p) :
    r.Valid ∧ ∃ proof, p = r.resultOf e.secrets proof := by
  rcases prove_cases system r e with ⟨c, _, _, hend⟩ | ⟨c, _, _, _, hend⟩ | ⟨hr, proof, hend⟩
  · rw [hend] at hp
    cases hp
  · rw [hend] at hp
    cases hp
  · rw [hend] at hp
    exact ⟨hr, proof, (Except.ok.inj hp).symm⟩

theorem prove_of_not_valid (hr : ¬ r.Valid) (system : σ) (e : Entropy) :
    ∃ cause, cause.kind ≠ .backend ∧ (prove system r).run.run e = (.error cause, e) := by
  rcases prove_cases system r e with ⟨c, _, hkind, hend⟩ | ⟨_, hvalid, _⟩ | ⟨hvalid, _⟩
  · exact ⟨c, hkind, hend⟩
  · exact absurd hvalid hr
  · exact absurd hvalid hr

end

/-! ## Keyed proofs -/

/-- The tag of the statement is the one proof that is accepted. -/
theorem KeyedSystem.verifyJoinSplit_eq_true_iff {k : KeyedSystem} {j : JoinSplit} {signingKey : Bytes 32} :
    verifyJoinSplit k j signingKey = true ↔ j.proof = k.tag (.ofJoinSplit j signingKey) := by
  unfold verifyJoinSplit verify
  by_cases h : k.tag (.ofJoinSplit j signingKey) = j.proof
  · have hv : ProofSystem.verifyProof k (.ofJoinSplit j signingKey) j.proof = .ok () := if_pos h
    rw [hv]
    exact iff_of_true rfl h.symm
  · have hv : ProofSystem.verifyProof k (.ofJoinSplit j signingKey) j.proof = .error .invalidProof := if_neg h
    rw [hv]
    exact iff_of_false Bool.noConfusion (Ne.symm h)

theorem KeyedSystem.verifyJoinSplit_of_tag {j : JoinSplit} {signingKey : Bytes 32} {s : Statement} (k : KeyedSystem)
    (hs : Statement.ofJoinSplit j signingKey = s) (hp : j.proof = k.tag s) : verifyJoinSplit k j signingKey = true := by
  rw [verifyJoinSplit_eq_true_iff, hs, hp]

theorem prove_keyed_of_valid {r : ProveRequest} (hr : r.Valid) (k : KeyedSystem) (e : Entropy) :
    (prove k r).run.run e
      = (.ok (r.resultOf e.secrets (if r.computeProof then some (k.tag (r.statementOf e.secrets)) else none)),
        e.skip 160) := by
  rw [prove_run, ProveRequest.check_eq_ok_iff.2 hr, hr.proofOf_keyed]
  rfl

/-- **Valid requests, and only they, are proved.** With keyed proofs a run succeeds just when the request is valid, whatever
is drawn, and nothing else can go wrong. The statement of the result holds of the inputs and of the output notes, the
description that is published makes this statement again, and its proof, if one was asked for, is accepted. -/
theorem prove_ok_iff_valid (k : KeyedSystem) (r : ProveRequest) (e : Entropy) :
    ((∃ p, ((prove k r).run.run e).1 = .ok p) ↔ r.Valid) ∧
    (∀ cause, ((prove k r).run.run e).1 ≠ .error (.backend cause)) ∧
    (∀ cause, ((prove k r).run.run e).1 ≠ .error (.encryption cause)) ∧
    ∀ p, ((prove k r).run.run e).1 = .ok p →
      AuxiliaryInput.check ⟨e.secrets.phi, r.inputs, p.outputNotes⟩ p.statement = .ok () ∧
      Statement.ofJoinSplit p.toJoinSplit r.signingKey = p.statement ∧
      (r.computeProof = true → verifyJoinSplit k p.toJoinSplit r.signingKey = true) := by
  by_cases hr : r.Valid
  · rw [prove_keyed_of_valid hr]
    refine ⟨iff_of_true ⟨_, rfl⟩ hr, by rintro _ ⟨⟩, by rintro _ ⟨⟩, ?_⟩
    rintro p ⟨⟩
    refine ⟨AuxiliaryInput.check_eq_ok_iff.2 (hr.satisfies e.secrets), r.ofJoinSplit_resultOf e.secrets _, fun hp => ?_⟩
    rw [hp, if_pos rfl]
    exact k.verifyJoinSplit_of_tag (r.ofJoinSplit_resultOf e.secrets _) rfl
  · obtain ⟨cause, hkind, hrun⟩ := prove_of_not_valid hr k e
    rw [hrun]
    refine ⟨iff_of_false (by rintro ⟨_, ⟨⟩⟩) hr, fun c h => ?_, fun c h => ?_, by rintro _ ⟨⟩⟩
    · cases h; exact hkind rfl
    · cases h; exact hkind rfl

end ShieldedPool
