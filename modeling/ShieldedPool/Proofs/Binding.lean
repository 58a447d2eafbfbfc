import ShieldedPool.Proofs.Preimages

/-!
# What a statement and its auxiliary input fix of each other

Two auxiliary inputs that satisfy one statement create the same notes and spend under the same keys and seeds; how the value
is split between the inputs, and along which paths, is left open (`statement_binds_secrets`). One auxiliary input that
satisfies two statements allows them another anchor only if it spends nothing, and other public values only with the same
difference (`secrets_bind_statement`). Both hold unless a hash collides, and name the inputs of the hash that do. What they
share is `rhoBlock_eq_or_collision`: equal seeds come from equal secrets and signature hashes.
-/

namespace ShieldedPool

namespace AuxiliaryInput

variable {a b : AuxiliaryInput} {s t : Statement} {i : Index}

/-! ## What is hashed -/

/-- The block that the nullifier of input `i` is compressed from. -/
def nullifierBlock (a : AuxiliaryInput) (i : Index) : Bytes 64 :=
  Prf.block .nullifier (a.inputs.get i).spendingKey.bytes (a.inputs.get i).note.rho.bytes

/-- The block that the seed of output `i` is compressed from. -/
def rhoBlock (a : AuxiliaryInput) (hSig : HSig) (i : Index) : Bytes 64 := Prf.block (.rho i) a.phi hSig.bytes

/-! ## Single fields -/

theorem OutputHolds.note_eq_or_collision (ha : a.OutputHolds s i) (hb : b.OutputHolds s i) :
    a.outputs.get i = b.outputs.get i ∨
      Collision Sha256.hash (a.outputs.get i).preimage (b.outputs.get i).preimage := by
  have hcommitment : (a.outputs.get i).commitment = (b.outputs.get i).commitment :=
    ha.commitment_eq.trans hb.commitment_eq.symm
  have hhash : Sha256.hash (a.outputs.get i).preimage = Sha256.hash (b.outputs.get i).preimage :=
    congrArg NoteCommitment.bytes hcommitment
  rcases eq_or_collision hhash with hpre | hc
  · exact Or.inl (Note.preimage_inj.1 hpre)
  · exact Or.inr hc

/-- A nullifier is of one seed under one key, and the key owns the note. -/
theorem InputHolds.key_eq_or_collision (ha : a.InputHolds s i) (hb : b.InputHolds s i) :
    ((a.inputs.get i).spendingKey = (b.inputs.get i).spendingKey ∧
      (a.inputs.get i).note.payingKey = (b.inputs.get i).note.payingKey ∧
      (a.inputs.get i).note.rho = (b.inputs.get i).note.rho) ∨
      Collision Sha256.compress (a.nullifierBlock i) (b.nullifierBlock i) := by
  have hnullifier := congrArg Nullifier.bytes (ha.nullifier_eq.trans hb.nullifier_eq.symm)
  rcases Prf.eval_eq_or_collision hnullifier with ⟨_, hx, hrho⟩ | hc
  · have hkey := SpendingKey.eq_of_agreeBelow252 hx
    refine Or.inl ⟨hkey, ?_, NullifierSeed.ext hrho⟩
    rw [ha.spendable.owned, hb.spendable.owned, hkey]
  · exact Or.inr hc

/-- A seed is of one secret, up to the bits that are masked, and one signature hash. -/
theorem OutputHolds.rhoBlock_eq_or_collision (ha : a.OutputHolds s i) (hb : b.OutputHolds t i)
    (hrho : (a.outputs.get i).rho = (b.outputs.get i).rho) :
    (Prf.AgreeBelow252 a.phi b.phi ∧ s.hSig = t.hSig) ∨
      Collision Sha256.compress (a.rhoBlock s.hSig i) (b.rhoBlock t.hSig i) := by
  rw [ha.rho_eq, hb.rho_eq] at hrho
  rcases outputRho_eq_or_collision hrho with ⟨_, hphi, hsig⟩ | hc
  · exact Or.inl ⟨hphi, hsig⟩
  · exact Or.inr hc

/-! ## One statement, two auxiliary inputs -/

/-- What two auxiliary inputs of a statement have in common. -/
structure SameSecrets (a b : AuxiliaryInput) : Prop where
  outputs_eq : a.outputs = b.outputs
  spendingKey_eq : ∀ i, (a.inputs.get i).spendingKey = (b.inputs.get i).spendingKey
  payingKey_eq : ∀ i, (a.inputs.get i).note.payingKey = (b.inputs.get i).note.payingKey
  rho_eq : ∀ i, (a.inputs.get i).note.rho = (b.inputs.get i).note.rho
  phi_eq : Prf.AgreeBelow252 a.phi b.phi
  total_eq : Amount.total a.inputValues = Amount.total b.inputValues

theorem SameSecrets.statement_eq (h : a.SameSecrets b) (anchor : Root) (hSig : HSig) (vpubOld vpubNew : Amount) :
    a.statement anchor hSig vpubOld vpubNew = b.statement anchor hSig vpubOld vpubNew := by
  have hkey := h.spendingKey_eq
  have hrho := h.rho_eq
  refine Statement.ext rfl rfl (get_ext fun i => ?_) (get_ext fun i => ?_) ?_ rfl rfl
  · simp only [statement, get_map, Note.nullifier, hkey, hrho]
  · simp only [statement, get_ofFn, hkey]
  · simp only [statement, h.outputs_eq]

/-- Different inputs of a hash, one from each side, that give the same field of a statement or the same seed. -/
inductive FieldCollision (a b : AuxiliaryInput) (hSig : HSig) : Prop
  | commitment (i : Index) (hc : Collision Sha256.hash (a.outputs.get i).preimage (b.outputs.get i).preimage)
  | nullifier (i : Index) (hc : Collision Sha256.compress (a.nullifierBlock i) (b.nullifierBlock i))
  | rho (i : Index) (hc : Collision Sha256.compress (a.rhoBlock hSig i) (b.rhoBlock hSig i))

theorem Satisfies.total_eq (ha : a.Satisfies s) (hb : b.Satisfies s) (houtputs : a.outputs = b.outputs) :
    Amount.total a.inputValues = Amount.total b.inputValues := by
  have hvalues : a.outputValues = b.outputValues := congrArg (fun v => v.toList.map Note.value) houtputs
  have ha' := ha.balanced.eq
  have hb' := hb.balanced.eq
  -- both inputs and the old value make up the outputs and the new value, which are the same here
  rw [hvalues] at ha'
  omega

/-- **A statement binds its secrets.** Two auxiliary inputs that pass the check against one statement create the same notes,
spend the same seeds under the same keys, use the same secret `phi` up to the bits that are masked, and put in the same value
altogether. Otherwise two inputs of a hash collide that were made for the same field. -/
theorem statement_binds_secrets (a b : AuxiliaryInput) (s : Statement) (ha : a.check s = .ok ()) (hb : b.check s = .ok ()) :
    a.SameSecrets b ∨ a.FieldCollision b s.hSig := by
  have hsa := check_eq_ok_iff.1 ha
  have hsb := check_eq_ok_iff.1 hb
  by_cases hc : a.FieldCollision b s.hSig
  · exact Or.inr hc
  · have hnote (i : Index) : a.outputs.get i = b.outputs.get i :=
      ((hsa.output_holds i).note_eq_or_collision (hsb.output_holds i)).resolve_right fun h => hc (.commitment i h)
    have hinput (i : Index) := ((hsa.input_holds i).key_eq_or_collision (hsb.input_holds i)).resolve_right
      fun h => hc (.nullifier i h)
    -- either output gives the secret: their notes are equal, so each seed has been derived twice
    have hphi := ((hsa.output_holds .first).rhoBlock_eq_or_collision (hsb.output_holds .first)
      (congrArg Note.rho (hnote .first))).resolve_right fun h => hc (.rho .first h)
    have houtputs : a.outputs = b.outputs := get_ext hnote
    exact Or.inl ⟨houtputs, fun i => (hinput i).1, fun i => (hinput i).2.1, fun i => (hinput i).2.2, hphi.1,
      hsa.total_eq hsb houtputs⟩

/-- The two inputs change places, and a masked bit of the secret is set. -/
theorem statement_binds_secrets_swapped :
    let key := SpendingKey.ofBytes (Bytes.zero 32)
    let note (v : Amount) : Note := ⟨key.payingKey, v, ⟨Bytes.zero 32⟩, ⟨Bytes.zero 32⟩⟩
    let spent (v : Amount) : SpentNote := ⟨key, note v, .single (note v).commitment⟩
    let five : Amount := ⟨5, by decide⟩
    let hSig : HSig := ⟨Bytes.zero 32⟩
    let outputs : Vector Note 2 := Vector.ofFn fun i => { note .zero with rho := outputRho (Bytes.zero 32) i hSig }
    let a : AuxiliaryInput := ⟨Bytes.zero 32, #v[spent five, spent .zero], outputs⟩
    let b : AuxiliaryInput := ⟨(Bytes.zero 32).modify 0 fun _ => 0xf0, #v[spent .zero, spent five], outputs⟩
    let s := a.statement (spent five).witness.root hSig .zero five
    a.check s = .ok () ∧ b.check s = .ok () ∧ a.phi ≠ b.phi ∧ (a.SameSecrets b ∨ a.FieldCollision b hSig) := by
  intro key note spent five hSig outputs a b s
  have hspendable (v : Amount) (hv : v.zatoshis ≠ 0 → v = five) : (spent v).Spendable s.anchor :=
    ⟨rfl, fun h => ⟨by rw [hv h]; rfl, rfl⟩⟩
  have hfive : (spent five).Spendable s.anchor := hspendable five fun _ => rfl
  have hzero : (spent .zero).Spendable s.anchor := hspendable .zero fun h => absurd rfl h
  have hrho (i : Index) : (outputs.get i).rho = outputRho (Bytes.zero 32) i hSig :=
    congrArg Note.rho (get_ofFn (fun i => { note .zero with rho := outputRho (Bytes.zero 32) i hSig }) i)
  have hphi : Prf.AgreeBelow252 a.phi b.phi := Prf.mask252_eq_iff_agreeBelow252.1 (by decide)
  have hcheck : a.check s = .ok () := check_eq_ok_iff.2
    (satisfies_statement (Index.forall_iff.2 ⟨hfive, hzero⟩) hrho ⟨rfl, by decide⟩)
  have hsame : a.SameSecrets b := by
    refine ⟨rfl, ?_, ?_, ?_, hphi, rfl⟩ <;> exact Index.forall_iff.2 ⟨rfl, rfl⟩
  have hcheck' : b.check s = .ok () := by
    -- the bits in which the secrets differ are not hashed
    have hrho' (i : Index) : (outputs.get i).rho = outputRho b.phi i hSig := by
      rw [hrho, outputRho, outputRho, Prf.eval, Prf.eval, Prf.block_inj.2 ⟨rfl, hphi, rfl⟩]
    have hb : b.Satisfies (b.statement s.anchor hSig .zero five) :=
      satisfies_statement (Index.forall_iff.2 ⟨hzero, hfive⟩) hrho' ⟨rfl, by decide⟩
    rw [← hsame.statement_eq] at hb
    exact check_eq_ok_iff.2 hb
  exact ⟨hcheck, hcheck', by decide, statement_binds_secrets a b s hcheck hcheck'⟩

/-! ## One auxiliary input, two statements -/

theorem Satisfies.anchor_eq (hs : a.Satisfies s) (ht : a.Satisfies t) (hv : (a.inputs.get i).note.value.zatoshis ≠ 0) :
    s.anchor = t.anchor := by
  have hs' := ((hs.input_holds i).spendable.witnessed hv).1
  have ht' := ((ht.input_holds i).spendable.witnessed hv).1
  rw [← hs', ht']

/-- **The secrets bind the statement.** Two statements that one auxiliary input satisfies have the same nullifiers and
commitments, differ in their public values by a shift of both, and are about the same anchor unless both inputs are without
value. They have the same signature hash and authentication codes, or the two hashes are different and the seeds of both
outputs are collisions. -/
theorem secrets_bind_statement (a : AuxiliaryInput) (s t : Statement) (hs : a.check s = .ok ()) (ht : a.check t = .ok ()) :
    s.nullifiers = t.nullifiers ∧ s.commitments = t.commitments ∧
    (s.vpubNew.zatoshis : Int) - s.vpubOld.zatoshis = (t.vpubNew.zatoshis : Int) - t.vpubOld.zatoshis ∧
    (s.anchor = t.anchor ∨ ∀ i, (a.inputs.get i).note.value.zatoshis = 0) ∧
    ((s.hSig = t.hSig ∧ s.macs = t.macs) ∨
      (s.hSig ≠ t.hSig ∧ ∀ i, Collision Sha256.compress (a.rhoBlock s.hSig i) (a.rhoBlock t.hSig i))) := by
  have hss := check_eq_ok_iff.1 hs
  have hst := check_eq_ok_iff.1 ht
  refine ⟨?_, ?_, ?_, ?_, ?_⟩
  · exact get_ext fun i => (hss.input_holds i).nullifier_eq.symm.trans (hst.input_holds i).nullifier_eq
  · exact get_ext fun i => (hss.output_holds i).commitment_eq.symm.trans (hst.output_holds i).commitment_eq
  · have hbs := hss.balanced.eq
    have hbt := hst.balanced.eq
    omega
  · by_cases hv : ∀ i, (a.inputs.get i).note.value.zatoshis = 0
    · exact Or.inr hv
    · obtain ⟨i, hi⟩ := Classical.not_forall.1 hv
      exact Or.inl (hss.anchor_eq hst hi)
  -- the codes are made from the signature hash, so they are equal as soon as it is
  · by_cases hsig : s.hSig = t.hSig
    · refine Or.inl ⟨hsig, get_ext fun i => ?_⟩
      rw [← (hss.input_holds i).mac_eq, ← (hst.input_holds i).mac_eq, hsig]
    · refine Or.inr ⟨hsig, fun i => ?_⟩
      rcases (hss.output_holds i).rhoBlock_eq_or_collision (hst.output_holds i) rfl with ⟨_, h⟩ | hc
      · exact absurd h hsig
      · exact hc

/-- Two inputs without value are taken to another anchor, and both public values are raised. -/
theorem secrets_bind_statement_dummies :
    let key := SpendingKey.ofBytes (Bytes.zero 32)
    let note : Note := ⟨key.payingKey, .zero, ⟨Bytes.zero 32⟩, ⟨Bytes.zero 32⟩⟩
    let spent : SpentNote := ⟨key, note, .single note.commitment⟩
    let three : Amount := ⟨3, by decide⟩
    let hSig : HSig := ⟨Bytes.zero 32⟩
    let outputs : Vector Note 2 := Vector.ofFn fun i => { note with rho := outputRho (Bytes.zero 32) i hSig }
    let a : AuxiliaryInput := ⟨Bytes.zero 32, #v[spent, spent], outputs⟩
    let s := a.statement ⟨Bytes.zero 32⟩ hSig .zero .zero
    let t := a.statement ⟨Vector.replicate 32 1⟩ hSig three three
    a.check s = .ok () ∧ a.check t = .ok () ∧ s.anchor ≠ t.anchor ∧ s.vpubOld ≠ t.vpubOld ∧
      s.nullifiers = t.nullifiers ∧ s.commitments = t.commitments ∧
      (s.vpubNew.zatoshis : Int) - s.vpubOld.zatoshis = (t.vpubNew.zatoshis : Int) - t.vpubOld.zatoshis ∧
      (s.anchor = t.anchor ∨ ∀ i, (a.inputs.get i).note.value.zatoshis = 0) ∧
      ((s.hSig = t.hSig ∧ s.macs = t.macs) ∨
        (s.hSig ≠ t.hSig ∧ ∀ i, Collision Sha256.compress (a.rhoBlock s.hSig i) (a.rhoBlock t.hSig i))) := by
  intro key note spent three hSig outputs a s t
  have hspendable (anchor : Root) (i : Index) : (a.inputs.get i).Spendable anchor :=
    (Index.forall_iff (p := fun i => (a.inputs.get i).Spendable anchor)).2
      ⟨⟨rfl, fun h => absurd rfl h⟩, ⟨rfl, fun h => absurd rfl h⟩⟩ i
  have hrho (i : Index) : (outputs.get i).rho = outputRho (Bytes.zero 32) i hSig :=
    congrArg Note.rho (get_ofFn (fun i => { note with rho := outputRho (Bytes.zero 32) i hSig }) i)
  have hs : a.check s = .ok () := check_eq_ok_iff.2 (satisfies_statement (hspendable _) hrho ⟨rfl, by decide⟩)
  have ht : a.check t = .ok () := check_eq_ok_iff.2 (satisfies_statement (hspendable _) hrho ⟨rfl, by decide⟩)
  exact ⟨hs, ht, by decide, by decide, secrets_bind_statement a s t hs ht⟩

end AuxiliaryInput

end ShieldedPool
