import ShieldedPool.Proofs.Balance
import ShieldedPool.Proofs.Tree.Frontier
import ShieldedPool.Proofs.Tree.Path
import ShieldedPool.Statement

/-!
# The relation behind a statement

`check` (`AuxiliaryInput::check`) passes just when the relation holds that it is about, here written down as the conditions
on each input, each output and the values (`check_eq_ok_iff`). From there the statement's guarantees follow: no value comes
from nothing.
-/

namespace ShieldedPool

/-- An input that its key can spend at an anchor. The path of an input without value does not matter. -/
structure SpentNote.Spendable (n : SpentNote) (anchor : Root) : Prop where
  owned : n.note.payingKey = n.spendingKey.payingKey
  witnessed : n.note.value.zatoshis ≠ 0 → n.witness.root = anchor ∧ n.witness.element = n.note.commitment

theorem Amount.isZero_iff {a : Amount} : a.isZero = true ↔ a.zatoshis = 0 := by
  simp [Amount.isZero]

theorem Index.forall_iff {p : Index → Prop} : (∀ i, p i) ↔ p .first ∧ p .second := Fin.forall_fin_two

section
variable {α β : Type} {n : Nat}

theorem get_ofFn (f : Fin n → α) (i : Fin n) : (Vector.ofFn f).get i = f i := Vector.getElem_ofFn i.isLt

theorem get_map (f : α → β) (v : Vector α n) (i : Fin n) : (v.map f).get i = f (v.get i) := Vector.getElem_map f i.isLt

theorem toList_pair (v : Vector α 2) : v.toList = [v.get Index.first, v.get Index.second] := by
  obtain ⟨⟨l⟩, hl⟩ := v
  match l, hl with
  | [_, _], _ => rfl

end

namespace AuxiliaryInput

variable {a : AuxiliaryInput} {s : Statement} {i : Index}

/-! ## The conditions -/

/-- What has to hold of an input. -/
structure InputHolds (a : AuxiliaryInput) (s : Statement) (i : Index) : Prop where
  spendable : (a.inputs.get i).Spendable s.anchor
  nullifier_eq : (a.inputs.get i).note.nullifier (a.inputs.get i).spendingKey = s.nullifiers.get i
  mac_eq : Mac.compute (a.inputs.get i).spendingKey i s.hSig = s.macs.get i

/-- What has to hold of an output. -/
structure OutputHolds (a : AuxiliaryInput) (s : Statement) (i : Index) : Prop where
  rho_eq : (a.outputs.get i).rho = outputRho a.phi i s.hSig
  commitment_eq : (a.outputs.get i).commitment = s.commitments.get i

def inputValues (a : AuxiliaryInput) : List Amount := a.inputs.toList.map fun n => n.note.value

def outputValues (a : AuxiliaryInput) : List Amount := a.outputs.toList.map Note.value

/-- The auxiliary input makes the statement true. -/
structure Satisfies (a : AuxiliaryInput) (s : Statement) : Prop where
  input_holds : ∀ i, a.InputHolds s i
  output_holds : ∀ i, a.OutputHolds s i
  balanced : Balanced s.vpubOld a.inputValues s.vpubNew a.outputValues

/-! ## What the check decides -/

theorem checkInput_eq_ok_iff : a.checkInput s i = .ok () ↔ a.InputHolds s i := by
  by_cases hz : (a.inputs.get i).note.value.isZero
  · have hv := Amount.isZero_iff.1 hz
    simp only [checkInput, if_pos hz, guard_bind_eq_ok_iff, guard_eq_ok_iff]
    constructor
    · rintro ⟨hk, hn, hm, _⟩; exact ⟨⟨hk, fun h => absurd hv h⟩, hn, hm⟩
    · rintro ⟨⟨hk, _⟩, hn, hm⟩; exact ⟨hk, hn, hm, rfl⟩
  · have hv := mt Amount.isZero_iff.2 hz
    simp only [checkInput, if_neg hz, guard_bind_eq_ok_iff, guard_eq_ok_iff]
    constructor
    · rintro ⟨hk, hr, he, hn, hm, _⟩; exact ⟨⟨hk, fun _ => ⟨hr, he⟩⟩, hn, hm⟩
    · rintro ⟨⟨hk, hw⟩, hn, hm⟩
      obtain ⟨hr, he⟩ := hw hv
      exact ⟨hk, hr, he, hn, hm, rfl⟩

theorem checkOutput_eq_ok_iff : a.checkOutput s i = .ok () ↔ a.OutputHolds s i := by
  simp only [checkOutput, guard_bind_eq_ok_iff, guard_eq_ok_iff]
  constructor
  · rintro ⟨hr, hc, _⟩; exact ⟨hr, hc⟩
  · rintro ⟨hr, hc⟩; exact ⟨hr, hc, rfl⟩

/-- **The check decides the relation.** -/
theorem check_eq_ok_iff : a.check s = .ok () ↔ a.Satisfies s := by
  simp only [check, seq_eq_ok_iff, checkInput_eq_ok_iff, checkOutput_eq_ok_iff, checkBalance_eq_ok_iff]
  constructor
  · rintro ⟨h0, h1, h2, h3, hb⟩
    exact ⟨Index.forall_iff.2 ⟨h0, h1⟩, Index.forall_iff.2 ⟨h2, h3⟩, hb⟩
  · rintro ⟨hi, ho, hb⟩
    exact ⟨hi .first, hi .second, ho .first, ho .second, hb⟩

/-! ## The statement of an auxiliary input -/

/-- The statement that an auxiliary input makes true, once what is public only is chosen. -/
def statement (a : AuxiliaryInput) (anchor : Root) (hSig : HSig) (vpubOld vpubNew : Amount) : Statement where
  anchor := anchor
  hSig := hSig
  nullifiers := a.inputs.map fun n => n.note.nullifier n.spendingKey
  macs := Vector.ofFn fun i => Mac.compute (a.inputs.get i).spendingKey i hSig
  commitments := a.outputs.map Note.commitment
  vpubOld := vpubOld
  vpubNew := vpubNew

theorem satisfies_statement {anchor : Root} {hSig : HSig} {vpubOld vpubNew : Amount}
    (hinputs : ∀ i, (a.inputs.get i).Spendable anchor)
    (houtputs : ∀ i, (a.outputs.get i).rho = outputRho a.phi i hSig)
    (hbalanced : Balanced vpubOld a.inputValues vpubNew a.outputValues) :
    a.Satisfies (a.statement anchor hSig vpubOld vpubNew) where
  input_holds i := ⟨hinputs i, (get_map (fun n => n.note.nullifier n.spendingKey) a.inputs i).symm,
    (get_ofFn (fun i => Mac.compute (a.inputs.get i).spendingKey i hSig) i).symm⟩
  output_holds i := ⟨houtputs i, (get_map Note.commitment a.outputs i).symm⟩
  balanced := hbalanced

/-! ## What a satisfied statement guarantees -/

/-- An input with value spends a leaf of the tree at the anchor, at the position that its path is for. -/
theorem InputHolds.leaf_or_collides {l : List NoteCommitment} (hi : a.InputHolds s i)
    (hv : (a.inputs.get i).note.value.zatoshis ≠ 0) (hs : s.anchor = CompleteTree.root l) :
    (a.inputs.get i).note.commitment.leaf = CompleteTree.leaf l (a.inputs.get i).witness.index ∨
      Collides Sha256.compress (· ∈ (a.inputs.get i).witness.blocks) (CompleteTree.RootHashes l) := by
  obtain ⟨hroot, helement⟩ := hi.spendable.witnessed hv
  rw [← helement]
  exact Witness.leaf_eq_or_collides_of_root (hroot.trans hs)

/-- **No value comes from nothing.** When the check passes, both sides of the exact balance are equal and in range. And
whatever commitments the tree at the anchor was made of, every input with value is the leaf of the padded tree at its own
position, so one of them or empty, or else a block of its path collides with one of the tree. -/
theorem no_value_from_nothing (a : AuxiliaryInput) (s : Statement) (hc : a.check s = .ok ()) :
    (s.vpubOld.zatoshis + Amount.total a.inputValues = s.vpubNew.zatoshis + Amount.total a.outputValues ∧
      s.vpubOld.zatoshis + Amount.total a.inputValues ≤ maxMoney) ∧
    ∀ l t, l.length ≤ treeCapacity → CommitmentTree.ofList l = .ok t → t.root = s.anchor →
      ∀ i, (a.inputs.get i).note.value.zatoshis ≠ 0 →
        ((a.inputs.get i).note.commitment.leaf
            = CompleteTree.leaf l ((a.inputs.get i).witness.position.toNat % treeCapacity) ∧
          ((a.inputs.get i).note.commitment ∈ l ∨ (a.inputs.get i).note.commitment.bytes = Bytes.zero 32)) ∨
        Collides Sha256.compress (· ∈ (a.inputs.get i).witness.blocks) (CompleteTree.RootHashes l) := by
  obtain ⟨hinput, _, hbal⟩ := check_eq_ok_iff.1 hc
  refine ⟨⟨hbal.eq, hbal.le_maxMoney⟩, fun l t hl ht hs i hv => ?_⟩
  obtain ⟨u, hu, hh⟩ := CommitmentTree.exists_ofList hl
  have htu : t = u := Except.ok.inj (ht.symm.trans hu)
  have hroot : s.anchor = CompleteTree.root l := by rw [← hs, htu, hh.root_eq hl]
  exact ((hinput i).leaf_or_collides hv hroot).imp_left fun hleaf => ⟨hleaf, CompleteTree.mem_or_empty_of_leaf_eq hleaf⟩

/-- Both inputs spend the only note of a tree, and two outputs of the same value are created. -/
theorem no_value_from_nothing_single :
    let key := SpendingKey.ofBytes (Bytes.zero 32)
    let note : Note := ⟨key.payingKey, ⟨5, by decide⟩, ⟨Bytes.zero 32⟩, ⟨Bytes.zero 32⟩⟩
    let spent : SpentNote := ⟨key, note, .single note.commitment⟩
    let hSig : HSig := ⟨Bytes.zero 32⟩
    let outputs : Vector Note 2 := Vector.ofFn fun i => { note with rho := outputRho (Bytes.zero 32) i hSig }
    let a : AuxiliaryInput := ⟨Bytes.zero 32, #v[spent, spent], outputs⟩
    let s : Statement := ⟨CompleteTree.root [note.commitment], hSig, Vector.ofFn fun _ => note.nullifier key,
      Vector.ofFn fun i => .compute key i hSig, outputs.map Note.commitment, .zero, .zero⟩
    a.check s = .ok () ∧ ∃ t, CommitmentTree.ofList [note.commitment] = .ok t ∧ t.root = s.anchor ∧
      ((note.commitment.leaf = CompleteTree.leaf [note.commitment] 0 ∧
          (note.commitment ∈ [note.commitment] ∨ note.commitment.bytes = Bytes.zero 32)) ∨
        Collides Sha256.compress (· ∈ spent.witness.blocks) (CompleteTree.RootHashes [note.commitment])) := by
  intro key note spent hSig outputs a s
  have hcheck : a.check s = .ok () := by
    have hinput : ∀ i, a.inputs.get i = spent := Index.forall_iff.2 ⟨rfl, rfl⟩
    have houtput : ∀ i, a.outputs.get i = { note with rho := outputRho (Bytes.zero 32) i hSig } := get_ofFn _
    refine check_eq_ok_iff.2 ⟨fun i => ⟨⟨?_, ?_⟩, ?_, ?_⟩, fun i => ⟨?_, ?_⟩, ⟨rfl, by decide⟩⟩
    · rw [hinput]
    · rw [hinput]
      exact fun _ => ⟨Witness.root_single _, rfl⟩
    · rw [hinput, get_ofFn]
    · rw [hinput, get_ofFn]
    · rw [houtput]
    · rw [get_map]
  obtain ⟨t, ht, hh⟩ := CommitmentTree.exists_ofList (l := [note.commitment]) (by decide)
  have hroot : t.root = s.anchor := hh.root_eq (by decide)
  exact ⟨hcheck, t, ht, hroot, (no_value_from_nothing a s hcheck).2 _ t (by decide) ht hroot Index.first (by decide)⟩

end AuxiliaryInput

end ShieldedPool
