import ShieldedPool.Proofs.Tree.Complete
import ShieldedPool.Tree.Frontier

/-!
# The incremental tree computes the complete tree

What is kept of a tree (`NoteCommitmentTree`) is tied to the commitments in it by `Frontier.Holds`: the last leaf is where
the position says, and the ommers are the full subtrees to the left of the path from that leaf to the root (`LeftOf`). The
two recursions over the bits of the position keep to this: `carry` merges full subtrees as the position counts up, and
`climb` meets on every level the node of the complete tree.
-/

namespace ShieldedPool

/-- What every single step keeps to, as long as there is room, a run over a list keeps to. -/
theorem exists_foldlM_of_step {ε σ α : Type} {step : σ → α → Except ε σ} {P : σ → List α → Prop} {room : Nat}
    (hstep : ∀ {s l}, P s l → l.length < room → ∀ a, ∃ s', step s a = .ok s' ∧ P s' (l ++ [a])) {s : σ} {l m : List α}
    (hs : P s l) (hl : l.length + m.length ≤ room) : ∃ s', m.foldlM step s = .ok s' ∧ P s' (l ++ m) := by
  induction m generalizing s l with
  | nil => exact ⟨s, rfl, by simpa using hs⟩
  | cons a m ih =>
    rw [List.length_cons] at hl
    obtain ⟨s', hs', hp⟩ := hstep hs (by omega) a
    obtain ⟨s'', hs'', hp'⟩ := ih hp (by simp only [List.length_append, List.length_singleton]; omega)
    refine ⟨s'', ?_, by simpa using hp'⟩
    rw [List.foldlM_cons, hs']
    exact hs''

namespace Node

/-- The empty roots go from the root down, heights from the leaves up. -/
theorem emptyRoots_getElem? {h : Nat} (hh : h ≤ treeDepth) : emptyRoots[treeDepth - h]? = some (emptyAt h) := by
  have ht := tower_empty 0 treeDepth h hh
  rw [Nat.zero_add] at ht
  rw [emptyRoots, List.getElem?_reverse (by rw [length_tower]; omega), length_tower, emptyAt_eq_empty,
    show treeDepth + 1 - 1 - (treeDepth - h) = h by omega]
  exact ht

end Node

namespace Frontier

variable {n h i : Nat} {node o : Node} {ommers : List Node}

theorem climb_of_even (hi : i % 2 = 0) :
    climb (n + 1) h i node ommers = climb n (h + 1) (i / 2) (Node.combine node (Node.emptyAt h)) ommers := by
  simp [climb, hi]

theorem climb_of_odd (hi : i % 2 ≠ 0) :
    climb (n + 1) h i node (o :: ommers) = climb n (h + 1) (i / 2) (Node.combine o node) ommers := by
  simp [climb, hi]

end Frontier

/-! ## The subtrees on the left -/

namespace CompleteTree

/-- The nodes to the left of the path that goes up from an index of a height, the lowest first: one for every right child on
the path, which is its sibling. -/
inductive LeftOf (l : List NoteCommitment) : (height index : Nat) → List Node → Prop
  | start {h : Nat} : LeftOf l h 0 []
  | leftChild {h i : Nat} {ommers : List Node} : LeftOf l (h + 1) i ommers → LeftOf l h (2 * i) ommers
  | rightChild {h i : Nat} {ommers : List Node} :
    LeftOf l (h + 1) i ommers → LeftOf l h (2 * i + 1) (node l h (2 * i) :: ommers)

variable {l m : List NoteCommitment} {h i : Nat} {ommers : List Node}

/-- The nodes on the left are full, so appending does not change them. -/
theorem LeftOf.append (ho : LeftOf l h i ommers) (hi : i <<< h ≤ l.length) : LeftOf (l ++ m) h i ommers := by
  induction ho with
  | start => exact .start
  | @leftChild h i ommers _ ih =>
    refine .leftChild (ih ?_)
    rwa [Nat.shiftLeft_succ_inside]
  | @rightChild h i ommers _ ih =>
    rw [← node_append_of_le (m := m) hi]
    refine .rightChild (ih ?_)
    rw [Nat.shiftLeft_succ_inside]
    exact Nat.le_trans (shiftLeft_le_shiftLeft (Nat.le_succ _) h) hi

/-- **Counting up merges full subtrees.** When the node at an index is full, it joins those on its left, which are then what
stands to the left of the next index. -/
theorem LeftOf.carry (ho : LeftOf l h i ommers) : LeftOf l h (i + 1) (Frontier.carry i (node l h i) ommers) := by
  induction ho with
  | start => exact .rightChild (i := 0) .start
  | @leftChild h i ommers ho _ =>
    have e : Frontier.carry (2 * i) (node l h (2 * i)) ommers = node l h (2 * i) :: ommers := by
      cases ommers with
      | nil => rfl
      | cons o r => simp [Frontier.carry]
    rw [e]
    exact .rightChild ho
  | @rightChild h i ommers _ ih =>
    have e : Frontier.carry (2 * i + 1) (node l h (2 * i + 1)) (node l h (2 * i) :: ommers)
        = Frontier.carry i (node l (h + 1) i) ommers := by
      rw [Frontier.carry, if_neg (by omega), show (2 * i + 1) / 2 = i by omega, ← node_succ]
    rw [e]
    exact .leftChild (i := i + 1) ih

/-- **Climbing follows the complete tree.** From a node that has no leaves to its right, the nodes on its left and empty
subtrees on its right lead to the ancestors of the node. -/
theorem LeftOf.climb (ho : LeftOf l h i ommers) (hl : l.length ≤ (i + 1) <<< h) (n : Nat) :
    Frontier.climb n h i (node l h i) ommers = node l (h + n) (i >>> n) := by
  induction n generalizing h i ommers with
  | zero => rfl
  | succ n ih =>
    have hparent : l.length ≤ (i / 2 + 1) <<< (h + 1) := by
      rw [Nat.shiftLeft_succ_inside]
      exact Nat.le_trans hl (shiftLeft_le_shiftLeft (by omega) h)
    have hright : node l h (i + 1) = Node.emptyAt h := by rw [node_of_length_le hl, Node.emptyAt_eq_empty]
    rw [Nat.shiftRight_succ_inside, show h + (n + 1) = h + 1 + n by omega]
    cases ho with
    | start =>
      rw [Frontier.climb_of_even rfl, ← hright, ← node_succ_of_even rfl]
      exact ih .start hparent
    | @leftChild _ q ommers ho =>
      have hq : 2 * q / 2 = q := by omega
      rw [Frontier.climb_of_even (by omega), ← hright, ← node_succ_of_even (by omega)]
      exact ih (by rwa [hq]) hparent
    | @rightChild _ q ommers ho =>
      have hq : (2 * q + 1) / 2 = q := by omega
      rw [Frontier.climb_of_odd (by omega), hq, ← node_succ]
      rw [hq] at hparent
      exact ih ho hparent

end CompleteTree

/-! ## The frontier of a list of commitments -/

/-- What a frontier keeps of the tree of some commitments. -/
structure Frontier.Holds (f : Frontier) (l : List NoteCommitment) : Prop where
  length_eq : l.length = f.position + 1
  leaf_eq : f.leaf = CompleteTree.leaf l f.position
  ommers_left : CompleteTree.LeftOf l 0 f.position f.ommers

namespace Frontier

variable {f : Frontier} {l : List NoteCommitment}

theorem holds_single (c : NoteCommitment) : (single c.leaf).Holds [c] := ⟨rfl, rfl, .start⟩

theorem Holds.push (hf : f.Holds l) (c : NoteCommitment) : (f.push c.leaf).Holds (l ++ [c]) := by
  obtain ⟨hlen, hleaf, hleft⟩ := hf
  refine ⟨by simp [hlen, Frontier.push], ?_, ?_⟩
  · rw [show (f.push c.leaf).position = l.length from hlen.symm, CompleteTree.leaf_length]
    rfl
  · have hkeep : f.leaf = CompleteTree.node (l ++ [c]) 0 f.position := by
      rw [hleaf]
      exact (CompleteTree.leaf_append_of_lt (by omega)).symm
    have hcarry := (hleft.append (m := [c]) (by simp only [Nat.shiftLeft_zero]; omega)).carry
    rwa [← hkeep] at hcarry

theorem Holds.root_eq (hf : f.Holds l) (hl : l.length ≤ treeCapacity) : f.root = CompleteTree.root l := by
  obtain ⟨hlen, hleaf, hleft⟩ := hf
  have hclimb := hleft.climb (by simp only [Nat.shiftLeft_zero]; omega) treeDepth
  rw [shiftRight_treeDepth (by omega), Nat.zero_add] at hclimb
  rw [Frontier.root, CompleteTree.root, hleaf]
  exact congrArg (fun n => Root.mk n.bytes) hclimb

end Frontier

/-! ## The tree of a list of commitments -/

namespace CommitmentTree

/-- What a tree keeps of the commitments in it. -/
def Holds (t : CommitmentTree) (l : List NoteCommitment) : Prop :=
  match t.frontier with
  | none => l = []
  | some f => f.Holds l

variable {t u : CommitmentTree} {l : List NoteCommitment}

theorem holds_empty : empty.Holds [] := rfl

theorem Holds.count_eq (ht : t.Holds l) : t.count = l.length := by
  unfold Holds at ht
  unfold count
  cases hf : t.frontier with
  | none => rw [hf] at ht; simp [ht]
  | some f => rw [hf] at ht; exact ht.length_eq.symm

theorem Holds.root_eq (ht : t.Holds l) (hl : l.length ≤ treeCapacity) : t.root = CompleteTree.root l := by
  unfold Holds at ht
  unfold root
  cases hf : t.frontier with
  | none =>
    rw [hf] at ht
    rw [ht, CompleteTree.root, Node.emptyAt_eq_empty, CompleteTree.node_of_length_le (Nat.zero_le _)]
  | some f =>
    rw [hf] at ht
    exact ht.root_eq hl

theorem Holds.append (ht : t.Holds l) (hl : l.length < treeCapacity) (c : NoteCommitment) :
    ∃ u, t.append c = .ok u ∧ u.Holds (l ++ [c]) := by
  unfold Holds at ht
  unfold CommitmentTree.append
  cases hf : t.frontier with
  | none =>
    rw [hf] at ht
    subst ht
    exact ⟨_, rfl, Frontier.holds_single c⟩
  | some f =>
    rw [hf] at ht
    have hroom : f.position + 1 ≠ treeCapacity := by have := ht.length_eq; omega
    exact ⟨_, if_neg hroom, ht.push c⟩

theorem exists_ofList (hl : l.length ≤ treeCapacity) : ∃ t, ofList l = .ok t ∧ t.Holds l :=
  exists_foldlM_of_step (P := Holds) Holds.append holds_empty (by simpa using hl)

theorem ofList_append_singleton (l : List NoteCommitment) (c : NoteCommitment) :
    ofList (l ++ [c]) = (ofList l).bind (·.append c) := by
  rw [ofList, List.foldlM_append]
  simp only [List.foldlM_cons, List.foldlM_nil, bind_pure]
  rfl

/-! ## Appending one by one -/

/-- The tree is reached from the empty one by appending the commitments one at a time, each append having succeeded. -/
inductive Appended : List NoteCommitment → CommitmentTree → Prop
  | empty : Appended [] .empty
  | append {l : List NoteCommitment} {t u : CommitmentTree} {c : NoteCommitment} :
    Appended l t → t.append c = .ok u → Appended (l ++ [c]) u

theorem Appended.ofList_eq (ht : Appended l t) : ofList l = .ok t := by
  induction ht with
  | empty => rfl
  | @append l t u c _ hu ih => rw [ofList_append_singleton, ih]; exact hu

theorem Appended.foldlM (ht : Appended l t) {cs : List NoteCommitment} (hu : cs.foldlM CommitmentTree.append t = .ok u) :
    Appended (l ++ cs) u := by
  induction cs generalizing t l with
  | nil =>
    cases hu
    simpa using ht
  | cons c cs ih =>
    rw [List.foldlM_cons] at hu
    cases hv : t.append c with
    | error e => rw [hv] at hu; cases hu
    | ok v =>
      rw [hv] at hu
      simpa using ih (ht.append hv) hu

theorem appended_iff : Appended l t ↔ ofList l = .ok t := ⟨Appended.ofList_eq, Appended.empty.foldlM⟩

/-- **The incremental tree computes the complete tree.** Up to its capacity, any list of commitments can be appended, all
at once or one by one with the same result, and then the root is that of the complete tree over the list and the count is its
length. Before the first append the root is the first of the empty roots. -/
theorem root_eq_complete_root (l : List NoteCommitment) (hl : l.length ≤ treeCapacity) :
    ∃ t, ofList l = .ok t ∧ (∀ u, Appended l u ↔ u = t) ∧ t.root = CompleteTree.root l ∧ t.count = l.length ∧
      Node.emptyRoots[0]? = some ⟨empty.root.bytes⟩ := by
  obtain ⟨t, ht, hh⟩ := exists_ofList hl
  refine ⟨t, ht, fun u => ?_, hh.root_eq hl, hh.count_eq, Node.emptyRoots_getElem? (Nat.le_refl treeDepth)⟩
  rw [appended_iff, ht]
  exact ⟨fun e => (Except.ok.inj e).symm, fun e => congrArg Except.ok e.symm⟩

/-- Five commitments, the last one being the empty leaf. -/
theorem root_eq_complete_root_five :
    let l : List NoteCommitment := (List.range 5).reverse.map fun n => ⟨Bytes.ofNat 32 n⟩
    l.length ≤ treeCapacity ∧
      ∃ t, ofList l = .ok t ∧ (∀ u, Appended l u ↔ u = t) ∧ t.root = CompleteTree.root l ∧ t.count = l.length ∧
        Node.emptyRoots[0]? = some ⟨empty.root.bytes⟩ :=
  ⟨by decide, root_eq_complete_root _ (by decide)⟩

end CommitmentTree

end ShieldedPool
