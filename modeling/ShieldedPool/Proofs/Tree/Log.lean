import Mathlib.Order.Bounds.Basic
import ShieldedPool.Proofs.Tree.Frontier
import ShieldedPool.Proofs.Tree.Path
import ShieldedPool.Tree.Log

/-!
# The log witnesses what its trees hold

A log (`NoteCommitmentLog`) computes its roots with the incremental tree, and a path layer by layer from the leaves. Both are
tied to the complete trees over the prefixes of the commitments: `Holds` is what every append keeps to, and `siblingsFrom_eq`
follows a layer up. So a path leads to the root that was recorded when the tree had that size. What the two tables of a log
record is in `Firsts`: an entry is never replaced, so a table has the first index of everything that was put into it.
-/

namespace ShieldedPool

theorem idxOf?_eq_some_iff {α : Type} [DecidableEq α] {l : List α} {a : α} {i : Nat} :
    l.idxOf? a = some i ↔ IsLeast {j | l[j]? = some a} i := by
  rw [List.idxOf?, List.findIdx?_eq_some_iff_getElem]
  constructor
  · rintro ⟨hi, he, hmin⟩
    refine ⟨by simpa [hi] using he, fun j hj => ?_⟩
    obtain ⟨hjl, hja⟩ := List.getElem?_eq_some_iff.1 hj
    exact Nat.le_of_not_lt fun hji => hmin j hji (by simpa using hja)
  · rintro ⟨hi, hmin⟩
    obtain ⟨hil, hia⟩ := List.getElem?_eq_some_iff.1 hi
    refine ⟨hil, by simpa using hia, fun j hji hja => ?_⟩
    have hle : i ≤ j := hmin (by simpa [show j < l.length by omega] using hja)
    omega

/-! ## Tables -/

section
variable {κ : Type} [DecidableEq κ] {table : List (κ × Nat)} {l : List κ} {a b : κ}

theorem lookup_insertNew (table : List (κ × Nat)) (a b : κ) (n : Nat) :
    (insertNew table a n).lookup b = (table.lookup b).or (if b = a then some n else none) := by
  unfold insertNew
  by_cases hb : b = a
  · subst hb
    cases h : table.lookup b <;> simp [h]
  · have hne : (b == a) = false := by simpa using hb
    cases h : table.lookup a <;> simp [List.lookup_cons, hb, hne]

/-- An entry is never replaced. -/
theorem lookup_insertNew_of_some {m n : Nat} (h : table.lookup b = some n) : (insertNew table a m).lookup b = some n := by
  rw [lookup_insertNew, h]
  rfl

theorem idxOf?_append_singleton (l : List κ) (a b : κ) :
    (l ++ [a]).idxOf? b = (l.idxOf? b).or (if b = a then some l.length else none) := by
  rw [List.idxOf?, List.findIdx?_append, ← List.idxOf?]
  by_cases hb : b = a
  · subst hb
    simp
  · have hne : (a == b) = false := by simpa using fun h => hb h.symm
    simp [hb, hne]

/-- The table has every element of the list with its first index, and nothing else. -/
def Firsts (table : List (κ × Nat)) (l : List κ) : Prop := ∀ a, table.lookup a = l.idxOf? a

theorem firsts_nil : Firsts [] ([] : List κ) := fun _ => rfl

theorem Firsts.append (h : Firsts table l) (a : κ) : Firsts (insertNew table a l.length) (l ++ [a]) := by
  intro b
  rw [lookup_insertNew, idxOf?_append_singleton, h b]

end

namespace CompleteTree

/-- The root of the tree over the first `size` commitments. -/
def rootAt (l : List NoteCommitment) (size : Nat) : Root := root (l.take size)

/-- The root after each number of appends, beginning with the empty tree. -/
def roots (l : List NoteCommitment) : List Root := (List.range (l.length + 1)).map (rootAt l)

theorem length_roots (l : List NoteCommitment) : (roots l).length = l.length + 1 := by simp [roots]

theorem roots_append_singleton (l : List NoteCommitment) (c : NoteCommitment) :
    roots (l ++ [c]) = roots l ++ [root (l ++ [c])] := by
  have hinit : (List.range (l.length + 1)).map (rootAt (l ++ [c])) = roots l := by
    refine List.map_congr_left fun s hs => ?_
    rw [rootAt, rootAt, List.take_append_of_le_length (by simpa [Nat.lt_succ_iff] using hs)]
  have hlast : rootAt (l ++ [c]) (l.length + 1) = root (l ++ [c]) := by
    rw [rootAt, List.take_of_length_le (by simp)]
  rw [roots, List.length_append, List.length_singleton, List.range_succ, List.map_append, hinit]
  exact congrArg (roots l ++ [·]) hlast

end CompleteTree

namespace CommitmentLog

variable {l : List NoteCommitment} {layer : List Node} {h i n : Nat}

/-! ## Siblings -/

/-- A layer lists the nodes of a height from the left; those that are missing are empty. -/
def IsLayer (l : List NoteCommitment) (h : Nat) (layer : List Node) : Prop :=
  ∀ i, layer.getD i (Node.emptyAt h) = CompleteTree.node l h i

theorem isLayer_leaves (l : List NoteCommitment) : IsLayer l 0 (l.map NoteCommitment.leaf) := by
  intro i
  rw [Node.emptyAt_eq_empty, List.getD_eq_getElem?_getD, List.getElem?_map]
  rfl

/-- A node of the next layer is above two nodes, of which one or both may be missing. -/
theorem getD_nextLayer (e : Node) : ∀ (layer : List Node) (i : Nat),
    (nextLayer e layer).getD i (Node.combine e e) = Node.combine (layer.getD (2 * i) e) (layer.getD (2 * i + 1) e)
  | [], _ => rfl
  | [_], 0 => rfl
  | [_], i + 1 => by simp [nextLayer, Nat.mul_succ]
  | _ :: _ :: _, 0 => rfl
  | _ :: _ :: rest, i + 1 => by
    rw [nextLayer, List.getD_cons_succ, getD_nextLayer e rest i]
    rfl

theorem IsLayer.next (hl : IsLayer l h layer) : IsLayer l (h + 1) (nextLayer (Node.emptyAt h) layer) := by
  intro i
  have hempty : Node.emptyAt (h + 1) = Node.combine (Node.emptyAt h) (Node.emptyAt h) := by
    simp only [Node.emptyAt_eq_empty, Node.empty]
  rw [hempty, getD_nextLayer, hl, hl, CompleteTree.node_succ]

/-- Going up through the layers meets the siblings in the complete tree. -/
theorem siblingsFrom_eq (hl : IsLayer l h layer) : siblingsFrom n h i layer = CompleteTree.siblings l n h i := by
  induction n generalizing h i layer with
  | zero => rfl
  | succ n ih => rw [siblingsFrom, CompleteTree.siblings, hl, ih hl.next]

/-! ## What a log holds -/

/-- A log of some commitments: the leaves, the first position of each commitment, the smallest size with each root, and the
tree. -/
structure Holds (g : CommitmentLog) (l : List NoteCommitment) : Prop where
  leaves_eq : g.leaves = l.map NoteCommitment.leaf
  positions_firsts : Firsts g.positions l
  anchors_firsts : Firsts g.anchors (CompleteTree.roots l)
  tree_holds : g.tree.Holds l

variable {g : CommitmentLog}

theorem holds_empty : empty.Holds [] := by
  have hroot : CommitmentTree.empty.root = CompleteTree.root [] := CommitmentTree.holds_empty.root_eq (Nat.zero_le _)
  refine ⟨rfl, firsts_nil, ?_, CommitmentTree.holds_empty⟩
  rw [empty, hroot]
  exact firsts_nil.append _

theorem Holds.append (hg : g.Holds l) (hl : l.length < treeCapacity) (c : NoteCommitment) :
    ∃ g', g.append c = .ok g' ∧ g'.Holds (l ++ [c]) := by
  obtain ⟨hleaves, hpositions, hanchors, htree⟩ := hg
  obtain ⟨t, ht, hh⟩ := htree.append hl c
  have hroot : t.root = CompleteTree.root (l ++ [c]) :=
    hh.root_eq (by simp only [List.length_append, List.length_singleton]; omega)
  have hsize : g.leaves.length = l.length := by rw [hleaves, List.length_map]
  refine ⟨_, by rw [CommitmentLog.append, ht]; rfl, ?_, ?_, ?_, hh⟩
  · simp [hleaves]
  · rw [hsize]
    exact hpositions.append c
  · have hnext := hanchors.append t.root
    rw [CompleteTree.length_roots, hroot, ← CompleteTree.roots_append_singleton] at hnext
    simpa [hsize, hroot] using hnext

theorem exists_foldlM (hl : l.length ≤ treeCapacity) : ∃ g, l.foldlM CommitmentLog.append empty = .ok g ∧ g.Holds l :=
  exists_foldlM_of_step (P := Holds) Holds.append holds_empty (by simpa using hl)

theorem Holds.root_eq (hg : g.Holds l) (hl : l.length ≤ treeCapacity) : g.root = CompleteTree.root l :=
  hg.tree_holds.root_eq hl

/-- The path of a position in a log is that of the complete tree over its leaves. -/
theorem toList_siblings (hg : g.leaves = l.map NoteCommitment.leaf) (position size : Nat) :
    (g.siblings position size).toList = CompleteTree.siblings (l.take size) treeDepth 0 position := by
  have hlayer := siblingsFrom_eq (n := treeDepth) (i := position) (isLayer_leaves (l.take size))
  simpa [siblings, hg, Vector.toList, List.map_take] using hlayer

/-- The path of a position leads to the root of the tree of that size. -/
theorem Holds.root_path (hg : g.Holds l) {c : NoteCommitment} {position size : Nat} (hc : l[position]? = some c)
    (hp : position < size) (hl : l.length ≤ treeCapacity) :
    (Witness.mk c (UInt64.ofNat position) (g.siblings position size)).root = CompleteTree.rootAt l size := by
  have hlt : position < l.length := (List.getElem?_eq_some_iff.1 hc).1
  have hcap : treeCapacity < UInt64.size := by decide
  have hpos : (UInt64.ofNat position).toNat = position := UInt64.toNat_ofNat_of_lt' (by omega)
  have hleaf : c.leaf = CompleteTree.node (l.take size) 0 position :=
    (CompleteTree.leaf_of_getElem? (by rw [List.getElem?_take_of_lt hp, hc])).symm
  rw [Witness.root]
  simp only [hpos, toList_siblings hg.leaves_eq, hleaf, Witness.climb_siblings, Nat.zero_add,
    shiftRight_treeDepth (show position < treeCapacity by omega)]
  rfl

/-! ## Answers -/

section
variable {c : NoteCommitment} {a : Root} {position size : Nat}

theorem witness_eq_ok_iff {w : Witness} :
    g.witness c a = .ok w ↔ ∃ size position, g.anchors.lookup a = some size ∧ g.positions.lookup c = some position ∧
      position < size ∧ w = ⟨c, UInt64.ofNat position, g.siblings position size⟩ := by
  unfold witness
  cases g.anchors.lookup a with
  | none => simp
  | some s =>
    cases g.positions.lookup c with
    | none => simp
    | some p =>
      by_cases h : s ≤ p
      · simp [h, Nat.not_lt.2 h]
      · simp [h, Nat.lt_of_not_le h, eq_comm]

theorem witness_eq_unknownAnchor_iff : g.witness c a = .error (.unknownAnchor a) ↔ g.anchors.lookup a = none := by
  unfold witness
  cases g.anchors.lookup a with
  | none => simp
  | some s =>
    cases g.positions.lookup c with
    | none => simp
    | some p => by_cases h : s ≤ p <;> simp [h]

theorem witness_eq_unknownCommitment_iff :
    g.witness c a = .error (.unknownCommitment c) ↔
      (∃ size, g.anchors.lookup a = some size) ∧ g.positions.lookup c = none := by
  unfold witness
  cases g.anchors.lookup a with
  | none => simp
  | some s =>
    cases g.positions.lookup c with
    | none => simp
    | some p => by_cases h : s ≤ p <;> simp [h]

theorem witness_eq_afterAnchor_iff :
    g.witness c a = .error (.afterAnchor position size) ↔
      g.anchors.lookup a = some size ∧ g.positions.lookup c = some position ∧ size ≤ position := by
  unfold witness
  cases g.anchors.lookup a with
  | none => simp
  | some s =>
    cases g.positions.lookup c with
    | none => simp
    | some p => by_cases h : s ≤ p <;> simp [h] <;> omega

end

/-- The sizes at which the tree had a root. -/
def sizes (l : List NoteCommitment) (anchor : Root) : Set Nat := {s | s ≤ l.length ∧ CompleteTree.rootAt l s = anchor}

/-- The indices of a commitment. -/
def indices (l : List NoteCommitment) (c : NoteCommitment) : Set Nat := {i | l[i]? = some c}

theorem Holds.lookup_anchors (hg : g.Holds l) {a : Root} {s : Nat} :
    g.anchors.lookup a = some s ↔ IsLeast (sizes l a) s := by
  have hset : {j | (CompleteTree.roots l)[j]? = some a} = sizes l a := by
    ext s
    simp only [CompleteTree.roots, List.getElem?_map, Option.map_eq_some_iff, List.getElem?_eq_some_iff, List.length_range,
      List.getElem_range, sizes, Set.mem_ofPred_eq]
    constructor
    · rintro ⟨_, ⟨hs, rfl⟩, ha⟩; exact ⟨by omega, ha⟩
    · rintro ⟨hs, ha⟩; exact ⟨s, ⟨by omega, rfl⟩, ha⟩
  rw [hg.anchors_firsts, idxOf?_eq_some_iff, hset]

theorem Holds.lookup_anchors_eq_none (hg : g.Holds l) {a : Root} :
    g.anchors.lookup a = none ↔ ∀ s ≤ l.length, CompleteTree.rootAt l s ≠ a := by
  simp only [hg.anchors_firsts a, List.idxOf?_eq_none_iff, CompleteTree.roots, List.mem_map, List.mem_range, not_exists,
    not_and, Nat.lt_succ_iff]

theorem Holds.lookup_positions (hg : g.Holds l) {c : NoteCommitment} {i : Nat} :
    g.positions.lookup c = some i ↔ IsLeast (indices l c) i := by
  rw [hg.positions_firsts, idxOf?_eq_some_iff]
  rfl

theorem Holds.lookup_positions_eq_none (hg : g.Holds l) {c : NoteCommitment} : g.positions.lookup c = none ↔ c ∉ l := by
  rw [hg.positions_firsts, List.idxOf?_eq_none_iff]

/-- How a log of some commitments answers every question: which answer is given when, and that no leaf is refused at a root
of a tree that has it. -/
structure Answers (g : CommitmentLog) (l : List NoteCommitment) : Prop where
  unknownAnchor_iff (c : NoteCommitment) (a : Root) :
    g.witness c a = .error (.unknownAnchor a) ↔ ∀ s ≤ l.length, CompleteTree.rootAt l s ≠ a
  unknownCommitment_iff {c : NoteCommitment} {a : Root} {size : Nat} (hs : IsLeast (sizes l a) size) :
    g.witness c a = .error (.unknownCommitment c) ↔ c ∉ l
  afterAnchor_iff {c : NoteCommitment} {a : Root} {size position : Nat} (hs : IsLeast (sizes l a) size)
    (hp : IsLeast (indices l c) position) : g.witness c a = .error (.afterAnchor position size) ↔ size ≤ position
  witnessed_of_lt {c : NoteCommitment} {a : Root} {size position : Nat} (hs : IsLeast (sizes l a) size)
    (hp : IsLeast (indices l c) position) (hlt : position < size) :
    ∃ w, g.witness c a = .ok w ∧ w.element = c ∧ w.position.toNat = position ∧ w.root = a
  witnessed_or_collides {c : NoteCommitment} {i s : Nat} (hc : l[i]? = some c) (hi : i < s) (hs : s ≤ l.length)
    (hne : c.bytes ≠ Bytes.zero 32) :
    (∃ w, g.witness c (CompleteTree.rootAt l s) = .ok w) ∨
      ∃ s ≤ l.length, ∃ t ≤ l.length, Collides Sha256.compress (CompleteTree.RootHashes (l.take s))
        (CompleteTree.RootHashes (l.take t))

/-- Two trees of one list with the same root, of which only the larger has a leaf that is not empty: blocks collide. -/
theorem collides_of_rootAt_eq {c : NoteCommitment} {s t : Nat} (hroot : CompleteTree.rootAt l s = CompleteTree.rootAt l t)
    (hc : l[i]? = some c) (hs : s ≤ i) (ht : i < t) (hi : i < treeCapacity) (hne : c.bytes ≠ Bytes.zero 32) :
    Collides Sha256.compress (CompleteTree.RootHashes (l.take s)) (CompleteTree.RootHashes (l.take t)) := by
  have hnode : CompleteTree.node (l.take s) treeDepth 0 = CompleteTree.node (l.take t) treeDepth 0 :=
    congrArg (fun r => Node.mk r.bytes) hroot
  rcases CompleteTree.leaf_eq_or_collides hnode (shiftRight_treeDepth hi) with hleaf | hcoll
  · rw [CompleteTree.leaf_of_length_le (by rw [List.length_take]; omega),
      CompleteTree.leaf_of_getElem? (by rw [List.getElem?_take_of_lt ht, hc])] at hleaf
    exact absurd (congrArg Node.bytes hleaf).symm hne
  · exact hcoll

theorem Holds.answers (hg : g.Holds l) (hl : l.length ≤ treeCapacity) : g.Answers l where
  unknownAnchor_iff c a := by rw [witness_eq_unknownAnchor_iff, hg.lookup_anchors_eq_none]
  unknownCommitment_iff {c a size} hs := by
    rw [witness_eq_unknownCommitment_iff, hg.lookup_positions_eq_none]
    exact and_iff_right ⟨size, hg.lookup_anchors.2 hs⟩
  afterAnchor_iff {c a size position} hs hp := by
    rw [witness_eq_afterAnchor_iff, hg.lookup_anchors.2 hs, hg.lookup_positions.2 hp]
    simp
  witnessed_of_lt {c a size position} hs hp hlt := by
    have hc : l[position]? = some c := hp.1
    have hcap : treeCapacity < UInt64.size := by decide
    have hpl : position < l.length := (List.getElem?_eq_some_iff.1 hc).1
    refine ⟨⟨c, UInt64.ofNat position, g.siblings position size⟩, ?_, rfl, UInt64.toNat_ofNat_of_lt' (by omega), ?_⟩
    · exact witness_eq_ok_iff.2 ⟨size, position, hg.lookup_anchors.2 hs, hg.lookup_positions.2 hp, hlt, rfl⟩
    · rw [hg.root_path hc hlt hl, hs.1.2]
  witnessed_or_collides {c i s} hc hi hs hne := by
    cases hsize : g.anchors.lookup (CompleteTree.rootAt l s) with
    | none => exact absurd rfl (hg.lookup_anchors_eq_none.1 hsize s hs)
    | some size =>
      have hleast := hg.lookup_anchors.1 hsize
      cases hpos : g.positions.lookup c with
      | none => exact absurd (List.mem_of_getElem? hc) (hg.lookup_positions_eq_none.1 hpos)
      | some position =>
        have hfirst := hg.lookup_positions.1 hpos
        have hle : position ≤ i := hfirst.2 hc
        by_cases hlt : position < size
        · exact Or.inl ⟨_, witness_eq_ok_iff.2 ⟨size, position, hsize, hpos, hlt, rfl⟩⟩
        · exact Or.inr ⟨size, hleast.1.1, s, hs,
            collides_of_rootAt_eq hleast.1.2 hfirst.1 (by omega) (by omega) (by omega) hne⟩

/-- **The log witnesses what its trees hold.** Any commitments that fit into a tree can be appended to a log. After each
number of appends its root is that of the complete tree over the commitments so far, and the whole log answers every question
by these roots. -/
theorem witness_answers (l : List NoteCommitment) (hl : l.length ≤ treeCapacity) :
    ∃ g, l.foldlM CommitmentLog.append empty = .ok g ∧
      (∀ s ≤ l.length, ∃ g', (l.take s).foldlM CommitmentLog.append empty = .ok g' ∧ g'.root = CompleteTree.rootAt l s) ∧
      g.Answers l := by
  obtain ⟨g, hg, hh⟩ := exists_foldlM hl
  refine ⟨g, hg, fun s _ => ?_, hh.answers hl⟩
  have hlen : (l.take s).length ≤ treeCapacity := by rw [List.length_take]; omega
  obtain ⟨g', hg', hh'⟩ := exists_foldlM hlen
  exact ⟨g', hg', hh'.root_eq hlen⟩

/-- A commitment that is appended twice, with an empty leaf in between. -/
theorem witness_answers_repeated :
    let c : NoteCommitment := ⟨Bytes.ofNat 32 7⟩
    let l : List NoteCommitment := [c, ⟨Bytes.zero 32⟩, c]
    l.length ≤ treeCapacity ∧
      ∃ g, l.foldlM CommitmentLog.append empty = .ok g ∧
        (∀ s ≤ l.length, ∃ g', (l.take s).foldlM CommitmentLog.append empty = .ok g' ∧ g'.root = CompleteTree.rootAt l s) ∧
        g.Answers l :=
  ⟨by decide, witness_answers _ (by decide)⟩

end CommitmentLog

end ShieldedPool
