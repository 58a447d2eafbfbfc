import ShieldedPool.Proofs.Tree.Log

/-!
# One pass over the layers

The siblings of a position are collected in one pass from the leaves up (`NoteCommitmentLog::siblings`). On each height the
sibling is looked up in the layer and written to its place, the layer is cut into pairs and gives way to the nodes above
them, and the index is halved. `siblings?` is this pass with every place that is read or written checked, so that it has no
answer as soon as one of them does not exist. Only a node of a layer may be missing, and then the empty root of that height
stands for it, which is read from the table of empty roots (`EMPTY_ROOTS`) by its distance from the root.

`Pass.Reached` ties a pass to the complete tree and is kept on each height (`Pass.Reached.step`). So whatever the number of
leaves, a pass over leaves that are there comes to its end (`siblings?_eq`), and what it has collected are the roots of the
subtrees beside the way up (`siblings_are_subtree_roots`).
-/

namespace ShieldedPool

namespace Node

/-- The empty root of a height, from the table that begins with the root of the whole tree. -/
def emptyRoot? (height : Nat) : Option Node :=
  if height ≤ treeDepth then emptyRoots[treeDepth - height]? else none

theorem emptyRoot?_of_le {h : Nat} (hh : h ≤ treeDepth) : emptyRoot? h = some (emptyAt h) := by
  rw [emptyRoot?, if_pos hh, emptyRoots_getElem? hh]

end Node

namespace CommitmentLog

/-! ## One height -/

/-- A layer two nodes at a time; the last node may be left alone. -/
def pairs : List Node → List (List Node)
  | [] => []
  | [n] => [[n]]
  | l :: r :: rest => [l, r] :: pairs rest

/-- The node above a pair, which must have a left node. -/
def abovePair? (empty : Node) (pair : List Node) : Option Node := do
  let left ← pair[0]?
  return Node.combine left (pair[1]?.getD empty)

/-- Every pair has a left node. -/
theorem mapM_abovePair?_pairs (e : Node) : ∀ layer : List Node,
    (pairs layer).mapM (abovePair? e) = some (nextLayer e layer)
  | [] => rfl
  | [_] => rfl
  | l :: r :: rest => by
    rw [pairs, List.mapM_cons, mapM_abovePair?_pairs e rest]
    rfl

/-- A pass on its way up. -/
structure Pass where
  layer : List Node
  index : Nat
  /-- The path, of which the places from the height of the layer on are still to be written. -/
  siblings : Vector Node treeDepth

/-- One height of a pass. -/
def Pass.step? (s : Pass) (height : Nat) : Option Pass := do
  let empty ← Node.emptyRoot? height
  let sibling := s.layer[s.index ^^^ 1]?.getD empty
  let layer ← (pairs s.layer).mapM (abovePair? empty)
  if hh : height < treeDepth then return ⟨layer, s.index >>> 1, s.siblings.set height sibling⟩
  else none

variable {l : List NoteCommitment} {position size h n : Nat} {s : Pass}

/-- On every height below the root all that is needed is there. -/
theorem Pass.step?_of_lt (s : Pass) (hh : h < treeDepth) :
    s.step? h = some ⟨nextLayer (Node.emptyAt h) s.layer, s.index >>> 1,
      s.siblings.set h (s.layer.getD (s.index ^^^ 1) (Node.emptyAt h))⟩ := by
  simp only [step?, Node.emptyRoot?_of_le (Nat.le_of_lt hh), mapM_abovePair?_pairs, dif_pos hh, List.getD_eq_getElem?_getD]
  rfl

/-- A pass that has come to a height stands before the layer and the index there, with the siblings of all heights below. -/
structure Pass.Reached (l : List NoteCommitment) (position h : Nat) (s : Pass) : Prop where
  isLayer : IsLayer l h s.layer
  index_eq : s.index = position >>> h
  siblings_eq : ∀ k < h, s.siblings[k]? = some (CompleteTree.node l k ((position >>> k) ^^^ 1))

/-- **A pass always goes on to the next height**, and there it has one sibling more. -/
theorem Pass.Reached.step (hs : s.Reached l position h) (hh : h < treeDepth) :
    ∃ t, s.step? h = some t ∧ t.Reached l position (h + 1) := by
  refine ⟨_, s.step?_of_lt hh, hs.isLayer.next, ?_, fun k hk => ?_⟩
  · rw [hs.index_eq, Nat.shiftRight_add]
  · rw [Vector.getElem?_set, hs.isLayer, hs.index_eq]
    by_cases hkh : h = k
    · rw [if_pos hkh, hkh]
    · rw [if_neg hkh]
      exact hs.siblings_eq k (by omega)

/-! ## The whole pass -/

/-- A pass goes on to any height of the tree. -/
theorem Pass.Reached.foldlM (hs : s.Reached l position 0) (hn : n ≤ treeDepth) :
    ∃ t, (List.range n).foldlM Pass.step? s = some t ∧ t.Reached l position n := by
  induction n with
  | zero => exact ⟨s, rfl, hs⟩
  | succ n ih =>
    obtain ⟨t, ht, hreached⟩ := ih (Nat.le_of_succ_le hn)
    obtain ⟨u, hu, hnext⟩ := hreached.step hn
    refine ⟨u, ?_, hnext⟩
    rw [List.range_succ, List.foldlM_append, ht]
    simpa using hu

/-- The siblings of a position among the first `size` leaves, all of which must be there. -/
def siblings? (g : CommitmentLog) (position size : Nat) : Option (Vector Node treeDepth) :=
  if size ≤ g.size then do
    let empty ← Node.emptyRoot? 0
    let s ← (List.range treeDepth).foldlM Pass.step? ⟨g.leaves.take size, position, Vector.replicate treeDepth empty⟩
    return s.siblings
  else none

/-- The commitments that the leaves of a log stand for. -/
def commitments (g : CommitmentLog) : List NoteCommitment := g.leaves.map fun n => ⟨n.bytes⟩

variable {g : CommitmentLog}

theorem leaves_eq_map_commitments (g : CommitmentLog) : g.leaves = g.commitments.map NoteCommitment.leaf := by
  rw [commitments, List.map_map]
  exact (List.map_id g.leaves).symm

/-- These are the commitments that were appended. -/
theorem Holds.commitments_eq (hg : g.Holds l) : g.commitments = l := by
  rw [commitments, hg.leaves_eq, List.map_map]
  exact List.map_id l

theorem reached_leaves (g : CommitmentLog) (position size : Nat) (v : Vector Node treeDepth) :
    Pass.Reached (g.commitments.take size) position 0 ⟨g.leaves.take size, position, v⟩ := by
  refine ⟨?_, rfl, fun k hk => absurd hk (Nat.not_lt_zero k)⟩
  rw [leaves_eq_map_commitments g, ← List.map_take]
  exact isLayer_leaves _

theorem getElem?_siblings (g : CommitmentLog) (position size : Nat) (hh : h < treeDepth) :
    (g.siblings position size)[h]? = some (CompleteTree.node (g.commitments.take size) h ((position >>> h) ^^^ 1)) := by
  have hpath := toList_siblings (leaves_eq_map_commitments g) position size
  rw [← Vector.getElem?_toList, hpath, CompleteTree.siblings_getElem? hh, Nat.zero_add]

/-- A pass that is through has collected the path. -/
theorem Pass.Reached.eq_siblings (hs : s.Reached (g.commitments.take size) position treeDepth) :
    s.siblings = g.siblings position size := by
  ext k hk : 1
  have hk' := (hs.siblings_eq k hk).trans (getElem?_siblings g position size hk).symm
  simpa [hk] using hk'

/-- **The pass finds every place that it reads or writes**, if only there are as many leaves as it is to begin with. -/
theorem siblings?_eq (g : CommitmentLog) (position size : Nat) :
    g.siblings? position size = if size ≤ g.size then some (g.siblings position size) else none := by
  obtain ⟨s, hs, hreached⟩ :=
    (reached_leaves g position size (Vector.replicate treeDepth (Node.emptyAt 0))).foldlM (Nat.le_refl treeDepth)
  rw [siblings?, Node.emptyRoot?_of_le (Nat.zero_le _), Option.bind_eq_bind, Option.bind_some, hs, ← hreached.eq_siblings]
  rfl

/-- **Siblings are roots of subtrees.** In any log, the pass over the first `size` leaves finds every place it reads or
writes, and for each height it collects the node of the complete tree over these leaves that is next to the way up. If this
subtree begins behind the leaves, then it is the empty root of its height. -/
theorem siblings_are_subtree_roots (g : CommitmentLog) (position : Nat) (hs : size ≤ g.size) :
    g.siblings? position size = some (g.siblings position size) ∧
      ∀ h < treeDepth,
        (g.siblings position size)[h]? = some (CompleteTree.node (g.commitments.take size) h ((position >>> h) ^^^ 1)) ∧
        (size ≤ ((position >>> h) ^^^ 1) <<< h → (g.siblings position size)[h]? = some (Node.emptyAt h)) := by
  refine ⟨by rw [siblings?_eq, if_pos hs], fun h hh => ⟨getElem?_siblings g position size hh, fun hbehind => ?_⟩⟩
  have hlen : (g.commitments.take size).length ≤ ((position >>> h) ^^^ 1) <<< h := by
    rw [List.length_take]
    omega
  rw [getElem?_siblings g position size hh, CompleteTree.node_of_length_le hlen, Node.emptyAt_eq_empty]

/-- The last of five leaves, in a log that has gone on to six: there is nothing beside it on the two lowest heights, and the
first four leaves on the third. -/
theorem siblings_are_subtree_roots_fifth :
    let l : List NoteCommitment := (List.range 6).map fun n => ⟨Bytes.ofNat 32 (n + 1)⟩
    ∃ g, l.foldlM CommitmentLog.append empty = .ok g ∧ 5 ≤ g.size ∧ g.siblings? 4 5 = some (g.siblings 4 5) ∧
      (g.siblings 4 5)[0]? = some (Node.emptyAt 0) ∧ (g.siblings 4 5)[1]? = some (Node.emptyAt 1) ∧
      (g.siblings 4 5)[2]? = some (CompleteTree.node (l.take 5) 2 0) := by
  intro l
  obtain ⟨g, hg, hholds⟩ := exists_foldlM (l := l) (by decide)
  have hsize : 5 ≤ g.size := by
    rw [size, hholds.leaves_eq]
    decide
  obtain ⟨hpass, hpath⟩ := siblings_are_subtree_roots g 4 hsize
  have hthird := (hpath 2 (by decide)).1
  rw [hholds.commitments_eq] at hthird
  exact ⟨g, hg, hsize, hpass, (hpath 0 (by decide)).2 (by decide), (hpath 1 (by decide)).2 (by decide), hthird⟩

end CommitmentLog

end ShieldedPool
