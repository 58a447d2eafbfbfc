import Mathlib.Data.Nat.Bitwise
import ShieldedPool.Proofs.Tree.Complete
import ShieldedPool.Tree.Witness

/-!
# Authentication paths and the complete tree

A path with the right siblings leads to the root of the complete tree (`climb_siblings`). Two paths from one index to one
node are the same, or two blocks of one level collide (`climb_inj_or_collide`). So a path with any siblings that leads to the
root of the tree starts from the leaf at its position, or a block compressed on the way up collides with one of the tree's
(`leaf_eq_or_collides_of_root`). For any root, tree or not, there is one path to a position (`root_binds_path`). Positions
count modulo the capacity: what is above the bits that choose sides does not reach the root.
-/

namespace ShieldedPool

namespace CompleteTree

/-- The siblings on the way up from an index of a height, for the given number of levels. -/
def siblings (l : List NoteCommitment) : (levels height index : Nat) → List Node
  | 0, _, _ => []
  | n + 1, h, i => node l h (i ^^^ 1) :: siblings l n (h + 1) (i / 2)

theorem length_siblings (l : List NoteCommitment) (n h i : Nat) : (siblings l n h i).length = n := by
  induction n generalizing h i with
  | zero => rfl
  | succ n ih => rw [siblings, List.length_cons, ih]

/-- On each level the sibling is the other child of the next node on the way. -/
theorem siblings_getElem? {l : List NoteCommitment} {n k : Nat} (hk : k < n) (h i : Nat) :
    (siblings l n h i)[k]? = some (node l (h + k) ((i >>> k) ^^^ 1)) := by
  induction n generalizing h i k with
  | zero => omega
  | succ n ih =>
    cases k with
    | zero => rfl
    | succ k =>
      rw [siblings, List.getElem?_cons_succ, ih (by omega), Nat.shiftRight_succ_inside,
        show h + 1 + k = h + (k + 1) by omega]

end CompleteTree

namespace Witness

variable {l : List NoteCommitment} {node m n s t : Node} {r r' : List Node} {h p : Nat}

/-! ## One level -/

/-- What is compressed on one level of a path. -/
def pairBlock (node sibling : Node) (position : Nat) : Bytes 64 :=
  if position % 2 = 0 then Node.block node sibling else Node.block sibling node

/-- The blocks that are compressed on the way up, the lowest first. -/
def climbBlocks (node : Node) (position : Nat) : List Node → List (Bytes 64)
  | [] => []
  | s :: r =>
    let b := pairBlock node s position
    b :: climbBlocks ⟨Sha256.compress b⟩ (position / 2) r

/-- The blocks that are compressed for the root of a path. -/
def blocks (w : Witness) : List (Bytes 64) := climbBlocks w.element.leaf w.position.toNat w.siblings.toList

theorem climb_cons (node s : Node) (p : Nat) (r : List Node) :
    climb node p (s :: r) = climb ⟨Sha256.compress (pairBlock node s p)⟩ (p / 2) r := by
  rw [climb, pairBlock]
  split <;> rfl

/-- The block of a level is that of the complete tree just when the node and its sibling are. -/
theorem pairBlock_eq_block_iff :
    pairBlock node s p = CompleteTree.block l h (p / 2) ↔
      node = CompleteTree.node l h p ∧ s = CompleteTree.node l h (p ^^^ 1) := by
  unfold pairBlock CompleteTree.block
  by_cases hp : p % 2 = 0
  · rw [if_pos hp, Nat.xor_one_of_even (Nat.even_iff.2 hp), Node.block_inj, show 2 * (p / 2) = p by omega]
  · rw [if_neg hp, Nat.xor_one_of_odd (Nat.odd_iff.2 (by omega)), Node.block_inj, show 2 * (p / 2) = p - 1 by omega,
      show p - 1 + 1 = p by omega]
    exact and_comm

/-- The position says on which side the sibling stands, so the block determines both. -/
theorem pairBlock_inj : pairBlock m s p = pairBlock n t p ↔ m = n ∧ s = t := by
  unfold pairBlock
  split
  · exact Node.block_inj
  · rw [Node.block_inj, and_comm]

/-! ## Whole paths -/

/-- On some level, the blocks of two paths collide. -/
def CollideOnLevel (bs cs : List (Bytes 64)) : Prop :=
  ∃ (level : Nat) (b c : Bytes 64), bs[level]? = some b ∧ cs[level]? = some c ∧ Collision Sha256.compress b c

theorem CollideOnLevel.collides {bs cs : List (Bytes 64)} (h : CollideOnLevel bs cs) :
    Collides Sha256.compress (· ∈ bs) (· ∈ cs) := by
  obtain ⟨_, b, c, hb, hc, hcollision⟩ := h
  exact ⟨b, c, List.mem_of_getElem? hb, List.mem_of_getElem? hc, hcollision⟩

theorem CollideOnLevel.cons {b c : Bytes 64} {bs cs : List (Bytes 64)} (h : CollideOnLevel bs cs) :
    CollideOnLevel (b :: bs) (c :: cs) := by
  obtain ⟨level, b', c', hb, hc, hcollision⟩ := h
  exact ⟨level + 1, b', c', hb, hc, hcollision⟩

/-- **One end, one beginning.** Two ways up from the same index, through equally many levels, that reach the same node have
begun at the same node and met the same siblings, or their blocks collide on some level. -/
theorem climb_inj_or_collide (hlen : r.length = r'.length) (e : climb m p r = climb n p r') :
    (m = n ∧ r = r') ∨ CollideOnLevel (climbBlocks m p r) (climbBlocks n p r') := by
  induction r generalizing m n p r' with
  | nil =>
    obtain rfl := List.length_eq_zero_iff.1 hlen.symm
    exact Or.inl ⟨e, rfl⟩
  | cons s r ih =>
    cases r' with
    | nil => cases hlen
    | cons t r' =>
      rw [climb_cons, climb_cons] at e
      rcases ih (Nat.succ.inj hlen) e with ⟨hnode, rfl⟩ | hc
      · have hv : Sha256.compress (pairBlock m s p) = Sha256.compress (pairBlock n t p) := congrArg Node.bytes hnode
        rcases eq_or_collision hv with hb | hc
        · obtain ⟨hmn, rfl⟩ := pairBlock_inj.1 hb
          exact Or.inl ⟨hmn, rfl⟩
        · exact Or.inr ⟨0, _, _, rfl, rfl, hc⟩
      · exact Or.inr hc.cons

/-- **The right siblings lead to the root.** -/
theorem climb_siblings (l : List NoteCommitment) (n h p : Nat) :
    climb (CompleteTree.node l h p) p (CompleteTree.siblings l n h p) = CompleteTree.node l (h + n) (p >>> n) := by
  induction n generalizing h p with
  | zero => rfl
  | succ n ih =>
    rw [CompleteTree.siblings, climb_cons, pairBlock_eq_block_iff.2 ⟨rfl, rfl⟩, Nat.shiftRight_succ_inside,
      show h + (n + 1) = h + 1 + n by omega]
    exact ih (h + 1) (p / 2)

/-- On the way up with the right siblings, the tree's own blocks are compressed. -/
theorem hashes_of_mem_climbBlocks {b : Bytes 64} (n h p : Nat)
    (hb : b ∈ climbBlocks (CompleteTree.node l h p) p (CompleteTree.siblings l n h p)) :
    CompleteTree.Hashes l (h + n) (p >>> n) b := by
  induction n generalizing h p with
  | zero => cases hb
  | succ n ih =>
    rw [CompleteTree.siblings, climbBlocks, pairBlock_eq_block_iff.2 ⟨rfl, rfl⟩] at hb
    rw [Nat.shiftRight_succ_inside, show h + (n + 1) = h + 1 + n by omega]
    rcases List.mem_cons.1 hb with rfl | hb
    · have htop : CompleteTree.Hashes l (h + 1) (p / 2) (CompleteTree.block l h (p / 2)) := Or.inl rfl
      exact htop.ancestor n
    · exact ih (h + 1) (p / 2) hb

/-- **A path to a node of the tree starts from the tree.** Whatever the siblings, if the way up reaches the ancestor of an
index, it began with the node at that index, or a block of the path collides with one below the ancestor. -/
theorem eq_node_or_collides (e : climb node p r = CompleteTree.node l (h + r.length) (p >>> r.length)) :
    node = CompleteTree.node l h p ∨
      Collides Sha256.compress (· ∈ climbBlocks node p r) (CompleteTree.Hashes l (h + r.length) (p >>> r.length)) := by
  have hlen : r.length = (CompleteTree.siblings l r.length h p).length := (CompleteTree.length_siblings ..).symm
  rcases climb_inj_or_collide hlen (e.trans (climb_siblings l r.length h p).symm) with ⟨hnode, _⟩ | hc
  · exact Or.inl hnode
  · exact Or.inr (hc.collides.mono (fun _ => id) fun _ => hashes_of_mem_climbBlocks r.length h p)

/-- The path of a single leaf leads to the tree of that leaf alone. -/
theorem root_single (c : NoteCommitment) : (single c).root = CompleteTree.root [c] := by
  have hsib : (single c).siblings.toList = CompleteTree.siblings [c] treeDepth 0 0 := by
    refine List.ext_getElem? fun k => ?_
    by_cases hk : k < treeDepth
    · have hempty : CompleteTree.node [c] k 1 = Node.empty k :=
        CompleteTree.node_of_length_le (by simp [Nat.shiftLeft_eq, Nat.one_le_two_pow])
      rw [CompleteTree.siblings_getElem? hk, Nat.zero_shiftRight, Nat.zero_add, Nat.zero_xor, hempty]
      simp [single, hk, Node.emptyAt_eq_empty]
    · rw [List.getElem?_eq_none (by simpa using hk),
        List.getElem?_eq_none (by rw [CompleteTree.length_siblings]; exact Nat.le_of_not_lt hk)]
  have hclimb := climb_siblings [c] treeDepth 0 0
  rw [← hsib, Nat.zero_add, Nat.zero_shiftRight] at hclimb
  exact congrArg (fun n => Root.mk n.bytes) hclimb

/-! ## The position counts modulo the capacity -/

/-- On the way up through some levels, only that many low bits of the position matter. -/
theorem climb_congr {q : Nat} (hpq : p % 1 <<< r.length = q % 1 <<< r.length) :
    climb node p r = climb node q r ∧ climbBlocks node p r = climbBlocks node q r := by
  induction r generalizing node p q with
  | nil => exact ⟨rfl, rfl⟩
  | cons s r ih =>
    have hpow : 1 <<< (r.length + 1) = 2 * 1 <<< r.length := by rw [Nat.shiftLeft_succ]
    rw [List.length_cons, hpow, Nat.mod_mul, Nat.mod_mul] at hpq
    have hbit : p % 2 = q % 2 := by omega
    have hrest : p / 2 % 1 <<< r.length = q / 2 % 1 <<< r.length := by omega
    have hblock : pairBlock node s p = pairBlock node s q := by rw [pairBlock, pairBlock, hbit]
    rw [climb_cons, climb_cons, climbBlocks, climbBlocks, hblock]
    exact ⟨(ih hrest).1, congrArg _ (ih hrest).2⟩

/-- The leaf that a path is about. -/
def index (w : Witness) : Nat := w.position.toNat % treeCapacity

theorem index_lt (w : Witness) : w.index < treeCapacity := Nat.mod_lt _ (by decide)

theorem climb_index (w : Witness) :
    climb w.element.leaf w.index w.siblings.toList = climb w.element.leaf w.position.toNat w.siblings.toList ∧
      climbBlocks w.element.leaf w.index w.siblings.toList = w.blocks :=
  climb_congr (by rw [Vector.length_toList]; exact Nat.mod_mod _ _)

/-- The root is what the climb from the leaf's index reaches. -/
theorem root_eq_climb_index (w : Witness) : w.root = ⟨(climb w.element.leaf w.index w.siblings.toList).bytes⟩ := by
  rw [w.climb_index.1, root]

/-! ## Paths to the root -/

/-- **A root binds its leaves.** If a path leads to the root of the complete tree, the commitment that it is for is the leaf
at its position, or a block of the path collides with one of the tree. -/
theorem leaf_eq_or_collides_of_root {w : Witness} {l : List NoteCommitment} (hw : w.root = CompleteTree.root l) :
    w.element.leaf = CompleteTree.leaf l w.index ∨
      Collides Sha256.compress (· ∈ w.blocks) (CompleteTree.RootHashes l) := by
  have hlen : w.siblings.toList.length = treeDepth := Vector.length_toList
  have hroot : climb w.element.leaf w.position.toNat w.siblings.toList = CompleteTree.node l treeDepth 0 :=
    congrArg (fun r => Node.mk r.bytes) hw
  have key := @eq_node_or_collides l w.element.leaf w.siblings.toList 0 w.index
  rw [hlen, Nat.zero_add, shiftRight_treeDepth w.index_lt, w.climb_index.1, w.climb_index.2] at key
  exact key hroot

/-- **A root binds whole paths.** Two paths about the same leaf, that is, with positions equal up to multiples of the capacity,
which lead to the same root are for the same commitment and have the same siblings, unless their blocks collide on some
level. The root depends on nothing else: the position counts only modulo the capacity. -/
theorem root_binds_path (v w : Witness) (hindex : v.index = w.index) :
    (v.root = w.root → (v.element = w.element ∧ v.siblings = w.siblings) ∨ CollideOnLevel v.blocks w.blocks) ∧
      (v.element = w.element → v.siblings = w.siblings → v.root = w.root) := by
  constructor
  · intro hroot
    have hlen : v.siblings.toList.length = w.siblings.toList.length := by rw [Vector.length_toList, Vector.length_toList]
    have hclimb : climb v.element.leaf v.index v.siblings.toList = climb w.element.leaf v.index w.siblings.toList := by
      rw [root_eq_climb_index, root_eq_climb_index w, ← hindex] at hroot
      exact congrArg (fun r => Node.mk r.bytes) hroot
    have key := climb_inj_or_collide hlen hclimb
    rw [v.climb_index.2, hindex, w.climb_index.2] at key
    rcases key with ⟨hleaf, hsiblings⟩ | hc
    · exact Or.inl ⟨NoteCommitment.leaf_injective hleaf, Vector.toList_inj.1 hsiblings⟩
    · exact Or.inr hc
  · intro helement hsiblings
    rw [root_eq_climb_index, root_eq_climb_index w, helement, hsiblings, hindex]

/-- The two positions differ in a bit above those that choose sides. -/
theorem root_binds_path_high_bit :
    let w : Witness := ⟨⟨Vector.replicate 32 7⟩, 5, Vector.ofFn fun h => ⟨Bytes.ofNat 32 h.val⟩⟩
    let v : Witness := { w with position := 0x20000005 }
    v.position ≠ w.position ∧ v.index = w.index ∧ v.root = w.root ∧
      ((v.element = w.element ∧ v.siblings = w.siblings) ∨ CollideOnLevel v.blocks w.blocks) := by
  intro w v
  have hindex : v.index = w.index := by decide
  have hroot : v.root = w.root := (root_binds_path v w hindex).2 rfl rfl
  exact ⟨by decide, hindex, hroot, (root_binds_path v w hindex).1 hroot⟩

end Witness

end ShieldedPool
