import ShieldedPool.Proofs.Collision
import ShieldedPool.Tree.Complete

/-!
# What a node of the complete tree depends on

A node is fixed by the leaves below it, so appending leaves a subtree alone that is full already. The other way round, a node
fixes the leaves below it unless two of the blocks compressed on the way collide: `leaf_eq_or_collides` follows two trees
down from a node that they share.
-/

namespace ShieldedPool

theorem Node.block_inj {l r l' r' : Node} : Node.block l r = Node.block l' r' ↔ l = l' ∧ r = r' := by
  obtain ⟨l⟩ := l; obtain ⟨r⟩ := r; obtain ⟨l'⟩ := l'; obtain ⟨r'⟩ := r'
  simp only [Node.block, Node.mk.injEq]
  constructor
  · exact fun h => Vector.append_inj h
  · rintro ⟨rfl, rfl⟩; rfl

theorem NoteCommitment.leaf_injective {c d : NoteCommitment} (h : c.leaf = d.leaf) : c = d :=
  congrArg (fun n => NoteCommitment.mk n.bytes) h

/-- Every position in the tree is below the root. -/
theorem shiftRight_treeDepth {i : Nat} (hi : i < treeCapacity) : i >>> treeDepth = 0 := by
  rw [treeCapacity, Nat.shiftLeft_eq, Nat.one_mul] at hi
  rw [Nat.shiftRight_eq_div_pow]
  exact Nat.div_eq_of_lt hi

namespace CompleteTree

variable {l m : List NoteCommitment} {h i j : Nat}

/-! ## Leaves -/

theorem leaf_of_getElem? {c : NoteCommitment} (hc : l[i]? = some c) : leaf l i = c.leaf := by
  simp [leaf, hc]

theorem leaf_append_of_lt (hi : i < l.length) : leaf (l ++ m) i = leaf l i := by
  simp [leaf, List.getElem?_append_left hi]

theorem leaf_length (c : NoteCommitment) : leaf (l ++ [c]) l.length = c.leaf := leaf_of_getElem? (by simp)

/-- A leaf is one of the commitments, or empty. -/
theorem leaf_cases (l : List NoteCommitment) (i : Nat) :
    (∃ c ∈ l, l[i]? = some c ∧ leaf l i = c.leaf) ∨ leaf l i = Node.emptyLeaf := by
  cases hc : l[i]? with
  | none => exact Or.inr (by simp [leaf, hc])
  | some c => exact Or.inl ⟨c, List.mem_of_getElem? hc, rfl, leaf_of_getElem? hc⟩

theorem mem_or_empty_of_leaf_eq {c : NoteCommitment} (hc : c.leaf = leaf l i) : c ∈ l ∨ c.bytes = Bytes.zero 32 := by
  rcases leaf_cases l i with ⟨d, hd, _, hdl⟩ | hempty
  · exact Or.inl (NoteCommitment.leaf_injective (hc.trans hdl) ▸ hd)
  · exact Or.inr (congrArg Node.bytes (hc.trans hempty))

/-! ## Nodes -/

theorem node_succ (l : List NoteCommitment) (h i : Nat) :
    node l (h + 1) i = Node.combine (node l h (2 * i)) (node l h (2 * i + 1)) := rfl

/-- The node above a left child. -/
theorem node_succ_of_even (hi : i % 2 = 0) :
    node l (h + 1) (i / 2) = Node.combine (node l h i) (node l h (i + 1)) := by
  rw [node_succ, show 2 * (i / 2) = i by omega]

/-- A node depends on the leaves below it only. -/
theorem node_congr (hl : ∀ j, j >>> h = i → leaf l j = leaf m j) : node l h i = node m h i := by
  induction h generalizing i with
  | zero => exact hl i rfl
  | succ h ih =>
    rw [node_succ, node_succ]
    congr 1
    · exact ih fun j hj => hl j (by rw [Nat.shiftRight_succ, hj]; omega)
    · exact ih fun j hj => hl j (by rw [Nat.shiftRight_succ, hj]; omega)

/-- Appending does not change a subtree that is full. -/
theorem node_append_of_le (hi : (i + 1) <<< h ≤ l.length) : node (l ++ m) h i = node l h i := by
  refine node_congr fun j hj => leaf_append_of_lt ?_
  rw [Nat.shiftLeft_eq] at hi
  rw [Nat.shiftRight_eq_div_pow] at hj
  exact Nat.lt_of_lt_of_le (Nat.lt_mul_of_div_lt (by omega) (Nat.two_pow_pos h)) hi

/-! ## Blocks -/

/-- What is compressed for the node at an index of the height above `h`. -/
def block (l : List NoteCommitment) (h i : Nat) : Bytes 64 := Node.block (node l h (2 * i)) (node l h (2 * i + 1))

/-- The blocks that are compressed for a node: its own and those for its children. -/
def Hashes (l : List NoteCommitment) : (height index : Nat) → Bytes 64 → Prop
  | 0, _, _ => False
  | h + 1, i, b => b = block l h i ∨ Hashes l h (2 * i) b ∨ Hashes l h (2 * i + 1) b

/-- The blocks that are compressed for the root. -/
def RootHashes (l : List NoteCommitment) : Bytes 64 → Prop := Hashes l treeDepth 0

theorem Hashes.parent {b : Bytes 64} (hb : Hashes l h i b) : Hashes l (h + 1) (i / 2) b := by
  rcases Nat.mod_two_eq_zero_or_one i with e | e
  · rw [show i = 2 * (i / 2) by omega] at hb
    exact Or.inr (Or.inl hb)
  · rw [show i = 2 * (i / 2) + 1 by omega] at hb
    exact Or.inr (Or.inr hb)

theorem Hashes.ancestor {b : Bytes 64} (hb : Hashes l h i b) : ∀ n, Hashes l (h + n) (i >>> n) b
  | 0 => hb
  | n + 1 => by
    rw [Nat.shiftRight_succ]
    exact (hb.ancestor n).parent

/-- **A node fixes the leaves below it.** Two trees with the same node have the same leaves there, or two blocks below it
collide. -/
theorem leaf_eq_or_collides (e : node l h i = node m h i) (hj : j >>> h = i) :
    leaf l j = leaf m j ∨ Collides Sha256.compress (Hashes l h i) (Hashes m h i) := by
  induction h generalizing i with
  | zero =>
    rw [Nat.shiftRight_zero] at hj
    exact Or.inl (hj ▸ e)
  | succ h ih =>
    rw [Nat.shiftRight_succ] at hj
    have hv : Sha256.compress (block l h i) = Sha256.compress (block m h i) := congrArg Node.bytes e
    rcases eq_or_collision hv with hb | hc
    · obtain ⟨hleft, hright⟩ := Node.block_inj.1 hb
      rcases Nat.mod_two_eq_zero_or_one (j >>> h) with hp | hp
      · exact (ih hleft (by omega)).imp_right (.mono (fun _ => .inr ∘ .inl) fun _ => .inr ∘ .inl)
      · exact (ih hright (by omega)).imp_right (.mono (fun _ => .inr ∘ .inr) fun _ => .inr ∘ .inr)
    · exact Or.inr ⟨_, _, Or.inl rfl, Or.inl rfl, hc⟩

end CompleteTree

end ShieldedPool
