import ShieldedPool.Tree.Node

/-!
# The complete tree

What the incremental tree and the paths stand for: the tree over all commitments so far, padded on the right with empty
leaves. Nodes are addressed by their height and their index at that height, so that the children of an index are twice the
index and its successor.
-/

namespace ShieldedPool.CompleteTree

/-- Of two indices of a height, the subtree of the smaller starts at the smaller leaf. -/
theorem shiftLeft_le_shiftLeft {i j : Nat} (hij : i ≤ j) (h : Nat) : i <<< h ≤ j <<< h := by
  rw [Nat.shiftLeft_eq, Nat.shiftLeft_eq]
  exact Nat.mul_le_mul_right _ hij

/-- A leaf, which is empty past the end of the list. -/
def leaf (l : List NoteCommitment) (index : Nat) : Node := (l[index]?.map NoteCommitment.leaf).getD Node.emptyLeaf

/-- The node at an index of a height. -/
def node (l : List NoteCommitment) : (height index : Nat) → Node
  | 0, i => leaf l i
  | h + 1, i => Node.combine (node l h (2 * i)) (node l h (2 * i + 1))

def root (l : List NoteCommitment) : Root := ⟨(node l treeDepth 0).bytes⟩

theorem leaf_of_length_le {l : List NoteCommitment} {i : Nat} (h : l.length ≤ i) : leaf l i = Node.emptyLeaf := by
  simp [leaf, h]

/-- A subtree that starts at or past the end of the list is empty. -/
theorem node_of_length_le {l : List NoteCommitment} {h i : Nat} (hl : l.length ≤ i <<< h) :
    node l h i = Node.empty h := by
  induction h generalizing i with
  | zero => exact leaf_of_length_le (by simpa using hl)
  | succ h ih =>
    have hr : (2 * i) <<< h ≤ (2 * i + 1) <<< h := shiftLeft_le_shiftLeft (Nat.le_succ _) h
    rw [Nat.shiftLeft_succ_inside] at hl
    simp only [node, Node.empty, ih hl, ih (Nat.le_trans hl hr)]

end ShieldedPool.CompleteTree
