import ShieldedPool.Hash.Sha256
import ShieldedPool.Note.Basic

/-!
# Nodes of the commitment tree

The tree is a complete binary tree with `2 ^ 29` leaves. A leaf is a note commitment, or zeros where none has been appended
yet; an inner node is the compression of its two children (`merkle_crh_sprout`). Heights count up from the leaves.
-/

namespace ShieldedPool

/-- The number of levels above the leaves (`MERKLE_DEPTH`). -/
def treeDepth : Nat := 29

/-- The number of leaves. -/
def treeCapacity : Nat := 1 <<< treeDepth

/-- A node of the tree (`Node`). -/
structure Node where
  bytes : Bytes 32
deriving DecidableEq

/-- The root of a tree (`Root`): a state of the pool that a spend can refer to. -/
structure Root where
  bytes : Bytes 32
deriving DecidableEq

instance : Inhabited Root := ⟨⟨Bytes.zero 32⟩⟩

/-- The leaf of a commitment (`Node::from`). -/
def NoteCommitment.leaf (c : NoteCommitment) : Node := ⟨c.bytes⟩

namespace Node

/-- The block that `merkle_crh_sprout` compresses. -/
def block (l r : Node) : Bytes 64 := l.bytes ++ r.bytes

/-- The node above two nodes (`merkle_crh_sprout`). -/
def combine (l r : Node) : Node := ⟨Sha256.compress (block l r)⟩

/-- The leaf that stands where nothing has been appended (`UNCOMMITTED`). -/
def emptyLeaf : Node := ⟨Bytes.zero 32⟩

/-- The root of a tree of a given height without any commitment. -/
def empty : Nat → Node
  | 0 => emptyLeaf
  | h + 1 => let n := empty h; combine n n

/-! ## The table of empty roots -/

/-- The node and those above it, each the parent of two copies of the one before. -/
def tower (n : Node) : Nat → List Node
  | 0 => [n]
  | k + 1 => n :: tower (combine n n) k

theorem tower_empty (h k i : Nat) (hi : i ≤ k) : (tower (empty h) k)[i]? = some (empty (h + i)) := by
  induction k generalizing h i with
  | zero => simp [tower, Nat.le_zero.1 hi]
  | succ k ih =>
    cases i with
    | zero => simp [tower]
    | succ i =>
      have := ih (h + 1) i (by omega)
      simp only [empty] at this
      simp only [tower, List.getElem?_cons_succ, this]
      congr 2; omega

theorem length_tower (n : Node) (k : Nat) : (tower n k).length = k + 1 := by
  induction k generalizing n with
  | zero => rfl
  | succ k ih => simp [tower, ih]

/-- The empty roots by height, kept so that none is computed twice. -/
def emptyTable : Array Node := (tower emptyLeaf treeDepth).toArray

/-- The empty root of a height, from the table (`empty_node`). -/
def emptyAt (h : Nat) : Node := emptyTable[h]?.getD (empty h)

theorem emptyAt_eq_empty (h : Nat) : emptyAt h = empty h := by
  unfold emptyAt emptyTable
  by_cases hh : h ≤ treeDepth
  · have := tower_empty 0 treeDepth h hh
    simp only [empty, Nat.zero_add] at this
    simp [this]
  · have hn : (tower emptyLeaf treeDepth)[h]? = none := by
      rw [List.getElem?_eq_none_iff, length_tower]; omega
    simp [hn]

/-- The empty roots from the root of the whole tree down to a leaf (`EMPTY_ROOTS`). -/
def emptyRoots : List Node := (tower emptyLeaf treeDepth).reverse

def diagnostic (n : Node) : Diagnostic := .hex "Node" n.bytes.toList

end Node

def Root.diagnostic (r : Root) : Diagnostic := .hex "Root" r.bytes.toList

end ShieldedPool
