import ShieldedPool.Tree.Node

/-!
# The incremental tree

To append to the tree (`NoteCommitmentTree`) and to know its root, the last leaf, its position, and the roots of the complete
subtrees to its left are enough. There is one such subtree for each set bit of the position, the smallest first. Appending
merges subtrees as binary counting carries; the root pads everything to the right of the last leaf with empty subtrees.
-/

namespace ShieldedPool

/-- What is kept of a tree that is not empty (`Frontier` of `incrementalmerkletree`). -/
structure Frontier where
  position : Nat
  leaf : Node
  /-- Roots of the complete subtrees to the left of the last leaf, from the lowest set bit of the position up. -/
  ommers : List Node
deriving DecidableEq

namespace Frontier

/-- The tree with a single leaf. -/
def single (leaf : Node) : Frontier := ⟨0, leaf, []⟩

/-- Adds a completed subtree to those on its left: as long as one of its size is there, the two become one. -/
def carry (position : Nat) (node : Node) : List Node → List Node
  | [] => [node]
  | o :: r => if position % 2 = 0 then node :: o :: r else carry (position / 2) (Node.combine o node) r

/-- Adds a leaf (`Frontier::append`). The last leaf so far becomes a completed subtree of its own. -/
def push (f : Frontier) (leaf : Node) : Frontier := ⟨f.position + 1, leaf, carry f.position f.leaf f.ommers⟩

/-- Climbs `levels` levels from a node at a height: an ommer stands on the left of a right child, and an empty subtree on the
right of a left child. -/
def climb : (levels height position : Nat) → Node → List Node → Node
  | 0, _, _, node, _ => node
  | n + 1, height, position, node, ommers =>
    if position % 2 = 0 then climb n (height + 1) (position / 2) (Node.combine node (Node.emptyAt height)) ommers
    else match ommers with
      | o :: r => climb n (height + 1) (position / 2) (Node.combine o node) r
      | [] => climb n (height + 1) (position / 2) (Node.combine node (Node.emptyAt height)) []

/-- The root of the tree (`Frontier::root`). -/
def root (f : Frontier) : Root := ⟨(climb treeDepth 0 f.position f.leaf f.ommers).bytes⟩

end Frontier

/-- The tree of all note commitments so far (`NoteCommitmentTree`). -/
structure CommitmentTree where
  frontier : Option Frontier := none
deriving DecidableEq

/-- Why a commitment was not appended (`NoteCommitmentTreeError`). -/
inductive TreeError
  | fullTree
deriving DecidableEq

def TreeError.message : TreeError → String
  | fullTree => "the Sprout note commitment tree is full"

namespace CommitmentTree

def empty : CommitmentTree := {}

/-- The number of leaves (`NoteCommitmentTree::count`). -/
def count (t : CommitmentTree) : Nat :=
  match t.frontier with
  | none => 0
  | some f => f.position + 1

/-- The root of the tree (`NoteCommitmentTree::root`). -/
def root (t : CommitmentTree) : Root :=
  match t.frontier with
  | none => ⟨(Node.emptyAt treeDepth).bytes⟩
  | some f => f.root

/-- Appends a commitment, unless every leaf is taken (`NoteCommitmentTree::append`). -/
def append (t : CommitmentTree) (c : NoteCommitment) : Except TreeError CommitmentTree :=
  match t.frontier with
  | none => .ok ⟨some (.single c.leaf)⟩
  | some f => if f.position + 1 = treeCapacity then .error .fullTree else .ok ⟨some (f.push c.leaf)⟩

/-- The tree of a list of commitments (`NoteCommitmentTree::try_from`). -/
def ofList (l : List NoteCommitment) : Except TreeError CommitmentTree := l.foldlM append empty

end CommitmentTree

end ShieldedPool
