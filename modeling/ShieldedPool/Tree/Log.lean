import ShieldedPool.Tree.Frontier
import ShieldedPool.Tree.Witness

/-!
# The log of commitments

A log (`NoteCommitmentLog`) keeps every leaf, the position of every commitment and the size of the tree at every root so far,
so that any leaf can be witnessed at any root that came after it. A commitment that was appended more than once stands for
its first position, and a root that did not change for the smallest tree that has it.
-/

namespace ShieldedPool

/-- Why there is no path (`WitnessError`). -/
inductive WitnessError
  | unknownAnchor (anchor : Root)
  | unknownCommitment (commitment : NoteCommitment)
  /-- The commitment is newer than the anchor. -/
  | afterAnchor (position size : Nat)
deriving DecidableEq

def WitnessError.message : WitnessError → String
  | unknownAnchor anchor => "unknown Sprout anchor " ++ anchor.diagnostic.compact
  | unknownCommitment c => "note commitment " ++ c.diagnostic.compact ++ " is not in the Sprout tree"
  | afterAnchor position size =>
    s!"note commitment at position {position} was added after the anchor at tree size {size}"

/-- Adds an entry to a table, unless there is one for its key already (`or_insert`). -/
def insertNew {κ ν : Type} [BEq κ] (table : List (κ × ν)) (key : κ) (value : ν) : List (κ × ν) :=
  if (table.lookup key).isSome then table else (key, value) :: table

/-- All commitments so far, with what finds them again (`NoteCommitmentLog`). -/
structure CommitmentLog where
  leaves : List Node
  positions : List (NoteCommitment × Nat)
  /-- The size of the tree at each root. -/
  anchors : List (Root × Nat)
  tree : CommitmentTree

namespace CommitmentLog

/-- A log without commitments (`NoteCommitmentLog::new`). Its only anchor is the root of the empty tree. -/
def empty : CommitmentLog := ⟨[], [], [(CommitmentTree.empty.root, 0)], .empty⟩

/-- The number of commitments (`NoteCommitmentLog::len`). -/
def size (l : CommitmentLog) : Nat := l.leaves.length

/-- Whether there are no commitments (`NoteCommitmentLog::is_empty`). -/
def isEmpty (l : CommitmentLog) : Bool := l.leaves.isEmpty

/-- The current root (`NoteCommitmentLog::root`). -/
def root (l : CommitmentLog) : Root := l.tree.root

/-- Appends a commitment (`NoteCommitmentLog::append`). A full tree leaves the log as it is. -/
def append (l : CommitmentLog) (c : NoteCommitment) : Except TreeError CommitmentLog := do
  let tree ← l.tree.append c
  let leaves := l.leaves ++ [c.leaf]
  return { leaves, positions := insertNew l.positions c l.leaves.length
           anchors := insertNew l.anchors tree.root leaves.length, tree }

/-! ## Witnesses -/

/-- The layer above a layer of nodes; a node without a right neighbour is paired with an empty one. -/
def nextLayer (empty : Node) : List Node → List Node
  | [] => []
  | [n] => [Node.combine n empty]
  | l :: r :: rest => Node.combine l r :: nextLayer empty rest

/-- The siblings on the way up from an index of a layer, for the given number of levels. -/
def siblingsFrom : (levels height index : Nat) → List Node → List Node
  | 0, _, _, _ => []
  | n + 1, height, index, layer =>
    layer.getD (index ^^^ 1) (Node.emptyAt height)
      :: siblingsFrom n (height + 1) (index / 2) (nextLayer (Node.emptyAt height) layer)

theorem length_siblingsFrom (n height index : Nat) (layer : List Node) :
    (siblingsFrom n height index layer).length = n := by
  induction n generalizing height index layer with
  | zero => rfl
  | succ n ih => simp [siblingsFrom, ih]

/-- The siblings of a position in the tree of the first `size` commitments (`NoteCommitmentLog::siblings`). -/
def siblings (l : CommitmentLog) (position size : Nat) : Vector Node treeDepth :=
  ⟨(siblingsFrom treeDepth 0 position (l.leaves.take size)).toArray,
    by simp [length_siblingsFrom]⟩

/-- The path of a commitment in the tree that had a given root (`NoteCommitmentLog::witness`). -/
def witness (l : CommitmentLog) (c : NoteCommitment) (anchor : Root) : Except WitnessError Witness :=
  match l.anchors.lookup anchor with
  | none => .error (.unknownAnchor anchor)
  | some size =>
    match l.positions.lookup c with
    | none => .error (.unknownCommitment c)
    | some position =>
      if size ≤ position then .error (.afterAnchor position size)
      else .ok ⟨c, UInt64.ofNat position, l.siblings position size⟩

end CommitmentLog

end ShieldedPool
