import ShieldedPool.Tree.Node

/-!
# Authentication paths

A witness (`Witness`) shows that a commitment is a leaf of a tree with a known root. It holds the position of the leaf and
the sibling at each height; hashing upwards, with the bits of the position to choose sides, gives the root. A path has a byte
encoding that starts from the sibling next to the root.
-/

namespace ShieldedPool

/-- The path of one leaf (`Witness`). -/
structure Witness where
  element : NoteCommitment
  position : UInt64
  /-- The sibling at each height, from the leaves up. -/
  siblings : Vector Node treeDepth
deriving DecidableEq

namespace Witness

/-- The path of the only leaf of a tree (`Witness::single_leaf`). -/
def single (element : NoteCommitment) : Witness :=
  ⟨element, 0, Vector.ofFn fun h => Node.emptyAt h.val⟩

/-- The node reached from a node at some height, past the given siblings. -/
def climb (node : Node) (position : Nat) : List Node → Node
  | [] => node
  | s :: r => climb (if position % 2 = 0 then Node.combine node s else Node.combine s node) (position / 2) r

/-- The root that the path leads to (`Witness::root`). -/
def root (w : Witness) : Root := ⟨(climb w.element.leaf w.position.toNat w.siblings.toList).bytes⟩

/-- The path in bytes (`Witness::to_legacy_path_bytes`): the depth, then each sibling after its length from the root
downwards, then the position. -/
def pathBytes (w : Witness) : List UInt8 :=
  UInt8.ofNat treeDepth :: w.siblings.toList.reverse.flatMap (fun s => 32 :: s.bytes.toList)
    ++ (Bytes.ofNat 8 w.position.toNat).toList

def diagnostic (w : Witness) : Diagnostic :=
  .record "Witness"
    [("element", w.element.diagnostic), ("position", .number w.position.toNat),
     ("siblings", .list (w.siblings.toList.map Node.diagnostic))] false

end Witness

end ShieldedPool
