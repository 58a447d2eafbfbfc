import ShieldedPool.Proofs.Codec
import ShieldedPool.Tree.Witness

/-!
# Paths in bytes

A path is written from the root downwards (`to_legacy_path_bytes`), but its root is computed from the leaf up. `read?` takes
the bytes apart again as they were put together, and whoever folds what it has read, from the last sibling to the first and
with the bits of the number at the end, arrives at the root of the witness (`root_written`). Nothing else is read as a path
(`read?_eq_some_iff`), so the bytes are of one position and one row of siblings.
-/

namespace ShieldedPool

namespace Bytes

variable {n : Nat}

theorem ofList?_eq_some_iff {l : List UInt8} {b : Bytes n} : ofList? n l = some b ↔ l = b.toList := by
  constructor
  · intro h
    unfold ofList? at h
    split at h
    · obtain rfl := Option.some.inj h
      rfl
    · cases h
  · rintro rfl
    exact ofList?_toList b

/-- Eight bytes write a number of 64 bits just when they are its encoding. -/
theorem uint64_eq_iff {b : Bytes 8} {x : UInt64} : UInt64.ofNat b.toNat = x ↔ b = ofNat 8 x.toNat := by
  constructor
  · rintro rfl
    rw [UInt64.toNat_ofNat_of_lt' b.toNat_lt, ofNat_toNat]
  · rintro rfl
    rw [toNat_ofNat x.toNat_lt, UInt64.ofNat_toNat]

end Bytes

/-- A path as it is written. -/
structure WrittenPath where
  /-- The siblings from the root downwards. -/
  siblings : List Node
  position : UInt64

namespace WrittenPath

variable {l rest : List UInt8} {s : Node} {r : List Node} {p : WrittenPath} {n k : Nat}

/-- A sibling after its length. -/
def siblingBytes (s : Node) : List UInt8 := 32 :: s.bytes.toList

/-- The depth, the siblings, and the position with its lowest byte first. -/
def bytes (p : WrittenPath) : List UInt8 :=
  UInt8.ofNat treeDepth :: p.siblings.flatMap siblingBytes ++ (Bytes.ofNat 8 p.position.toNat).toList

/-! ## Reading -/

/-- One sibling from the front of a byte string. -/
def readSibling? : List UInt8 → Option (Node × List UInt8)
  | [] => none
  | width :: l => if width = 32 then (Decoder.bytes 32 l).toOption.map fun (b, rest) => (⟨b⟩, rest) else none

def readSiblings? : Nat → List UInt8 → Option (List Node × List UInt8)
  | 0, l => some ([], l)
  | n + 1, l => do
    let (s, l) ← readSibling? l
    let (r, l) ← readSiblings? n l
    return (s :: r, l)

/-- A whole path, with nothing after it. -/
def read? : List UInt8 → Option WrittenPath
  | [] => none
  | depth :: l =>
    if depth.toNat = treeDepth then do
      let (siblings, l) ← readSiblings? treeDepth l
      let position ← Bytes.ofList? 8 l
      return ⟨siblings, UInt64.ofNat position.toNat⟩
    else none

theorem readSibling?_eq_some_iff : readSibling? l = some (s, rest) ↔ l = siblingBytes s ++ rest := by
  cases l with
  | nil => simp [readSibling?, siblingBytes]
  | cons width l =>
    have hbytes := Decoder.reads_bytes 32 l s.bytes rest
    by_cases hwidth : width = 32
    · simp only [readSibling?, siblingBytes, List.cons_append, List.cons.injEq, hwidth, true_and, ← hbytes]
      cases Decoder.bytes 32 l with
      | error e => simp [Except.toOption]
      | ok read =>
        obtain ⟨⟨s⟩⟩ := s
        simp [Except.toOption, Prod.ext_iff]
    · simp [readSibling?, siblingBytes, hwidth]

/-- **As many siblings are read as are due**, and only if they are written there. -/
theorem readSiblings?_eq_some_iff :
    readSiblings? n l = some (r, rest) ↔ r.length = n ∧ l = r.flatMap siblingBytes ++ rest := by
  induction n generalizing l r rest with
  | zero =>
    simp only [readSiblings?, Option.some.injEq, Prod.mk.injEq, List.length_eq_zero_iff]
    constructor
    · rintro ⟨rfl, rfl⟩
      exact ⟨rfl, rfl⟩
    · rintro ⟨rfl, rfl⟩
      exact ⟨rfl, rfl⟩
  | succ n ih =>
    simp only [readSiblings?, Option.bind_eq_bind, Option.bind_eq_some_iff, Prod.exists, Option.pure_def, Option.some.injEq,
      Prod.mk.injEq, readSibling?_eq_some_iff, ih]
    constructor
    · rintro ⟨s, _, rfl, r, _, ⟨rfl, rfl⟩, rfl, rfl⟩
      simp
    · rintro ⟨hlen, rfl⟩
      cases r with
      | nil => cases hlen
      | cons s r =>
        exact ⟨s, _, by rw [List.flatMap_cons, List.append_assoc], r, rest, ⟨Nat.succ.inj hlen, rfl⟩, rfl, rfl⟩

/-- **Only a path is read as a path**, and all of it. -/
theorem read?_eq_some_iff : read? l = some p ↔ p.siblings.length = treeDepth ∧ l = p.bytes := by
  cases l with
  | nil => simp [read?, bytes]
  | cons depth l =>
    have hdepth : depth.toNat = treeDepth ↔ depth = UInt8.ofNat treeDepth := by
      rw [← UInt8.toNat_inj]
      rfl
    obtain ⟨siblings, position⟩ := p
    simp only [read?, bytes, hdepth, List.cons_append, List.cons.injEq]
    by_cases h : depth = UInt8.ofNat treeDepth
    · simp only [h, if_true, true_and, Option.bind_eq_bind, Option.bind_eq_some_iff, Prod.exists, readSiblings?_eq_some_iff,
        Bytes.ofList?_eq_some_iff, Option.pure_def, Option.some.injEq, mk.injEq, Bytes.uint64_eq_iff]
      constructor
      · rintro ⟨_, _, ⟨hlen, rfl⟩, _, rfl, rfl, rfl⟩
        exact ⟨hlen, rfl⟩
      · rintro ⟨hlen, rfl⟩
        exact ⟨siblings, _, ⟨hlen, rfl⟩, _, rfl, rfl, rfl⟩
    · simp [h]

/-! ## Where the parts stand -/

theorem length_siblingBytes (s : Node) : (siblingBytes s).length = 33 := by
  simp [siblingBytes]

theorem length_flatMap_siblingBytes (r : List Node) : (r.flatMap siblingBytes).length = 33 * r.length := by
  induction r with
  | nil => rfl
  | cons s r ih =>
    rw [List.flatMap_cons, List.length_append, length_siblingBytes, ih, List.length_cons]
    omega

/-- Siblings are equally wide, so each has its place. -/
theorem take_drop_flatMap_siblingBytes (hs : r[k]? = some s) (rest : List UInt8) :
    ((r.flatMap siblingBytes ++ rest).drop (33 * k)).take 33 = siblingBytes s := by
  induction r generalizing k with
  | nil => simp at hs
  | cons t r ih =>
    rw [List.flatMap_cons, List.append_assoc]
    cases k with
    | zero =>
      obtain rfl : t = s := by simpa using hs
      exact List.take_left' (length_siblingBytes t)
    | succ k =>
      have hplace : 33 * (k + 1) = (siblingBytes t).length + 33 * k := by
        rw [length_siblingBytes]
        omega
      rw [hplace, List.drop_length_add_append]
      exact ih (by simpa using hs)

/-! ## From the leaf to the root -/

/-- On each level from the leaf up, the sibling, and whether it stands on the left. A bit of the position says so. -/
def sides (p : WrittenPath) : List (Bool × Node) :=
  p.siblings.reverse.mapIdx fun k s => (p.position.toNat.testBit k, s)

/-- The node above a node and its sibling. -/
def above (node : Node) (side : Bool × Node) : Node :=
  if side.1 then Node.combine side.2 node else Node.combine node side.2

/-- Where a path leads from a commitment. -/
def root (p : WrittenPath) (c : NoteCommitment) : Root := ⟨(p.sides.foldl above c.leaf).bytes⟩

/-- On the way up the position is halved on every level, so its lowest bit is the next one of the whole. -/
theorem climb_eq_foldl (node : Node) (position : Nat) (r : List Node) :
    Witness.climb node position r = (r.mapIdx fun k s => (position.testBit k, s)).foldl above node := by
  induction r generalizing node position with
  | nil => rfl
  | cons s r ih =>
    have hside : (if position % 2 = 0 then Node.combine node s else Node.combine s node)
        = above node (position.testBit 0, s) := by
      rcases Nat.mod_two_eq_zero_or_one position with h | h <;> simp [above, Nat.testBit_zero, h]
    rw [Witness.climb, hside, ih, List.mapIdx_cons, List.foldl_cons]
    simp only [Nat.testBit_succ]

end WrittenPath

namespace Witness

variable {v w : Witness}

/-- The path as it is written. -/
def written (w : Witness) : WrittenPath := ⟨w.siblings.toList.reverse, w.position⟩

theorem pathBytes_eq_bytes (w : Witness) : w.pathBytes = w.written.bytes := rfl

theorem read?_pathBytes (w : Witness) : WrittenPath.read? w.pathBytes = some w.written := by
  rw [WrittenPath.read?_eq_some_iff, pathBytes_eq_bytes]
  exact ⟨by simp [written], rfl⟩

theorem length_pathBytes (w : Witness) : w.pathBytes.length = 1 + 33 * treeDepth + 8 := by
  rw [pathBytes_eq_bytes, WrittenPath.bytes, List.cons_append, List.length_cons, List.length_append,
    WrittenPath.length_flatMap_siblingBytes, Vector.length_toList, written, List.length_reverse, Vector.length_toList]
  omega

/-- The higher a sibling, the earlier it is written. -/
theorem take_drop_pathBytes (w : Witness) (h : Fin treeDepth) :
    (w.pathBytes.drop (1 + 33 * (treeDepth - 1 - h.val))).take 33 = 32 :: (w.siblings.get h).bytes.toList := by
  have hplace : w.siblings.toList.reverse[treeDepth - 1 - h.val]? = some (w.siblings.get h) := by
    have hh := h.isLt
    rw [List.getElem?_reverse (by rw [Vector.length_toList]; omega), Vector.length_toList,
      show treeDepth - 1 - (treeDepth - 1 - h.val) = h.val by omega]
    simp [Vector.get]
  rw [pathBytes, List.cons_append, Nat.add_comm, List.drop_succ_cons]
  exact WrittenPath.take_drop_flatMap_siblingBytes hplace _

/-- The position takes up the last eight bytes. -/
theorem drop_pathBytes (w : Witness) :
    w.pathBytes.drop (1 + 33 * treeDepth) = (Bytes.ofNat 8 w.position.toNat).toList := by
  have hlen : (w.siblings.toList.reverse.flatMap WrittenPath.siblingBytes).length = 33 * treeDepth := by
    rw [WrittenPath.length_flatMap_siblingBytes, List.length_reverse, Vector.length_toList]
  rw [pathBytes, List.cons_append, Nat.add_comm, List.drop_succ_cons]
  exact List.drop_left' hlen

/-- **What is read leads where the path does.** -/
theorem root_written (w : Witness) : w.written.root w.element = w.root := by
  rw [root, WrittenPath.climb_eq_foldl, WrittenPath.root, WrittenPath.sides, written, List.reverse_reverse]

/-- **The bytes are of one path.** -/
theorem pathBytes_inj : v.pathBytes = w.pathBytes ↔ v.position = w.position ∧ v.siblings = w.siblings := by
  constructor
  · intro h
    have hread : some v.written = some w.written := by rw [← read?_pathBytes, ← read?_pathBytes, h]
    obtain ⟨hsiblings, hposition⟩ := WrittenPath.mk.inj (Option.some.inj hread)
    exact ⟨hposition, Vector.toList_inj.1 (List.reverse_inj.1 hsiblings)⟩
  · rintro ⟨hposition, hsiblings⟩
    rw [pathBytes, pathBytes, hposition, hsiblings]

/-- **The bytes carry the whole path.** They are read back, to the last one, as the siblings in reverse and the position, and
what is read leads from the leaf to the root of the path; nothing but a written path is read. Each sibling stands in its place
after its length, the one next to the root first, and the position at the end. So two paths have the same bytes just when they
have the same position and the same siblings. -/
theorem path_bytes_faithful (w : Witness) :
    (∃ p, WrittenPath.read? w.pathBytes = some p ∧ p.siblings = w.siblings.toList.reverse ∧ p.position = w.position ∧
      p.root w.element = w.root) ∧
    (∀ l p, WrittenPath.read? l = some p ↔ p.siblings.length = treeDepth ∧ l = p.bytes) ∧
    w.pathBytes.length = 1 + 33 * treeDepth + 8 ∧
    (∀ h : Fin treeDepth,
      (w.pathBytes.drop (1 + 33 * (treeDepth - 1 - h.val))).take 33 = 32 :: (w.siblings.get h).bytes.toList) ∧
    w.pathBytes.drop (1 + 33 * treeDepth) = (Bytes.ofNat 8 w.position.toNat).toList ∧
    ∀ v : Witness, v.pathBytes = w.pathBytes ↔ v.position = w.position ∧ v.siblings = w.siblings :=
  ⟨⟨w.written, w.read?_pathBytes, rfl, rfl, w.root_written⟩, fun _ _ => WrittenPath.read?_eq_some_iff, w.length_pathBytes,
    w.take_drop_pathBytes, w.drop_pathBytes, fun _ => pathBytes_inj⟩

end Witness

end ShieldedPool
