import ShieldedPool.Proofs.Tree.Frontier

/-!
# A tree determines its contents

What is kept of a tree is little, but it tells any two lists of commitments apart, also those whose roots coincide because
one only has empty leaves more than the other (`ofList_eq_iff`). The position gives the length, and equal ommers are roots of
full subtrees with the same leaves, or blocks in these subtrees collide (`LeftOf.leaf_eq_or_collides`). The blocks of full
subtrees are just what has been compressed while the tree was built (`buildHashes_iff`).
-/

namespace ShieldedPool

/-! ## The blocks of an append -/

namespace Frontier

/-- The blocks that are compressed when a completed subtree is added to those on its left. -/
def carryBlocks (position : Nat) (node : Node) : List Node → List (Bytes 64)
  | [] => []
  | o :: r =>
    if position % 2 = 0 then [] else Node.block o node :: carryBlocks (position / 2) (Node.combine o node) r

theorem carryBlocks_of_even {i : Nat} (hi : i % 2 = 0) (node : Node) (ommers : List Node) :
    carryBlocks i node ommers = [] := by
  cases ommers with
  | nil => rfl
  | cons o r => rw [carryBlocks, if_pos hi]

end Frontier

namespace CompleteTree

variable {l m : List NoteCommitment} {h i : Nat} {ommers : List Node} {b : Bytes 64}

theorem block_append_of_le (hi : (i + 1) <<< (h + 1) ≤ l.length) : block (l ++ m) h i = block l h i := by
  rw [Nat.shiftLeft_succ_inside] at hi
  have hright : (2 * i + 1 + 1) <<< h ≤ l.length := hi
  have hleft : (2 * i + 1) <<< h ≤ l.length := Nat.le_trans (shiftLeft_le_shiftLeft (by omega) h) hright
  rw [block, block, node_append_of_le hleft, node_append_of_le hright]

/-- No subtree above the leaves ends at a left child. -/
theorem succ_ne_shiftLeft_succ (hi : i % 2 = 0) (j k : Nat) : i + 1 ≠ (j + 1) <<< (k + 1) := by
  rw [Nat.shiftLeft_succ]
  omega

/-- **A carry completes subtrees.** It compresses the blocks of those subtrees that end where the node does. -/
theorem LeftOf.mem_carryBlocks_iff (ho : LeftOf l h i ommers) :
    b ∈ Frontier.carryBlocks i (node l h i) ommers ↔
      ∃ k j, i + 1 = (j + 1) <<< (k + 1) ∧ b = block l (h + k) j := by
  induction ho with
  | start =>
    rw [Frontier.carryBlocks_of_even rfl]
    refine iff_of_false List.not_mem_nil ?_
    rintro ⟨k, j, hk, _⟩
    exact succ_ne_shiftLeft_succ rfl j k hk
  | @leftChild h q ommers _ _ =>
    rw [Frontier.carryBlocks_of_even (by omega)]
    refine iff_of_false List.not_mem_nil ?_
    rintro ⟨k, j, hk, _⟩
    exact succ_ne_shiftLeft_succ (by omega) j k hk
  | @rightChild h q ommers _ ih =>
    rw [Frontier.carryBlocks, if_neg (by omega), show (2 * q + 1) / 2 = q by omega, ← node_succ, List.mem_cons, ih]
    constructor
    · rintro (rfl | ⟨k, j, hk, rfl⟩)
      · exact ⟨0, q, by rw [Nat.shiftLeft_succ, Nat.shiftLeft_zero]; omega, rfl⟩
      · exact ⟨k + 1, j, by rw [Nat.shiftLeft_succ]; omega, by rw [show h + 1 + k = h + (k + 1) by omega]⟩
    · rintro ⟨k, j, hk, rfl⟩
      rw [Nat.shiftLeft_succ] at hk
      cases k with
      | zero =>
        obtain rfl : q = j := by rw [Nat.shiftLeft_zero] at hk; omega
        exact Or.inl rfl
      | succ k => exact Or.inr ⟨k, j, by omega, by rw [show h + 1 + k = h + (k + 1) by omega]⟩

end CompleteTree

/-! ## The blocks of a tree -/

namespace CommitmentTree

variable {t : CommitmentTree} {l : List NoteCommitment} {h i : Nat} {b : Bytes 64}

/-- The blocks that are compressed when a commitment is appended. -/
def appendBlocks (t : CommitmentTree) : List (Bytes 64) :=
  match t.frontier with
  | none => []
  | some f => Frontier.carryBlocks f.position f.leaf f.ommers

/-- The blocks that are compressed while the tree of a list is built, one commitment after the other. -/
def BuildHashes (l : List NoteCommitment) (b : Bytes 64) : Prop :=
  ∃ n t, n < l.length ∧ ofList (l.take n) = .ok t ∧ b ∈ t.appendBlocks

theorem Holds.mem_appendBlocks_iff (ht : t.Holds l) :
    b ∈ t.appendBlocks ↔ ∃ h i, l.length = (i + 1) <<< (h + 1) ∧ b = CompleteTree.block l h i := by
  unfold Holds at ht
  unfold appendBlocks
  cases hf : t.frontier with
  | none =>
    rw [hf] at ht
    refine iff_of_false List.not_mem_nil ?_
    rintro ⟨h, i, hi, _⟩
    rw [ht, List.length_nil, Nat.shiftLeft_eq] at hi
    exact absurd hi (Nat.ne_of_lt (Nat.mul_pos (Nat.succ_pos i) (Nat.two_pow_pos _)))
  | some f =>
    rw [hf] at ht
    have hcarry := ht.ommers_left.mem_carryBlocks_iff (b := b)
    simp only [Nat.zero_add] at hcarry
    simp only [ht.leaf_eq, ht.length_eq]
    exact hcarry

/-- **Building a tree compresses the blocks of its full subtrees**, as soon as there is a leaf to their right, and no
others. -/
theorem buildHashes_iff (hl : l.length ≤ treeCapacity) :
    BuildHashes l b ↔ ∃ h i, (i + 1) <<< (h + 1) < l.length ∧ b = CompleteTree.block l h i := by
  have hblock {h i n : Nat} (hn : n ≤ l.length) (hi : (l.take n).length = (i + 1) <<< (h + 1)) :
      CompleteTree.block (l.take n) h i = CompleteTree.block l h i := by
    have e := CompleteTree.block_append_of_le (m := l.drop n) (Nat.le_of_eq hi.symm)
    rw [List.take_append_drop] at e
    exact e.symm
  have hholds (n : Nat) : ∃ t, ofList (l.take n) = .ok t ∧ t.Holds (l.take n) :=
    exists_ofList (Nat.le_trans (List.length_take_le' n l) hl)
  constructor
  · rintro ⟨n, t, hn, ht, hb⟩
    obtain ⟨t', ht', hh⟩ := hholds n
    obtain rfl : t = t' := Except.ok.inj (ht.symm.trans ht')
    obtain ⟨h, i, hi, rfl⟩ := hh.mem_appendBlocks_iff.1 hb
    refine ⟨h, i, ?_, hblock (Nat.le_of_lt hn) hi⟩
    rwa [← hi, List.length_take_of_le (Nat.le_of_lt hn)]
  · rintro ⟨h, i, hi, rfl⟩
    obtain ⟨t, ht, hh⟩ := hholds ((i + 1) <<< (h + 1))
    have hlen := List.length_take_of_le (Nat.le_of_lt hi)
    exact ⟨_, t, hi, ht, hh.mem_appendBlocks_iff.2 ⟨h, i, hlen, (hblock (Nat.le_of_lt hi) hlen).symm⟩⟩

/-- All that is inside such a subtree is full too. -/
theorem buildHashes_of_hashes (hl : l.length ≤ treeCapacity) (hi : (i + 1) <<< h < l.length)
    (hb : CompleteTree.Hashes l h i b) : BuildHashes l b := by
  induction h generalizing i with
  | zero => exact hb.elim
  | succ h ih =>
    rcases hb with rfl | hb | hb
    · exact (buildHashes_iff hl).2 ⟨h, i, hi, rfl⟩
    · rw [Nat.shiftLeft_succ_inside] at hi
      exact ih (Nat.lt_of_le_of_lt (CompleteTree.shiftLeft_le_shiftLeft (by omega) h) hi) hb
    · rw [Nat.shiftLeft_succ_inside] at hi
      exact ih hi hb

end CommitmentTree

/-! ## The same ommers -/

namespace CompleteTree

variable {a b : List NoteCommitment} {h i q : Nat} {ommers : List Node}

theorem LeftOf.of_leftChild (ho : LeftOf a h (2 * q) ommers) : LeftOf a (h + 1) q ommers := by
  generalize hi : 2 * q = i at ho
  cases ho with
  | start =>
    obtain rfl : q = 0 := by omega
    exact .start
  | @leftChild _ q' _ ho =>
    obtain rfl : q = q' := by omega
    exact ho
  | rightChild => omega

theorem LeftOf.of_rightChild (ho : LeftOf a h (2 * q + 1) ommers) :
    ∃ r, ommers = node a h (2 * q) :: r ∧ LeftOf a (h + 1) q r := by
  generalize hi : 2 * q + 1 = i at ho
  cases ho with
  | start => omega
  | leftChild => omega
  | @rightChild _ q' r ho =>
    obtain rfl : q = q' := by omega
    exact ⟨r, rfl, ho⟩

/-- The blocks that are compressed for the subtrees among the first `n` leaves. -/
def HashesWithin (l : List NoteCommitment) (n : Nat) (b : Bytes 64) : Prop :=
  ∃ h i, (i + 1) <<< h ≤ n ∧ Hashes l h i b

theorem HashesWithin.mono {l : List NoteCommitment} {m n : Nat} {b : Bytes 64} (hb : HashesWithin l m b) (hmn : m ≤ n) :
    HashesWithin l n b := by
  obtain ⟨h, i, hi, hb⟩ := hb
  exact ⟨h, i, Nat.le_trans hi hmn, hb⟩

/-- **Ommers fix the leaves below them.** Two trees that keep the same ommers at the same index have the same leaves to the
left of it, or two blocks there collide. -/
theorem LeftOf.leaf_eq_or_collides (ha : LeftOf a h i ommers) (hb : LeftOf b h i ommers) {j : Nat} (hj : j >>> h < i) :
    leaf a j = leaf b j ∨ Collides Sha256.compress (HashesWithin a (i <<< h)) (HashesWithin b (i <<< h)) := by
  induction ha with
  | start => exact absurd hj (Nat.not_lt_zero _)
  | @leftChild h q ommers _ ih =>
    rw [← Nat.shiftLeft_succ_inside]
    exact ih hb.of_leftChild (by rw [Nat.shiftRight_succ]; omega)
  | @rightChild h q ommers _ ih =>
    obtain ⟨r, hommers, hb⟩ := hb.of_rightChild
    obtain ⟨hnode, rfl⟩ := List.cons.inj hommers
    by_cases hlast : j >>> h = 2 * q
    · exact (CompleteTree.leaf_eq_or_collides hnode hlast).imp_right
        (.mono (fun _ hx => ⟨h, 2 * q, Nat.le_refl _, hx⟩) fun _ hx => ⟨h, 2 * q, Nat.le_refl _, hx⟩)
    · have hle : q <<< (h + 1) ≤ (2 * q + 1) <<< h := by
        rw [Nat.shiftLeft_succ_inside]
        exact shiftLeft_le_shiftLeft (Nat.le_succ _) h
      exact (ih hb (by rw [Nat.shiftRight_succ]; omega)).imp_right
        (.mono (fun _ hx => hx.mono hle) fun _ hx => hx.mono hle)

/-- Lists of one length with the same leaves are the same. -/
theorem eq_of_leaf_eq (hlen : a.length = b.length) (hleaf : ∀ j < a.length, leaf a j = leaf b j) : a = b := by
  refine List.ext_getElem hlen fun j ha hb => NoteCommitment.leaf_injective ?_
  rw [← leaf_of_getElem? (List.getElem?_eq_getElem ha), ← leaf_of_getElem? (List.getElem?_eq_getElem hb)]
  exact hleaf j ha

/-- Empty leaves at the end do not show in the root. -/
theorem root_append_replicate (l : List NoteCommitment) (n : Nat) :
    root (l ++ List.replicate n ⟨Bytes.zero 32⟩) = root l := by
  have hleaf (j : Nat) : leaf (l ++ List.replicate n ⟨Bytes.zero 32⟩) j = leaf l j := by
    by_cases hj : j < l.length
    · exact leaf_append_of_lt hj
    · rw [leaf_of_length_le (Nat.le_of_not_lt hj), leaf, List.getElem?_append_right (Nat.le_of_not_lt hj),
        List.getElem?_replicate]
      split <;> rfl
  exact congrArg (fun n => Root.mk n.bytes) (node_congr fun j _ => hleaf j)

end CompleteTree

/-! ## The same tree -/

theorem Frontier.Holds.eq_or_collides {f : Frontier} {a b : List NoteCommitment} (ha : f.Holds a) (hb : f.Holds b) :
    a = b ∨ Collides Sha256.compress (CompleteTree.HashesWithin a f.position) (CompleteTree.HashesWithin b f.position) := by
  by_cases hc : Collides Sha256.compress (CompleteTree.HashesWithin a f.position) (CompleteTree.HashesWithin b f.position)
  · exact Or.inr hc
  · have hlen : a.length = b.length := ha.length_eq.trans hb.length_eq.symm
    refine Or.inl (CompleteTree.eq_of_leaf_eq hlen fun j hj => ?_)
    by_cases hlast : j = f.position
    · rw [hlast, ← ha.leaf_eq, ← hb.leaf_eq]
    · have hj' : j < f.position := by have := ha.length_eq; omega
      exact (ha.ommers_left.leaf_eq_or_collides hb.ommers_left hj').resolve_right hc

namespace CommitmentTree

variable {t : CommitmentTree} {a b : List NoteCommitment}

theorem Holds.eq_or_collides (hta : t.Holds a) (htb : t.Holds b) (ha : a.length ≤ treeCapacity)
    (hb : b.length ≤ treeCapacity) : a = b ∨ Collides Sha256.compress (BuildHashes a) (BuildHashes b) := by
  unfold Holds at hta htb
  cases hf : t.frontier with
  | none =>
    rw [hf] at hta htb
    exact Or.inl (hta.trans htb.symm)
  | some f =>
    rw [hf] at hta htb
    -- the last leaf stands to the right of all that is within the position
    have hwithin {l : List NoteCommitment} (hl : f.Holds l) (hcap : l.length ≤ treeCapacity) (x : Bytes 64) :
        CompleteTree.HashesWithin l f.position x → BuildHashes l x := by
      rintro ⟨h, i, hi, hx⟩
      exact buildHashes_of_hashes hcap (by have := hl.length_eq; omega) hx
    exact (hta.eq_or_collides htb).imp_right (.mono (hwithin hta ha) (hwithin htb hb))

/-- **Trees are equal just when their contents are.** The trees of two lists, which both exist as long as the lists fit, are
equal if and only if the lists are, unless two blocks collide of which one has been compressed while the first tree was built
and one for the second. The roots do not tell as much: empty leaves that are appended leave the root as it is, but never the
tree. -/
theorem ofList_eq_iff (a b : List NoteCommitment) (ha : a.length ≤ treeCapacity) (hb : b.length ≤ treeCapacity) :
    ∃ t u, ofList a = .ok t ∧ ofList b = .ok u ∧
      ((t = u ↔ a = b) ∨ Collides Sha256.compress (BuildHashes a) (BuildHashes b)) ∧
      ∀ n, b = a ++ List.replicate (n + 1) ⟨Bytes.zero 32⟩ → t.root = u.root ∧ t ≠ u := by
  obtain ⟨t, ht, hta⟩ := exists_ofList ha
  obtain ⟨u, hu, hub⟩ := exists_ofList hb
  refine ⟨t, u, ht, hu, ?_, ?_⟩
  · by_cases hc : Collides Sha256.compress (BuildHashes a) (BuildHashes b)
    · exact Or.inr hc
    · refine Or.inl ⟨?_, ?_⟩
      · rintro rfl
        exact (hta.eq_or_collides hub ha hb).resolve_right hc
      · rintro rfl
        exact Except.ok.inj (ht.symm.trans hu)
  · intro n hn
    constructor
    · rw [hta.root_eq ha, hub.root_eq hb, hn, CompleteTree.root_append_replicate]
    · rintro rfl
      have hcount := hta.count_eq.symm.trans hub.count_eq
      rw [hn, List.length_append, List.length_replicate] at hcount
      omega

/-- The second list has one empty leaf more. -/
theorem ofList_eq_iff_empty_leaf :
    let a : List NoteCommitment := (List.range 5).map fun n => ⟨Bytes.ofNat 32 (n + 1)⟩
    let b : List NoteCommitment := a ++ [⟨Bytes.zero 32⟩]
    a.length ≤ treeCapacity ∧ b.length ≤ treeCapacity ∧
      ∃ t u, ofList a = .ok t ∧ ofList b = .ok u ∧
        ((t = u ↔ a = b) ∨ Collides Sha256.compress (BuildHashes a) (BuildHashes b)) ∧ t.root = u.root ∧ t ≠ u := by
  intro a b
  have ha : a.length ≤ treeCapacity := by decide
  have hb : b.length ≤ treeCapacity := by decide
  obtain ⟨t, u, ht, hu, heq, hempty⟩ := ofList_eq_iff a b ha hb
  exact ⟨ha, hb, t, u, ht, hu, heq, hempty 0 rfl⟩

end CommitmentTree

end ShieldedPool
