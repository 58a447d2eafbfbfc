import ShieldedPool.Proofs.Tree.Log

/-!
# A log keeps its answers

A log is only ever added to. `Extends` says what one append keeps of it (`extends_append`), and so any number of them
(`extends_foldlM`): the leaves stay where they are, no entry of a table is replaced, and what is new stands behind all leaves
that were there before. A path is made of no more leaves than its anchor was recorded with (`siblings_eq`), so the answer to
a question does not change when the log grows (`answers_stable`).
-/

namespace ShieldedPool.CommitmentLog

variable {g g' g'' : CommitmentLog} {c : NoteCommitment} {a : Root} {position size : Nat}

/-! ## One append -/

/-- What an append makes of a log, whatever it makes of the tree. -/
theorem exists_eq_of_append (h : g.append c = .ok g') :
    ∃ tree, g' = { leaves := g.leaves ++ [c.leaf], positions := insertNew g.positions c g.size
                   anchors := insertNew g.anchors tree.root (g.size + 1), tree } := by
  unfold append at h
  cases ht : g.tree.append c with
  | error cause =>
    rw [ht] at h
    cases h
  | ok tree =>
    rw [ht] at h
    refine ⟨tree, ?_⟩
    simpa [pure, Except.pure, bind, Except.bind, eq_comm, size] using h

/-- A later log has all that an earlier one had. -/
structure Extends (g g' : CommitmentLog) : Prop where
  leaves_prefix : g.leaves <+: g'.leaves
  anchor_kept : ∀ a size, g.anchors.lookup a = some size → g'.anchors.lookup a = some size
  position_kept : ∀ c position, g.positions.lookup c = some position → g'.positions.lookup c = some position
  /-- A commitment that is new stands behind all that were there. -/
  size_le_position : ∀ c position, g.positions.lookup c = none → g'.positions.lookup c = some position → g.size ≤ position

theorem Extends.size_le (h : g.Extends g') : g.size ≤ g'.size := h.leaves_prefix.length_le

theorem Extends.refl (g : CommitmentLog) : g.Extends g where
  leaves_prefix := List.prefix_refl _
  anchor_kept _ _ := id
  position_kept _ _ := id
  size_le_position c position hnone hsome := by simp [hnone] at hsome

theorem Extends.trans (h : g.Extends g') (h' : g'.Extends g'') : g.Extends g'' where
  leaves_prefix := h.leaves_prefix.trans h'.leaves_prefix
  anchor_kept a size hs := h'.anchor_kept a size (h.anchor_kept a size hs)
  position_kept c position hp := h'.position_kept c position (h.position_kept c position hp)
  size_le_position c position hnone hsome := by
    -- new to the last log: it came either between the first two, and stayed where it was, or after them
    cases hmid : g'.positions.lookup c with
    | none => exact Nat.le_trans h.size_le (h'.size_le_position c position hmid hsome)
    | some p =>
      have hp := h'.position_kept c p hmid
      rw [hsome, Option.some.injEq] at hp
      exact hp ▸ h.size_le_position c p hnone hmid

/-- **An append adds to a log and replaces nothing.** -/
theorem extends_append (h : g.append c = .ok g') : g.Extends g' := by
  obtain ⟨tree, rfl⟩ := exists_eq_of_append h
  refine ⟨List.prefix_append _ _, fun a size hs => lookup_insertNew_of_some hs,
    fun d position hp => lookup_insertNew_of_some hp, fun d position hnone hsome => ?_⟩
  rw [lookup_insertNew, hnone, Option.none_or] at hsome
  by_cases hd : d = c
  · simp only [hd, if_true, Option.some.injEq] at hsome
    exact Nat.le_of_eq hsome
  · simp [hd] at hsome

/-- No root is recorded with more leaves than there are. -/
def Recorded (g : CommitmentLog) : Prop := ∀ a size, g.anchors.lookup a = some size → size ≤ g.size

theorem recorded_empty : empty.Recorded := by
  intro a size hs
  rw [empty, List.lookup_cons] at hs
  split at hs
  · exact Nat.le_of_eq (Option.some.inj hs).symm
  · cases hs

theorem Recorded.append (hg : g.Recorded) (h : g.append c = .ok g') : g'.Recorded := by
  obtain ⟨tree, rfl⟩ := exists_eq_of_append h
  intro a size hs
  have hsize : CommitmentLog.size ⟨g.leaves ++ [c.leaf], insertNew g.positions c g.size,
    insertNew g.anchors tree.root (g.size + 1), tree⟩ = g.size + 1 := List.length_append
  rw [hsize]
  rw [lookup_insertNew] at hs
  cases hold : g.anchors.lookup a with
  | some s =>
    rw [hold, Option.some_or, Option.some.injEq] at hs
    have hle := hg a s hold
    omega
  | none =>
    rw [hold, Option.none_or] at hs
    by_cases ha : a = tree.root
    · simp only [ha, if_true, Option.some.injEq] at hs
      exact Nat.le_of_eq hs.symm
    · simp [ha] at hs

/-! ## Any number of appends -/

/-- What every append keeps to is kept by any number of them. -/
theorem of_foldlM {P : CommitmentLog → Prop} (hstep : ∀ {g c g'}, P g → g.append c = .ok g' → P g')
    {more : List NoteCommitment} (hg : P g) (h : more.foldlM CommitmentLog.append g = .ok g') : P g' := by
  induction more generalizing g with
  | nil =>
    obtain rfl : g = g' := Except.ok.inj h
    exact hg
  | cons c more ih =>
    rw [List.foldlM_cons] at h
    cases hc : g.append c with
    | error cause =>
      rw [hc] at h
      cases h
    | ok next =>
      rw [hc] at h
      exact ih (hstep hg hc) h

variable {before more : List NoteCommitment}

theorem extends_foldlM (h : more.foldlM CommitmentLog.append g = .ok g') : g.Extends g' :=
  of_foldlM (P := g.Extends) (fun hg hc => hg.trans (extends_append hc)) (Extends.refl g) h

theorem recorded_foldlM (h : before.foldlM CommitmentLog.append empty = .ok g) : g.Recorded :=
  of_foldlM Recorded.append recorded_empty h

/-! ## Answers -/

/-- **A path is made of the leaves that its anchor was recorded with.** -/
theorem Extends.siblings_eq (h : g.Extends g') (hs : size ≤ g.size) (position : Nat) :
    g'.siblings position size = g.siblings position size := by
  obtain ⟨more, hmore⟩ := h.leaves_prefix
  have htake : g'.leaves.take size = g.leaves.take size := by rw [← hmore, List.take_append_of_le_length hs]
  simp only [siblings, htake]

/-- **Answers are stable.** However a log grows, a commitment that has a path at an anchor keeps this very path, one that came
after the anchor did so for ever, and one that was unknown at a known anchor will never have a path there. -/
theorem answers_stable (before more : List NoteCommitment) (g g' : CommitmentLog)
    (hg : before.foldlM CommitmentLog.append empty = .ok g) (hg' : more.foldlM CommitmentLog.append g = .ok g')
    (c : NoteCommitment) (a : Root) :
    (∀ w, g.witness c a = .ok w → g'.witness c a = .ok w) ∧
    (∀ position size, g.witness c a = .error (.afterAnchor position size) →
      g'.witness c a = .error (.afterAnchor position size)) ∧
    (g.witness c a = .error (.unknownCommitment c) → ∀ w, g'.witness c a ≠ .ok w) := by
  have hrecorded : g.Recorded := recorded_foldlM hg
  have hext : g.Extends g' := extends_foldlM hg'
  refine ⟨fun w hw => ?_, fun position size hafter => ?_, fun hunknown w hw => ?_⟩
  · obtain ⟨size, position, hs, hp, hlt, rfl⟩ := witness_eq_ok_iff.1 hw
    have hsiblings := hext.siblings_eq (hrecorded a size hs) position
    exact witness_eq_ok_iff.2
      ⟨size, position, hext.anchor_kept a size hs, hext.position_kept c position hp, hlt, by rw [hsiblings]⟩
  · obtain ⟨hs, hp, hle⟩ := witness_eq_afterAnchor_iff.1 hafter
    exact witness_eq_afterAnchor_iff.2 ⟨hext.anchor_kept a size hs, hext.position_kept c position hp, hle⟩
  · obtain ⟨⟨size, hs⟩, hnone⟩ := witness_eq_unknownCommitment_iff.1 hunknown
    obtain ⟨size', position, hs', hp, hlt, _⟩ := witness_eq_ok_iff.1 hw
    -- the commitment would have to be new, and so stand behind all leaves that the anchor can have
    have hsize : size = size' := Option.some.inj ((hext.anchor_kept a size hs).symm.trans hs')
    have hbehind := hext.size_le_position c position hnone hp
    have hrecorded' := hrecorded a size hs
    omega

/-- A log of one commitment to which another is appended, and then the first one again. -/
theorem answers_stable_repeated :
    let c : NoteCommitment := ⟨Bytes.ofNat 32 7⟩
    let d : NoteCommitment := ⟨Bytes.ofNat 32 8⟩
    let atEmpty : Root := CompleteTree.rootAt [c] 0
    let atFirst : Root := CompleteTree.rootAt [c] 1
    ∃ g g', [c].foldlM CommitmentLog.append empty = .ok g ∧ [d, c].foldlM CommitmentLog.append g = .ok g' ∧
      (g.witness c atEmpty = .error (.afterAnchor 0 0) ∧ g'.witness c atEmpty = .error (.afterAnchor 0 0)) ∧
      (g.witness d atEmpty = .error (.unknownCommitment d) ∧ ∀ w, g'.witness d atEmpty ≠ .ok w) ∧
      ((∃ w, g.witness c atFirst = .ok w ∧ g'.witness c atFirst = .ok w) ∨
        ∃ s ≤ 1, ∃ t ≤ 1, Collides Sha256.compress (CompleteTree.RootHashes ([c].take s))
          (CompleteTree.RootHashes ([c].take t))) := by
  intro c d atEmpty atFirst
  obtain ⟨g, hg, hholds⟩ := exists_foldlM (l := [c]) (by decide)
  obtain ⟨g', hg', _⟩ := exists_foldlM (l := [c] ++ [d, c]) (by decide)
  have hmore : [d, c].foldlM CommitmentLog.append g = .ok g' := by
    rw [List.foldlM_append, hg] at hg'
    exact hg'
  have hanswers := hholds.answers (by decide)
  have hleast : IsLeast (sizes [c] atEmpty) 0 := ⟨⟨Nat.zero_le _, rfl⟩, fun _ _ => Nat.zero_le _⟩
  have hfirst : IsLeast (indices [c] c) 0 := ⟨rfl, fun _ _ => Nat.zero_le _⟩
  have hafter : g.witness c atEmpty = .error (.afterAnchor 0 0) := (hanswers.afterAnchor_iff hleast hfirst).2 (Nat.le_refl 0)
  have hunknown : g.witness d atEmpty = .error (.unknownCommitment d) :=
    (hanswers.unknownCommitment_iff hleast).2 (by decide)
  refine ⟨g, g', hg, hmore, ⟨hafter, (answers_stable [c] [d, c] g g' hg hmore c atEmpty).2.1 0 0 hafter⟩,
    ⟨hunknown, (answers_stable [c] [d, c] g g' hg hmore d atEmpty).2.2 hunknown⟩, ?_⟩
  -- the two roots differ unless blocks collide, so the first leaf has a path at its own root
  rcases hanswers.witnessed_or_collides (i := 0) (s := 1) rfl (by decide) (by decide) (by decide) with ⟨w, hw⟩ | hc
  · exact Or.inl ⟨w, hw, (answers_stable [c] [d, c] g g' hg hmore c atFirst).1 w hw⟩
  · exact Or.inr hc

end ShieldedPool.CommitmentLog
