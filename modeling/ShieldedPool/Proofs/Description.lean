import ShieldedPool.JoinSplit
import ShieldedPool.Proofs.Codec

/-!
# The encoding of a description

A description has one encoding, of a fixed size, and reading it back takes just these bytes and leaves what follows. Of other
bytes it is known why they are refused: an amount is out of range, or they end too early. `decode_canonical` says both. The
two amounts come first, and the fields after them take whatever bytes there are, so nothing else is refused (`fails_decode`).
-/

namespace ShieldedPool

open Decoder

theorem Mac.reads_decode : Mac.decode.Reads fun m => m.bytes.toList :=
  (reads_bytes 32).map Mac.mk Mac.bytes (fun _ => rfl) fun _ => rfl

theorem ZkProof.reads_decode : ZkProof.decode.Reads fun p => p.bytes.toList :=
  (reads_bytes 192).map ZkProof.mk ZkProof.bytes (fun _ => rfl) fun _ => rfl

theorem EncryptedNote.reads_decode : EncryptedNote.decode.Reads fun c => c.bytes.toList :=
  (reads_bytes (NotePlaintext.size + 16)).map EncryptedNote.mk EncryptedNote.bytes (fun _ => rfl) fun _ => rfl

theorem Nullifier.reads_bytes : (Nullifier.mk <$> Decoder.bytes 32).Reads fun n => n.bytes.toList :=
  (Decoder.reads_bytes 32).map Nullifier.mk Nullifier.bytes (fun _ => rfl) fun _ => rfl

theorem NoteCommitment.reads_bytes : (NoteCommitment.mk <$> Decoder.bytes 32).Reads fun c => c.bytes.toList :=
  (Decoder.reads_bytes 32).map NoteCommitment.mk NoteCommitment.bytes (fun _ => rfl) fun _ => rfl

theorem length_flatMap_pair {α : Type} {n : Nat} (v : Vector α 2) (f : α → Bytes n) :
    (v.toList.flatMap fun a => (f a).toList).length = 2 * n := by
  obtain ⟨a, b, rfl⟩ := exists_eq_pair v
  change ((f a).toList ++ ((f b).toList ++ [])).length = _
  simp only [List.length_append, Vector.length_toList, List.length_nil]
  omega

namespace JoinSplit

theorem length_encode (j : JoinSplit) : j.encode.length = size := by
  simp only [encode, List.length_append, Vector.length_toList]
  rw [length_flatMap_pair j.nullifiers, length_flatMap_pair j.commitments, length_flatMap_pair j.macs,
    length_flatMap_pair j.ciphertexts]
  rfl

theorem reads_decode : decode.Reads encode := by
  intro l j rest
  simp only [decode, bind_run_eq_ok_iff, Amount.reads_decode _ _ _, Decoder.reads_bytes _ _ _ _,
    Nullifier.reads_bytes.pair _ _ _, NoteCommitment.reads_bytes.pair _ _ _, Mac.reads_decode.pair _ _ _,
    ZkProof.reads_decode _ _ _, EncryptedNote.reads_decode.pair _ _ _, pure_eq_ok_iff]
  constructor
  · rintro ⟨vpubOld, _, rfl, vpubNew, _, rfl, anchor, _, rfl, nullifiers, _, rfl, commitments, _, rfl, ephemeralKey, _, rfl,
      randomSeed, _, rfl, macs, _, rfl, proof, _, rfl, ciphertexts, _, rfl, rfl, rfl⟩
    simp only [encode, List.append_assoc]
  · intro hl
    simp only [hl, encode, List.append_assoc]
    exact ⟨j.vpubOld, _, rfl, j.vpubNew, _, rfl, j.anchor.bytes, _, rfl, j.nullifiers, _, rfl, j.commitments, _, rfl,
      j.ephemeralKey.bytes, _, rfl, j.randomSeed.bytes, _, rfl, j.macs, _, rfl, j.proof, _, rfl, j.ciphertexts, rest, rfl,
      rfl, rfl⟩

/-! ## What is refused -/

/-- A number that is refused as an amount: the first, or the second after a first that is in range. -/
def RefusedAmount (l : List UInt8) (v : Nat) : Prop :=
  Amount.RefusedAt l 0 v ∨ Amount.AcceptedAt l 0 ∧ Amount.RefusedAt l 8 v

/-- The fields after the amounts are any bytes. -/
theorem fails_decode : decode.Fails RefusedAmount size := by
  have hfails : decode.Fails _ (8 + (8 + (size - 16))) := Amount.fails_bind fun _ => Amount.fails_bind fun _ => Takes.fails <|
    (takes_bytes 32).bind fun _ => ((takes_bytes 32).map Nullifier.mk).pair.bind fun _ =>
    ((takes_bytes 32).map NoteCommitment.mk).pair.bind fun _ => (takes_bytes 32).bind fun _ =>
    (takes_bytes 32).bind fun _ => ((takes_bytes 32).map Mac.mk).pair.bind fun _ =>
    ((takes_bytes 192).map ZkProof.mk).bind fun _ =>
    ((takes_bytes (NotePlaintext.size + 16)).map EncryptedNote.mk).pair.bind fun _ => takes_pure _
  exact hfails.congr fun l v => by simp only [Amount.refusedAt_drop, and_false, or_false, RefusedAmount]

/-- **The encoding is canonical.** Reading returns a description and leaves the rest just where its encoding is followed by
this rest, and every encoding has one size. All else is refused: for the first of the two amounts that is out of range, or, if
they are not, because there are too few bytes. -/
theorem decode_canonical :
    (∀ l j rest, decode l = .ok (j, rest) ↔ l = j.encode ++ rest) ∧
    (∀ j : JoinSplit, j.encode.length = size) ∧
    ∀ l cause, decode l = .error cause ↔
      (∃ v, RefusedAmount l v ∧ cause = .amount (.constraint v)) ∨
        (∀ v, ¬ RefusedAmount l v) ∧ l.length < size ∧ cause = .unexpectedEnd :=
  ⟨reads_decode, length_encode, fails_decode⟩

end JoinSplit

end ShieldedPool
