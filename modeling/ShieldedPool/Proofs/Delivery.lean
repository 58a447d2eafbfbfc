import ShieldedPool.Proofs.Encryption
import ShieldedPool.Proofs.Proving

/-!
# Outputs reach their recipients

The prover (`Prover::prove`) encrypts each output to the key bytes of its address, under the number that the encryptor has
counted up to and the signature hash that it has just computed. The recipient opens it (`decrypt_note`) with a public key
that they derive themselves, under the position of the output and the signature hash of the statement. `prove_delivers` says
that these meet: every output of every successful run is read by whoever holds the secret behind its address, and it is the
note that the statement commits to.
-/

namespace ShieldedPool

namespace ProveRequest

variable {r : ProveRequest} {i : Index}

/-- **An output is read by its recipient.** -/
theorem decryptNote_ciphertext {key : ReceivingKey} {secret : Bytes 32}
    (hkey : key.transmissionKey.bytes = (r.recipient i).bytes) (hagreed : X25519.Agreed secret key)
    (notes : Vector Note 2) (h : HSig) :
    decryptNote key (r.ciphertext notes secret h i) (X25519.publicKey secret) h (UInt8.ofNat i)
      = .ok (r.plaintext notes i) := by
  have hrecipient : r.recipient i = key.transmissionKey := congrArg X25519.PublicKey.mk hkey.symm
  let encryptor : NoteEncryptor := { secret, hSig := h, nonce := UInt8.ofNat i }
  have hopen := NoteEncryptor.decryptNote_encrypt (e := encryptor) hagreed (r.plaintext notes i)
  rw [← hrecipient] at hopen
  exact hopen

end ProveRequest

/-- **Every output reaches its recipient.** -/
theorem prove_delivers {σ : Type} [ProofSystem σ] (system : σ) (r : ProveRequest) (e : Entropy) (p : ProvedJoinSplit)
    (hp : ((prove system r).run.run e).1 = .ok p) (i : Index) (key : ReceivingKey)
    (hkey : key.transmissionKey.bytes = (r.outputs.get i).address.transmissionKey.bytes)
    (hagreed : X25519.Agreed e.secrets.ephemeral key) :
    ∃ plaintext, decryptNote key (p.ciphertexts.get i) p.ephemeralKey p.hSig (UInt8.ofNat i) = .ok plaintext ∧
      plaintext.note (r.outputs.get i).address.payingKey = p.outputNotes.get i ∧
      (p.outputNotes.get i).commitment = p.statement.commitments.get i ∧
      (p.outputNotes.get i).rho = outputRho e.secrets.phi i p.hSig ∧
      plaintext.memo = (r.outputs.get i).memo := by
  obtain ⟨_, proof, rfl⟩ := prove_eq_ok hp
  have hnote : (r.notesOf e.secrets).get i = r.noteOf e.secrets i := r.get_notesOf e.secrets i
  refine ⟨r.plaintext (r.notesOf e.secrets) i, ?_, ?_, ?_, ?_, rfl⟩
  · have hopen := ProveRequest.decryptNote_ciphertext hkey hagreed (r.notesOf e.secrets) (r.hSigOf e.secrets)
    rw [← r.get_ciphertextsOf e.secrets i] at hopen
    exact hopen
  · change ((r.plaintext (r.notesOf e.secrets) i).note _) = (r.notesOf e.secrets).get i
    rw [ProveRequest.plaintext, hnote]
    rfl
  · exact (get_map Note.commitment (r.notesOf e.secrets) i).symm
  · change ((r.notesOf e.secrets).get i).rho = _
    rw [hnote]
    rfl

/-- Two outputs go to two recipients, and the second of them reads what is theirs. -/
theorem prove_delivers_second :
    let spendingKey := SpendingKey.ofBytes (Bytes.zero 32)
    let dummy : Note := ⟨spendingKey.payingKey, .zero, ⟨Bytes.zero 32⟩, ⟨Bytes.zero 32⟩⟩
    let spent : SpentNote := ⟨spendingKey, dummy, .single dummy.commitment⟩
    let first : ReceivingKey := .ofBytes (Vector.replicate 32 5)
    let second : ReceivingKey := .ofBytes (Vector.replicate 32 7)
    let r : ProveRequest :=
      { inputs := #v[spent, spent]
        outputs := #v[⟨⟨dummy.payingKey, first.transmissionKey⟩, ⟨3, by decide⟩, .none⟩,
          ⟨⟨⟨Bytes.zero 32⟩, second.transmissionKey⟩, ⟨2, by decide⟩, ⟨Vector.replicate 512 1⟩⟩]
        anchor := ⟨Bytes.zero 32⟩, vpubOld := ⟨5, by decide⟩, vpubNew := .zero, signingKey := Bytes.zero 32 }
    let e : Entropy := .cycle [9, 8]
    ∃ p, ((prove (KeyedSystem.mk (Bytes.zero 32)) r).run.run e).1 = .ok p ∧ X25519.Agreed e.secrets.ephemeral second ∧
      ∃ plaintext, decryptNote second (p.ciphertexts.get Index.second) p.ephemeralKey p.hSig 1 = .ok plaintext ∧
        plaintext.note ⟨Bytes.zero 32⟩ = p.outputNotes.get Index.second ∧
        (p.outputNotes.get Index.second).commitment = p.statement.commitments.get Index.second ∧
        (p.outputNotes.get Index.second).rho = outputRho e.secrets.phi Index.second p.hSig ∧
        plaintext.memo = ⟨Vector.replicate 512 1⟩ := by
  intro spendingKey dummy spent first second r e
  have hvalid : r.Valid :=
    ⟨Index.forall_iff.2 ⟨⟨rfl, fun h => absurd rfl h⟩, ⟨rfl, fun h => absurd rfl h⟩⟩, ⟨rfl, by decide⟩⟩
  have hp := congrArg Prod.fst (prove_keyed_of_valid hvalid (KeyedSystem.mk (Bytes.zero 32)) e)
  have hagreed : X25519.Agreed e.secrets.ephemeral second := ⟨by decide +kernel, by decide +kernel⟩
  exact ⟨_, hp, hagreed, prove_delivers _ r e _ hp Index.second second rfl hagreed⟩

end ShieldedPool
