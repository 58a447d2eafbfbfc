import ShieldedPool.Note.Encryption
import ShieldedPool.Proofs.Codec

/-!
# Who can open an encrypted note

A recipient opens a ciphertext (`decrypt_note`) with a key that is derived from their own side of the agreement. It seals
some bytes under this very key or it is not for them, and what it seals is a plaintext or is refused for its first byte or
its amount (`decryptNote_eq_iff`, `decryptNote_answers`). So all that delivery asks for is that both sides derive the same
key, which they do once they share a secret (`nextKey_eq_openingKey`).
-/

namespace ShieldedPool

/-! ## Plaintexts in their buffer -/

namespace NotePlaintext

variable {p : NotePlaintext} {rest : List UInt8}

theorem toList_toBytes (p : NotePlaintext) : p.toBytes.toList = p.encode := rfl

/-- A plaintext takes up its whole buffer. -/
theorem decode_toList_eq_ok_iff {b : Bytes size} : decode b.toList = .ok (p, rest) ↔ b = p.toBytes ∧ rest = [] := by
  rw [reads_decode, ← toList_toBytes]
  constructor
  · intro h
    have hlen := congrArg List.length h
    rw [List.length_append, Vector.length_toList, Vector.length_toList] at hlen
    have hrest : rest = [] := List.length_eq_zero_iff.1 (by omega)
    rw [hrest, List.append_nil] at h
    exact ⟨Vector.toList_inj.1 h, hrest⟩
  · rintro ⟨rfl, rfl⟩
    rw [List.append_nil]

/-- Why a full buffer holds no plaintext: its first byte, or the number after it. -/
inductive Refused (b : Bytes size) : DecodeError → Prop
  | lead (h : b[0] ≠ NotePlaintext.lead) : Refused b (.malformed .plaintextLead)
  | amount {v : Nat} (h : b[0] = NotePlaintext.lead) (hv : Amount.RefusedAt b.toList 1 v) :
    Refused b (.amount (.constraint v))

theorem badLead_toList_iff {b : Bytes size} : BadLead b.toList ↔ b[0] ≠ lead := by
  have hhead : b.toList.head? = some b[0] := by
    rw [List.head?_eq_getElem?, List.getElem?_eq_getElem (by rw [Vector.length_toList]; decide), Vector.getElem_toList]
  simp [BadLead, hhead]

/-- **A full buffer is refused for its first byte or for its amount**, never for want of bytes. -/
theorem decode_toList_eq_error_iff {b : Bytes size} {cause : DecodeError} :
    decode b.toList = .error cause ↔ Refused b cause := by
  have hlen : ¬ b.toList.length < size := by
    rw [Vector.length_toList]
    exact Nat.lt_irrefl _
  rw [decode_eq_error_iff, badLead_toList_iff, ne_eq, Decidable.not_not]
  constructor
  · rintro (⟨hbad, rfl⟩ | ⟨hgood, ⟨v, hv, rfl⟩ | ⟨_, hshort, _⟩⟩)
    · exact .lead hbad
    · exact .amount hgood hv
    · exact absurd hshort hlen
  · rintro (hbad | ⟨hgood, hv⟩)
    · exact Or.inl ⟨hbad, rfl⟩
    · exact Or.inr ⟨hgood, Or.inl ⟨_, hv, rfl⟩⟩

/-- What is refused is no plaintext's encoding, and all else is one. -/
theorem exists_refused_iff {b : Bytes size} : (∃ cause, Refused b cause) ↔ ∀ p : NotePlaintext, b ≠ p.toBytes := by
  simp only [← decode_toList_eq_error_iff]
  cases hd : decode b.toList with
  | error cause =>
    refine iff_of_true ⟨cause, rfl⟩ fun p hp => ?_
    rw [decode_toList_eq_ok_iff.2 ⟨hp, rfl⟩] at hd
    cases hd
  | ok read =>
    refine iff_of_false (by rintro ⟨_, ⟨⟩⟩) fun h => ?_
    exact h read.1 (decode_toList_eq_ok_iff.1 hd).1

/-- What a recipient makes of an opened buffer. -/
def opened (b : Bytes size) : Except NoteDecryptionError NotePlaintext :=
  ((decode b.toList).map Prod.fst).mapError .malformedPlaintext

theorem opened_eq_ok_iff {b : Bytes size} : opened b = .ok p ↔ b = p.toBytes := by
  rw [opened, mapError_eq_ok_iff]
  constructor
  · intro h
    cases hd : decode b.toList with
    | error cause => rw [hd] at h; cases h
    | ok read =>
      rw [hd] at h
      cases h
      exact (decode_toList_eq_ok_iff.1 hd).1
  · intro hb
    rw [decode_toList_eq_ok_iff.2 ⟨hb, rfl⟩]
    rfl

theorem opened_eq_error_iff {b : Bytes size} {cause : NoteDecryptionError} :
    opened b = .error cause ↔ ∃ c, Refused b c ∧ cause = .malformedPlaintext c := by
  simp only [← decode_toList_eq_error_iff, opened, mapError_eq_error_iff]
  cases decode b.toList with
  | error c => simp [Except.map, eq_comm]
  | ok read => simp [Except.map]

end NotePlaintext

/-! ## Opening -/

section
variable {key : ReceivingKey} {c : EncryptedNote} {ephemeralKey : X25519.PublicKey} {hSig : HSig} {index : UInt8}
  {p : NotePlaintext}

/-- The key under which a recipient opens output `index`. -/
def ReceivingKey.openingKey (key : ReceivingKey) (ephemeralKey : X25519.PublicKey) (hSig : HSig) (index : UInt8) :
    Bytes 32 :=
  NoteKey.derive (X25519.agree key.bytes ephemeralKey) ephemeralKey key.transmissionKey hSig index

/-- The ciphertext that a recipient opens to some bytes, whether these are a plaintext or not. -/
def ReceivingKey.sealed (key : ReceivingKey) (ephemeralKey : X25519.PublicKey) (hSig : HSig) (index : UInt8)
    (b : Bytes NotePlaintext.size) : EncryptedNote :=
  ⟨Aead.encrypt (key.openingKey ephemeralKey hSig index) b⟩

theorem ReceivingKey.decrypt?_eq_some_iff {b : Bytes NotePlaintext.size} :
    Aead.decrypt? (key.openingKey ephemeralKey hSig index) c.bytes = some b ↔ c = key.sealed ephemeralKey hSig index b := by
  obtain ⟨c⟩ := c
  rw [Aead.decrypt?_eq_some_iff, ReceivingKey.sealed, EncryptedNote.mk.injEq]

theorem decryptNote_of_agree_eq_zero (hzero : X25519.agree key.bytes ephemeralKey = Bytes.zero 32) :
    decryptNote key c ephemeralKey hSig index = .error .notForThisKey := if_pos hzero

/-- What is not sealed for a recipient is refused. -/
theorem decryptNote_of_ne_sealed (hc : ∀ b, c ≠ key.sealed ephemeralKey hSig index b) :
    decryptNote key c ephemeralKey hSig index = .error .notForThisKey := by
  have hnone : Aead.decrypt? (key.openingKey ephemeralKey hSig index) c.bytes = none :=
    Option.eq_none_iff_forall_ne_some.2 fun b hb => hc b (ReceivingKey.decrypt?_eq_some_iff.1 hb)
  rw [ReceivingKey.openingKey] at hnone
  simp [decryptNote, hnone]

theorem decryptNote_sealed (hzero : X25519.agree key.bytes ephemeralKey ≠ Bytes.zero 32) (b : Bytes NotePlaintext.size) :
    decryptNote key (key.sealed ephemeralKey hSig index b) ephemeralKey hSig index = NotePlaintext.opened b := by
  have hsome : Aead.decrypt? (key.openingKey ephemeralKey hSig index) (key.sealed ephemeralKey hSig index b).bytes = some b :=
    ReceivingKey.decrypt?_eq_some_iff.2 rfl
  rw [ReceivingKey.openingKey] at hsome
  rw [decryptNote, NotePlaintext.opened]
  simp only [hzero, if_false, hsome]
  cases NotePlaintext.decode b.toList <;> rfl

theorem ReceivingKey.sealed_inj {a b : Bytes NotePlaintext.size} :
    key.sealed ephemeralKey hSig index a = key.sealed ephemeralKey hSig index b ↔ a = b := by
  rw [← decrypt?_eq_some_iff, decrypt?_eq_some_iff.2 rfl, Option.some_inj]

/-- **How a ciphertext can be answered.** It is not for this key, or it seals some bytes, which are then read. -/
theorem decryptNote_eq_iff {answer : Except NoteDecryptionError NotePlaintext} :
    decryptNote key c ephemeralKey hSig index = answer ↔
      (X25519.agree key.bytes ephemeralKey = Bytes.zero 32 ∨ ∀ b, c ≠ key.sealed ephemeralKey hSig index b) ∧
          answer = .error .notForThisKey ∨
        X25519.agree key.bytes ephemeralKey ≠ Bytes.zero 32 ∧
          ∃ b, c = key.sealed ephemeralKey hSig index b ∧ NotePlaintext.opened b = answer := by
  by_cases hzero : X25519.agree key.bytes ephemeralKey = Bytes.zero 32
  · rw [decryptNote_of_agree_eq_zero hzero]
    simp [hzero, eq_comm]
  · by_cases hsealed : ∃ b, c = key.sealed ephemeralKey hSig index b
    · obtain ⟨b, rfl⟩ := hsealed
      rw [decryptNote_sealed hzero]
      constructor
      · intro h
        exact Or.inr ⟨hzero, b, rfl, h⟩
      · rintro (⟨h | h, _⟩ | ⟨_, b', hb, hanswer⟩)
        · exact absurd h hzero
        · exact absurd rfl (h b)
        · rw [ReceivingKey.sealed_inj.1 hb, hanswer]
    · have hne : ∀ b, c ≠ key.sealed ephemeralKey hSig index b := not_exists.1 hsealed
      rw [decryptNote_of_ne_sealed hne]
      simp [hzero, hne, eq_comm]

/-- **What opens.** Unless the shared secret is zero, a recipient reads a plaintext just from its encryption under their own
opening key. -/
theorem decryptNote_eq_ok_iff :
    decryptNote key c ephemeralKey hSig index = .ok p ↔
      X25519.agree key.bytes ephemeralKey ≠ Bytes.zero 32 ∧
        c = ⟨Aead.encrypt (key.openingKey ephemeralKey hSig index) p.toBytes⟩ := by
  rw [decryptNote_eq_iff]
  simp [NotePlaintext.opened_eq_ok_iff, ReceivingKey.sealed]

theorem decryptNote_eq_malformed_iff {cause : DecodeError} :
    decryptNote key c ephemeralKey hSig index = .error (.malformedPlaintext cause) ↔
      X25519.agree key.bytes ephemeralKey ≠ Bytes.zero 32 ∧
        ∃ b, c = key.sealed ephemeralKey hSig index b ∧ NotePlaintext.Refused b cause := by
  rw [decryptNote_eq_iff]
  simp [NotePlaintext.opened_eq_error_iff]

/-- What was meant for a recipient and holds no plaintext is never answered as if it were for someone else. -/
theorem decryptNote_eq_notForThisKey_iff :
    decryptNote key c ephemeralKey hSig index = .error .notForThisKey ↔
      X25519.agree key.bytes ephemeralKey = Bytes.zero 32 ∨ ∀ b, c ≠ key.sealed ephemeralKey hSig index b := by
  rw [decryptNote_eq_iff]
  simp [NotePlaintext.opened_eq_error_iff]

/-- **Every answer to a ciphertext.** With a shared secret of zeros it is not for this key. Otherwise it opens to a plaintext
just if it seals that plaintext's encoding, it is malformed just if it seals bytes that encode none (for the first of them if
that is no lead, else for the amount), and it is not for this key if it seals nothing. So each plaintext has exactly one
ciphertext that opens to it. -/
theorem decryptNote_answers (key : ReceivingKey) (c : EncryptedNote) (ephemeralKey : X25519.PublicKey) (hSig : HSig)
    (index : UInt8) :
    (∀ p : NotePlaintext, decryptNote key c ephemeralKey hSig index = .ok p ↔
      X25519.agree key.bytes ephemeralKey ≠ Bytes.zero 32 ∧ c = key.sealed ephemeralKey hSig index p.toBytes) ∧
    (∀ cause, decryptNote key c ephemeralKey hSig index = .error (.malformedPlaintext cause) ↔
      X25519.agree key.bytes ephemeralKey ≠ Bytes.zero 32 ∧
        ∃ b, c = key.sealed ephemeralKey hSig index b ∧ NotePlaintext.Refused b cause) ∧
    ((∃ cause, decryptNote key c ephemeralKey hSig index = .error (.malformedPlaintext cause)) ↔
      X25519.agree key.bytes ephemeralKey ≠ Bytes.zero 32 ∧
        ∃ b, c = key.sealed ephemeralKey hSig index b ∧ ∀ p : NotePlaintext, b ≠ p.toBytes) ∧
    (decryptNote key c ephemeralKey hSig index = .error .notForThisKey ↔
      X25519.agree key.bytes ephemeralKey = Bytes.zero 32 ∨ ∀ b, c ≠ key.sealed ephemeralKey hSig index b) ∧
    ∀ p : NotePlaintext, (∃ only, ∀ c', decryptNote key c' ephemeralKey hSig index = .ok p ↔ c' = only) ↔
      X25519.agree key.bytes ephemeralKey ≠ Bytes.zero 32 := by
  refine ⟨fun p => decryptNote_eq_ok_iff, fun cause => decryptNote_eq_malformed_iff, ?malformed,
    decryptNote_eq_notForThisKey_iff, fun p => ⟨?agreed, ?only⟩⟩
  case malformed =>
    simp only [decryptNote_eq_malformed_iff, ← NotePlaintext.exists_refused_iff]
    constructor
    · rintro ⟨cause, hagree, b, hb, hrefused⟩
      exact ⟨hagree, b, hb, cause, hrefused⟩
    · rintro ⟨hagree, b, hb, cause, hrefused⟩
      exact ⟨cause, hagree, b, hb, hrefused⟩
  case agreed =>
    rintro ⟨only, honly⟩
    exact (decryptNote_eq_ok_iff.1 ((honly only).2 rfl)).1
  case only =>
    intro hagree
    refine ⟨key.sealed ephemeralKey hSig index p.toBytes, fun c' => ?_⟩
    rw [decryptNote_eq_ok_iff, ReceivingKey.sealed]
    exact and_iff_right hagree

end

/-! ## Both sides of the agreement -/

/-- What is asked of the key agreement: the holder of an ephemeral secret and a recipient share a secret that is not zero. -/
structure X25519.Agreed (secret : Bytes 32) (key : ReceivingKey) : Prop where
  agree_eq : agree secret key.transmissionKey = agree key.bytes (publicKey secret)
  agree_ne_zero : agree key.bytes (publicKey secret) ≠ Bytes.zero 32

theorem NoteEncryptor.nextKey_eq_openingKey {e : NoteEncryptor} {key : ReceivingKey} (h : X25519.Agreed e.secret key) :
    e.nextKey key.transmissionKey = key.openingKey e.ephemeralKey e.hSig e.nonce := by
  unfold nextKey ReceivingKey.openingKey
  rw [h.agree_eq]
  rfl

/-- **The recipient reads what was encrypted to them**, under the number that the encryptor gave to the output. -/
theorem NoteEncryptor.decryptNote_encrypt {e : NoteEncryptor} {key : ReceivingKey} (h : X25519.Agreed e.secret key)
    (p : NotePlaintext) :
    decryptNote key ⟨Aead.encrypt (e.nextKey key.transmissionKey) p.toBytes⟩ e.ephemeralKey e.hSig e.nonce = .ok p := by
  rw [decryptNote_eq_ok_iff, nextKey_eq_openingKey h]
  exact ⟨h.agree_ne_zero, rfl⟩

end ShieldedPool
