import ShieldedPool.Proofs.Collision
import ShieldedPool.Proofs.Description
import ShieldedPool.Proofs.Encryption
import ShieldedPool.Proofs.KeyText

/-!
# Several spellings of one public key

A public key keeps its 32 bytes, and some field elements have several spellings: the top bit is ignored, and a number from the
prime on is reduced. Keys are equal if they spell one field element, and so are the records that hold them, but what is written
and hashed are the bytes. One spelling of each key is canonical, and two keys are equal just if they have the same one
(`PublicKey.beq_iff`). So equal descriptions have the same bytes once their ephemeral keys are spelled canonically
(`JoinSplit.beq_iff_canonical_encode`), and a note to one of several equal addresses is read by its recipient if the address
has the canonical spelling (`PaymentAddress.received_iff_canonical`). With another spelling both fail.
-/

namespace ShieldedPool

/-! ## Public keys -/

namespace X25519

/-- The canonical spelling of a field element: its least representative. -/
def spell (u : Field) : Bytes 32 := Bytes.ofNat 32 u.value

theorem value_lt_prime (u : Field) : u.value < prime := by
  rw [← u.value_mod]
  exact Nat.mod_lt _ (by decide)

theorem toNat_spell (u : Field) : (spell u).toNat = u.value := by
  have hcap : prime < 1 <<< (8 * 32) := by decide
  exact Bytes.toNat_ofNat (Nat.lt_trans (value_lt_prime u) hcap)

theorem value_coordinate (key : Bytes 32) : (coordinate key).value = key.toNat % (1 <<< 255) % prime := rfl

theorem coordinate_spell (u : Field) : coordinate (spell u) = u := by
  have hcap : prime < 1 <<< 255 := by decide
  have hu := value_lt_prime u
  rw [coordinate, toNat_spell, Nat.mod_eq_of_lt (by omega), Residue.ofNat_value]

theorem spell_coordinate_eq_iff {key : Bytes 32} : spell (coordinate key) = key ↔ key.toNat < prime := by
  constructor
  · intro h
    rw [← h, toNat_spell]
    exact value_lt_prime _
  · intro h
    have hcap : prime < 1 <<< 255 := by decide
    have hvalue : (coordinate key).value = key.toNat := by
      rw [value_coordinate, Nat.mod_eq_of_lt (Nat.lt_trans h hcap), Nat.mod_eq_of_lt h]
    rw [spell, hvalue, Bytes.ofNat_toNat]

/-- The field element of a product, by the ladder. -/
def product (secret : Bytes 32) (u : Field) : Field :=
  let k := (clamp secret).toNat
  let r := (List.range 255).foldr (fun i r => ladderStep u (k.testBit i) r) (⟨1, 0⟩, ⟨u, 1⟩)
  r.1.x * r.1.z⁻¹

/-- A product is spelled canonically, and the spelling of the key does not matter to it. -/
theorem scalarMult_eq_spell (secret key : Bytes 32) : scalarMult secret key = spell (product secret (coordinate key)) := by
  rw [scalarMult]
  rfl

namespace PublicKey

variable {a b k : PublicKey}

/-- The same key in its canonical spelling. -/
def canonical (k : PublicKey) : PublicKey := ⟨spell (coordinate k.bytes)⟩

/-- **Equal keys have the same canonical spelling.** -/
theorem beq_iff : (a == b) = true ↔ a.canonical = b.canonical := by
  change (coordinate a.bytes == coordinate b.bytes) = true ↔ _
  rw [beq_iff_eq, canonical, canonical, PublicKey.mk.injEq]
  constructor
  · exact congrArg spell
  · intro h
    rw [← coordinate_spell (coordinate a.bytes), h, coordinate_spell]

theorem canonical_eq_self_iff : k.canonical = k ↔ k.bytes.toNat < prime := by
  obtain ⟨key⟩ := k
  rw [canonical, PublicKey.mk.injEq, spell_coordinate_eq_iff]

end PublicKey

/-- Keys of secrets are spelled canonically. -/
theorem canonical_publicKey (secret : Bytes 32) : (publicKey secret).canonical = publicKey secret := by
  rw [publicKey, scalarMult_eq_spell, PublicKey.canonical, coordinate_spell]

/-- Equal keys share the same secrets. -/
theorem agree_congr {a b : PublicKey} (h : (a == b) = true) (secret : Bytes 32) : agree secret a = agree secret b := by
  have hcoordinate : coordinate a.bytes = coordinate b.bytes := eq_of_beq h
  rw [agree, agree, scalarMult_eq_spell, scalarMult_eq_spell, hcoordinate]

end X25519

/-! ## Descriptions -/

namespace JoinSplit

variable {a b : JoinSplit}

/-- The description with its ephemeral key in the canonical spelling. -/
def canonical (j : JoinSplit) : JoinSplit := { j with ephemeralKey := j.ephemeralKey.canonical }

/-- Descriptions are compared field by field. -/
theorem beq_iff : (a == b) = true ↔ a.vpubOld = b.vpubOld ∧ a.vpubNew = b.vpubNew ∧ a.anchor = b.anchor ∧
    a.nullifiers = b.nullifiers ∧ a.commitments = b.commitments ∧ (a.ephemeralKey == b.ephemeralKey) = true ∧
    a.randomSeed = b.randomSeed ∧ a.macs = b.macs ∧ a.proof = b.proof ∧ a.ciphertexts = b.ciphertexts := by
  have hfields : (a == b) = (a.vpubOld == b.vpubOld && (a.vpubNew == b.vpubNew && (a.anchor == b.anchor &&
      (a.nullifiers == b.nullifiers && (a.commitments == b.commitments && (a.ephemeralKey == b.ephemeralKey &&
      (a.randomSeed == b.randomSeed && (a.macs == b.macs && (a.proof == b.proof &&
      a.ciphertexts == b.ciphertexts))))))))) := by
    cases a
    cases b
    rfl
  simp only [hfields, Bool.and_eq_true, beq_iff_eq]

theorem beq_iff_canonical_eq : (a == b) = true ↔ a.canonical = b.canonical := by
  rw [beq_iff, X25519.PublicKey.beq_iff, canonical, canonical, mk.injEq]

theorem encode_inj : a.encode = b.encode ↔ a = b := by
  constructor
  · intro h
    have hread : decode b.encode = .ok (a, []) := (reads_decode _ _ _).2 (by rw [h, List.append_nil])
    rw [(reads_decode _ _ _).2 (List.append_nil b.encode).symm] at hread
    cases hread
    rfl
  · rintro rfl; rfl

/-- What is written before the ephemeral key, and what is written behind it. -/
theorem encode_eq (j : JoinSplit) : ∃ front back : List UInt8, front.length = 176 ∧
    j.encode = front ++ (j.ephemeralKey.bytes.toList ++ back) ∧
    j.canonical.encode = front ++ (j.ephemeralKey.canonical.bytes.toList ++ back) := by
  refine ⟨j.vpubOld.toBytes.toList ++ j.vpubNew.toBytes.toList ++ j.anchor.bytes.toList
    ++ j.nullifiers.toList.flatMap (fun n => n.bytes.toList) ++ j.commitments.toList.flatMap (fun c => c.bytes.toList),
    j.randomSeed.bytes.toList ++ j.macs.toList.flatMap (fun m => m.bytes.toList) ++ j.proof.bytes.toList
      ++ j.ciphertexts.toList.flatMap (fun c => c.bytes.toList), ?_, ?_, ?_⟩
  · simp only [List.length_append, Vector.length_toList]
    rw [length_flatMap_pair j.nullifiers, length_flatMap_pair j.commitments]
  · simp only [encode, List.append_assoc]
  · simp only [encode, canonical, List.append_assoc]

theorem canonical_eq_self_iff {j : JoinSplit} : j.canonical = j ↔ j.ephemeralKey.bytes.toNat < X25519.prime := by
  rw [← X25519.PublicKey.canonical_eq_self_iff]
  cases j
  simp [canonical]

/-- Equal descriptions that spell their keys alike are the same. -/
theorem eq_iff_beq_and_key_eq : a = b ↔ (a == b) = true ∧ a.ephemeralKey.bytes = b.ephemeralKey.bytes := by
  constructor
  · rintro rfl
    exact ⟨beq_iff_canonical_eq.2 rfl, rfl⟩
  · rintro ⟨hequal, hbytes⟩
    have hkey : a.ephemeralKey = b.ephemeralKey := congrArg X25519.PublicKey.mk hbytes
    have hcanonical := beq_iff_canonical_eq.1 hequal
    cases a
    cases b
    simp only [canonical, mk.injEq] at hcanonical hkey ⊢
    simp only [hcanonical, hkey, and_self]

/-- **Equal descriptions have the same bytes, up to the spelling of one key.** Two descriptions are equal just if their bytes
are once both ephemeral keys are spelled canonically, which replaces 32 bytes and changes nothing if a key is spelled so
already. Their bytes as they are agree just if they are equal and their keys are spelled alike. -/
theorem beq_iff_canonical_encode :
    (∀ a b : JoinSplit, (a == b) = true ↔ a.canonical.encode = b.canonical.encode) ∧
    (∀ j : JoinSplit, (∃ front back : List UInt8, front.length = 176 ∧
      j.encode = front ++ (j.ephemeralKey.bytes.toList ++ back) ∧
      j.canonical.encode = front ++ (j.ephemeralKey.canonical.bytes.toList ++ back)) ∧
      (j.canonical = j ↔ j.ephemeralKey.bytes.toNat < X25519.prime)) ∧
    ∀ a b : JoinSplit, a.encode = b.encode ↔ (a == b) = true ∧ a.ephemeralKey.bytes = b.ephemeralKey.bytes := by
  refine ⟨fun a b => ?_, fun j => ⟨j.encode_eq, canonical_eq_self_iff⟩, fun a b => ?_⟩
  · rw [beq_iff_canonical_eq, encode_inj]
  · rw [encode_inj]
    exact eq_iff_beq_and_key_eq

/-- With the top bit of a key set, a description stays equal and is written with other bytes. -/
theorem equal_but_written_otherwise :
    let key : X25519.PublicKey := ⟨X25519.basePoint⟩
    let a : JoinSplit :=
      { vpubOld := .zero, vpubNew := .zero, anchor := ⟨Bytes.zero 32⟩, nullifiers := .replicate 2 ⟨Bytes.zero 32⟩
        commitments := .replicate 2 ⟨Bytes.zero 32⟩, ephemeralKey := key, randomSeed := ⟨Bytes.zero 32⟩
        macs := .replicate 2 ⟨Bytes.zero 32⟩, proof := ⟨Bytes.zero 192⟩, ciphertexts := .replicate 2 ⟨Bytes.zero _⟩ }
    let b : JoinSplit := { a with ephemeralKey := ⟨key.bytes.modify 31 (· ||| 128)⟩ }
    (a == b) = true ∧ a.encode ≠ b.encode := by
  intro key a b
  have hkey : (key == ⟨key.bytes.modify 31 (· ||| 128)⟩) = true := by decide
  refine ⟨beq_iff.2 ⟨rfl, rfl, rfl, rfl, rfl, hkey, rfl, rfl, rfl, rfl⟩, fun h => ?_⟩
  have hbytes : key.bytes = key.bytes.modify 31 (· ||| 128) :=
    congrArg (fun j => j.ephemeralKey.bytes) (encode_inj.1 h)
  exact absurd hbytes (by decide)

end JoinSplit

/-! ## Addresses -/

/-- Messages of one text under two keys are the same only under the same keystream. -/
theorem Aead.keystream_eq_of_encrypt_eq {n : Nat} {key key' : Bytes 32} {message : Bytes n}
    (h : encrypt key message = encrypt key' message) :
    ChaCha20.keystream key nonce 1 n = ChaCha20.keystream key' nonce 1 n := by
  have happly : ChaCha20.apply key nonce 1 message = ChaCha20.apply key' nonce 1 message := by
    have hsplit := congrArg (fun sealed => (Bytes.split sealed).1) h
    simpa only [encrypt, Bytes.split_append] using hsplit
  refine Vector.ext fun i hi => ?_
  have hbyte : message[i] ^^^ (ChaCha20.keystream key nonce 1 n)[i] = message[i] ^^^ (ChaCha20.keystream key' nonce 1 n)[i] := by
    have hget := congrArg (fun text : Bytes n => text[i]) happly
    simpa only [ChaCha20.apply, Vector.getElem_zipWith] using hget
  exact (UInt8.xor_right_inj _).1 hbyte

namespace NoteEncryptor

/-- The encryptor that is drawn from a stream. -/
def drawn (hSig : HSig) (e : Entropy) : NoteEncryptor := ((draw hSig).run e).1

/-- What is sent for a plaintext if the derivation takes up a transmission key as `k` spells it. -/
def sealedAs (e : NoteEncryptor) (shared : Bytes 32) (p : NotePlaintext) (k : X25519.PublicKey) : EncryptedNote :=
  ⟨Aead.encrypt (NoteKey.derive shared e.ephemeralKey k e.hSig e.nonce) p.toBytes⟩

end NoteEncryptor

namespace PaymentAddress

variable {a b : PaymentAddress}

theorem beq_iff : (a == b) = true ↔ a.payingKey = b.payingKey ∧ (a.transmissionKey == b.transmissionKey) = true := by
  have hfields : (a == b) = (a.payingKey == b.payingKey && a.transmissionKey == b.transmissionKey) := by
    cases a
    cases b
    rfl
  rw [hfields, Bool.and_eq_true, beq_iff_eq]

/-- A single note is the first output of an encryptor of its own. -/
theorem encryptNote_run (hSig : HSig) (a : PaymentAddress) (p : NotePlaintext) (e : Entropy) :
    ((encryptNote hSig a p).run e).1 =
      .ok ((NoteEncryptor.drawn hSig e).sealedAs
          (X25519.agree (NoteEncryptor.drawn hSig e).secret a.transmissionKey) p a.transmissionKey,
        (NoteEncryptor.drawn hSig e).ephemeralKey) := rfl

/-- An address that is equal to a recipient's own is the same just if its key is spelled canonically. -/
theorem transmissionKey_eq_iff {key : ReceivingKey} {payingKey : PayingKey}
    (h : (a == ⟨payingKey, key.transmissionKey⟩) = true) :
    a.transmissionKey = key.transmissionKey ↔ a.transmissionKey.bytes.toNat < X25519.prime := by
  have hcanonical := X25519.PublicKey.beq_iff.1 (beq_iff.1 h).2
  rw [ReceivingKey.transmissionKey, X25519.canonical_publicKey] at hcanonical
  rw [← X25519.PublicKey.canonical_eq_self_iff, hcanonical, ReceivingKey.transmissionKey, eq_comm]

/-- **A note to an equal address is read if the address is spelled canonically.** If it is not, the note is read only where
two spellings of one key, which the derivation takes up byte by byte, make no difference to what is sent. -/
theorem received_iff_canonical (key : ReceivingKey) (payingKey : PayingKey) (a : PaymentAddress)
    (ha : (a == ⟨payingKey, key.transmissionKey⟩) = true) (hSig : HSig) (p : NotePlaintext) (e : Entropy)
    (hagreed : X25519.Agreed (NoteEncryptor.drawn hSig e).secret key) :
    ∃ c ephemeralKey, ((encryptNote hSig a p).run e).1 = .ok (c, ephemeralKey) ∧
      (decryptNote key c ephemeralKey hSig 0 = .ok p ↔
        a.transmissionKey.bytes.toNat < X25519.prime ∨
          Collision ((NoteEncryptor.drawn hSig e).sealedAs (X25519.agree key.bytes ephemeralKey) p)
            a.transmissionKey key.transmissionKey) := by
  refine ⟨_, _, encryptNote_run hSig a p e, ?_⟩
  have hshared : X25519.agree (NoteEncryptor.drawn hSig e).secret a.transmissionKey =
      X25519.agree key.bytes (NoteEncryptor.drawn hSig e).ephemeralKey :=
    (X25519.agree_congr (beq_iff.1 ha).2 _).trans hagreed.agree_eq
  have hopens (c : EncryptedNote) : decryptNote key c (NoteEncryptor.drawn hSig e).ephemeralKey hSig 0 = .ok p ↔
      c = (NoteEncryptor.drawn hSig e).sealedAs (X25519.agree key.bytes (NoteEncryptor.drawn hSig e).ephemeralKey) p
        key.transmissionKey :=
    decryptNote_eq_ok_iff.trans (and_iff_right hagreed.agree_ne_zero)
  rw [hshared, hopens, ← transmissionKey_eq_iff ha]
  constructor
  · exact eq_or_collision
  · rintro (hkey | hcollision)
    · rw [hkey]
    · exact hcollision.eq

/-- The secret that is drawn from a stream of nines agrees with a clamped zero. -/
theorem agreed_nines : X25519.Agreed (NoteEncryptor.drawn ⟨Bytes.zero 32⟩ (.cycle [9])).secret (.ofBytes (Bytes.zero 32)) :=
  ⟨by decide +kernel, by decide +kernel⟩

/-- A recipient's own address is spelled canonically, and what is sent to it is read. -/
theorem received_iff_canonical_own :
    let key : ReceivingKey := .ofBytes (Bytes.zero 32)
    let own : PaymentAddress := ⟨⟨Bytes.zero 32⟩, key.transmissionKey⟩
    let p : NotePlaintext := ⟨⟨5, by decide⟩, ⟨Bytes.zero 32⟩, ⟨Bytes.zero 32⟩, .none⟩
    (own == own) = true ∧ X25519.Agreed (NoteEncryptor.drawn ⟨Bytes.zero 32⟩ (.cycle [9])).secret key ∧
      ∃ c ephemeralKey, ((encryptNote ⟨Bytes.zero 32⟩ own p).run (.cycle [9])).1 = .ok (c, ephemeralKey) ∧
        decryptNote key c ephemeralKey ⟨Bytes.zero 32⟩ 0 = .ok p := by
  intro key own p
  have hown : (own == own) = true := beq_iff.2 ⟨rfl, X25519.PublicKey.beq_iff.2 rfl⟩
  obtain ⟨c, ephemeralKey, hrun, hreads⟩ :=
    received_iff_canonical key ⟨Bytes.zero 32⟩ own hown ⟨Bytes.zero 32⟩ p (.cycle [9]) agreed_nines
  have hspelled : own.transmissionKey.bytes.toNat < X25519.prime := (transmissionKey_eq_iff hown).1 rfl
  exact ⟨hown, agreed_nines, c, ephemeralKey, hrun, hreads.2 (Or.inl hspelled)⟩

/-- With the top bit of its key set, an address stays equal to the recipient's own and is read back from its text, but a note
that is sent to it is not read. -/
theorem equal_but_not_received :
    let key : ReceivingKey := .ofBytes (Bytes.zero 32)
    let own : PaymentAddress := ⟨⟨Bytes.zero 32⟩, key.transmissionKey⟩
    let a : PaymentAddress := { own with transmissionKey := ⟨key.transmissionKey.bytes.modify 31 (· ||| 128)⟩ }
    let p : NotePlaintext := ⟨⟨5, by decide⟩, ⟨Bytes.zero 32⟩, ⟨Bytes.zero 32⟩, .none⟩
    (a == own) = true ∧ KeyFormat.address.parse (KeyFormat.address.encode ⟨.mainnet, a⟩) = .ok ⟨.mainnet, a⟩ ∧
      X25519.Agreed (NoteEncryptor.drawn ⟨Bytes.zero 32⟩ (.cycle [9])).secret key ∧
      ∃ c ephemeralKey, ((encryptNote ⟨Bytes.zero 32⟩ a p).run (.cycle [9])).1 = .ok (c, ephemeralKey) ∧
        decryptNote key c ephemeralKey ⟨Bytes.zero 32⟩ 0 ≠ .ok p := by
  intro key own a p
  have hequal : (a == own) = true := beq_iff.2 ⟨rfl, by decide +kernel⟩
  have hparse : KeyFormat.address.parse (KeyFormat.address.encode ⟨.mainnet, a⟩) = .ok ⟨.mainnet, a⟩ :=
    KeyFormat.address_versioned.parse_encode ((KeyFormat.address_reads _ _ _).2 (List.append_nil _).symm) .mainnet
  refine ⟨hequal, hparse, agreed_nines, _, _, encryptNote_run _ a p _, fun hread => ?_⟩
  -- the two keys that are derived differ in the first byte of their keystreams
  have hsealed := congrArg EncryptedNote.bytes (decryptNote_eq_ok_iff.1 hread).2
  have hstream := congrArg (fun b => b[0]) (Aead.keystream_eq_of_encrypt_eq hsealed)
  revert hstream
  decide +kernel

end PaymentAddress

end ShieldedPool
