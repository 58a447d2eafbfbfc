import ShieldedPool.Note.Encryption

/-!
# Every output has a number of its own

An encryptor (`NoteEncryptor`) numbers the outputs of one JoinSplit from zero, in one byte. A call of `encrypt` takes the
next number or, where there is none left, refuses and changes nothing, so after any calls the number is how many they were,
up to 255 (`encryptAll_eq`). Hence an output depends on its number and not on the calls before it, and no two outputs of an
encryptor derive their keys under the same personalization (`outputs_numbered_once`).
-/

namespace ShieldedPool

/-! ## Key derivation -/

/-- The personalization has the number in a byte of its own. -/
theorem NoteKey.personal_inj {m n : UInt8} : personal m = personal n ↔ m = n := by
  constructor
  · intro h
    have htag : "ZcashKDF".toUTF8.toList = [90, 99, 97, 115, 104, 75, 68, 70] := by decide +kernel
    have hbyte (k : UInt8) : (personal k).toList[8]? = some k := by
      rw [personal, htag]
      rfl
    rw [← Option.some_inj, ← hbyte m, ← hbyte n, h]
  · rintro rfl; rfl

namespace NoteEncryptor

variable {e : NoteEncryptor} {key : X25519.PublicKey} {p : NotePlaintext} {m n : Nat}

/-! ## One call -/

/-- The encryptor after `n` more calls: only the number has changed, and it has not passed the one that is never used. -/
def after (e : NoteEncryptor) (n : Nat) : NoteEncryptor :=
  { e with nonce := UInt8.ofNat (min (e.nonce.toNat + n) 255) }

theorem toNat_nonce_after (e : NoteEncryptor) (n : Nat) : (e.after n).nonce.toNat = min (e.nonce.toNat + n) 255 := by
  have hfits : min (e.nonce.toNat + n) 255 < UInt8.size := Nat.lt_of_le_of_lt (Nat.min_le_right _ _) (by decide)
  exact UInt8.toNat_ofNat_of_lt' hfits

theorem after_zero (e : NoteEncryptor) : e.after 0 = e := by
  have hn := e.nonce.toNat_lt
  rw [after, Nat.add_zero, Nat.min_eq_left (by omega), UInt8.ofNat_toNat]

theorem after_after (e : NoteEncryptor) (m n : Nat) : (e.after m).after n = e.after (m + n) := by
  have hnumber : min (min (e.nonce.toNat + m) 255 + n) 255 = min (e.nonce.toNat + (m + n)) 255 := by omega
  rw [after, toNat_nonce_after, hnumber]
  rfl

theorem nonce_eq_maxNonce_iff : e.nonce = maxNonce ↔ e.nonce.toNat = 255 := UInt8.toNat_inj.symm

/-- **A call moves on by one number**, except from the last. -/
theorem snd_encrypt (e : NoteEncryptor) (key : X25519.PublicKey) (p : NotePlaintext) : (e.encrypt key p).2 = e.after 1 := by
  have hn := e.nonce.toNat_lt
  rw [encrypt, after]
  by_cases h : e.nonce = maxNonce
  · rw [if_pos h, Nat.min_eq_right (by rw [nonce_eq_maxNonce_iff.1 h]; omega), ← nonce_eq_maxNonce_iff.1 h,
      UInt8.ofNat_toNat]
  · have hlt := mt nonce_eq_maxNonce_iff.2 h
    rw [if_neg h, Nat.min_eq_left (by omega), UInt8.ofNat_add, UInt8.ofNat_toNat]
    rfl

/-! ## Any number of calls -/

/-- **A run is its calls one by one**, each made of the encryptor that the calls before it have left. -/
theorem encryptAll_eq (e : NoteEncryptor) (calls : List (X25519.PublicKey × NotePlaintext)) :
    e.encryptAll calls
      = (calls.mapIdx fun k call => ((e.after k).encrypt call.1 call.2).1, e.after calls.length) := by
  induction calls generalizing e with
  | nil => rw [encryptAll, List.mapIdx_nil, List.length_nil, after_zero]
  | cons call calls ih =>
    have hrest : (e.encrypt call.1 call.2).2.encryptAll calls = (e.after 1).encryptAll calls := by rw [snd_encrypt]
    simp only [encryptAll, hrest, ih, List.mapIdx_cons, List.length_cons, after_zero, after_after, Nat.add_comm 1]

/-! ## From the first output on -/

variable {secret : Bytes 32} {hSig : HSig} {calls : List (X25519.PublicKey × NotePlaintext)} {c : EncryptedNote}

/-- Output `number` under an ephemeral secret. Its key is a hash that is personalized with the number. -/
def output (secret : Bytes 32) (hSig : HSig) (number : Nat) (key : X25519.PublicKey) (p : NotePlaintext) :
    EncryptedNote :=
  let shared := X25519.agree secret key
  let personal := NoteKey.personal (UInt8.ofNat number)
  ⟨Aead.encrypt (Blake2b.hash { personal } 32 (NoteKey.preimage hSig shared (X25519.publicKey secret) key)) p.toBytes⟩

/-- What the call with a number returns: 255 numbers are there to be used. -/
def answer (secret : Bytes 32) (hSig : HSig) (number : Nat) (call : X25519.PublicKey × NotePlaintext) :
    Except NoteEncryptionError EncryptedNote :=
  if number < 255 then .ok (output secret hSig number call.1 call.2) else .error .nonceSpaceExhausted

theorem toNat_nonce_after_fresh : (after { secret, hSig } n).nonce.toNat = min n 255 := by
  rw [toNat_nonce_after]
  exact congrArg (min · 255) (Nat.zero_add n)

theorem encrypt_after_eq_answer (secret : Bytes 32) (hSig : HSig) (k : Nat) (call : X25519.PublicKey × NotePlaintext) :
    ((after { secret, hSig } k).encrypt call.1 call.2).1 = answer secret hSig k call := by
  have hnonce : (after { secret, hSig } k).nonce.toNat = min k 255 := toNat_nonce_after_fresh
  rw [encrypt, answer]
  by_cases hk : k < 255
  · have hused : (after { secret, hSig } k).nonce = UInt8.ofNat k := by
      rw [← UInt8.ofNat_toNat (x := (after { secret, hSig } k).nonce), hnonce, Nat.min_eq_left (by omega)]
    rw [if_neg (by rw [nonce_eq_maxNonce_iff, hnonce]; omega), if_pos hk, nextKey, hused]
    rfl
  · rw [if_pos (nonce_eq_maxNonce_iff.2 (by omega)), if_neg hk]

theorem fst_encryptAll_fresh : (encryptAll { secret, hSig } calls).1 = calls.mapIdx (answer secret hSig) := by
  simp only [encryptAll_eq, encrypt_after_eq_answer]

theorem snd_encryptAll_fresh : (encryptAll { secret, hSig } calls).2 = after { secret, hSig } calls.length := by
  rw [encryptAll_eq]

/-- What is encrypted has one of the numbers that are there to be used. -/
theorem lt_of_mem_encryptAll {i : Nat} (h : (encryptAll { secret, hSig } calls).1[i]? = some (.ok c)) : i < 255 := by
  rw [fst_encryptAll_fresh, List.getElem?_mapIdx, Option.map_eq_some_iff] at h
  obtain ⟨call, _, hcall⟩ := h
  by_cases hi : i < 255
  · exact hi
  · rw [answer, if_neg hi] at hcall
    cases hcall

/-- **Every output is numbered once.** Of any calls to a fresh encryptor, those with the numbers below 255 encrypt, each under
its number, and later ones refuse and leave the encryptor as it is. The secrets stay what they are, and the number never
wraps. So no two outputs derive their keys under one personalization, and what a call returns does not depend on the others. -/
theorem outputs_numbered_once (secret : Bytes 32) (hSig : HSig) (calls : List (X25519.PublicKey × NotePlaintext)) :
    let fresh : NoteEncryptor := { secret, hSig }
    let results := (fresh.encryptAll calls).1
    let left := (fresh.encryptAll calls).2
    results = calls.mapIdx (answer secret hSig) ∧
    (left.secret = secret ∧ left.ephemeralKey = X25519.publicKey secret ∧ left.hSig = hSig ∧
      left.nonce.toNat = min calls.length 255) ∧
    (∀ key p, 255 ≤ calls.length → left.encrypt key p = (.error .nonceSpaceExhausted, left)) ∧
    (∀ i j c d, results[i]? = some (.ok c) → results[j]? = some (.ok d) →
      NoteKey.personal (UInt8.ofNat i) = NoteKey.personal (UInt8.ofNat j) → i = j) ∧
    ∀ (others : List (X25519.PublicKey × NotePlaintext)) (k : Nat),
      calls[k]? = others[k]? → results[k]? = (fresh.encryptAll others).1[k]? := by
  intro fresh results left
  have hleft : left = fresh.after calls.length := snd_encryptAll_fresh
  have hnonce : left.nonce.toNat = min calls.length 255 := by rw [hleft, toNat_nonce_after_fresh]
  refine ⟨fst_encryptAll_fresh, ⟨?_, ?_, ?_, hnonce⟩, fun key p hlen => ?_, fun i j c d hi hj hpersonal => ?_,
    fun others k hk => ?_⟩
  · rw [hleft]; rfl
  · rw [hleft]; rfl
  · rw [hleft]; rfl
  · exact if_pos (nonce_eq_maxNonce_iff.2 (by omega))
  · have hi := lt_of_mem_encryptAll hi
    have hj := lt_of_mem_encryptAll hj
    -- both numbers fit into the byte that they are put into
    have hbyte := congrArg UInt8.toNat (NoteKey.personal_inj.1 hpersonal)
    rw [UInt8.toNat_ofNat', UInt8.toNat_ofNat'] at hbyte
    omega
  · change (encryptAll { secret, hSig } calls).1[k]? = _
    rw [fst_encryptAll_fresh, fst_encryptAll_fresh, List.getElem?_mapIdx, List.getElem?_mapIdx, hk]

/-- One plaintext is sent to one recipient as often as it can be, and then once more. -/
theorem outputs_numbered_once_repeated :
    let fresh : NoteEncryptor := { secret := Bytes.zero 32, hSig := ⟨Bytes.zero 32⟩ }
    let key : X25519.PublicKey := ⟨Vector.replicate 32 9⟩
    let p : NotePlaintext := ⟨.zero, ⟨Bytes.zero 32⟩, ⟨Bytes.zero 32⟩, .none⟩
    let calls := List.replicate 255 (key, p)
    let results := (fresh.encryptAll calls).1
    let left := (fresh.encryptAll calls).2
    results[0]? = some (.ok (output fresh.secret fresh.hSig 0 key p)) ∧
      results[254]? = some (.ok (output fresh.secret fresh.hSig 254 key p)) ∧
      NoteKey.personal (UInt8.ofNat 0) ≠ NoteKey.personal (UInt8.ofNat 254) ∧
      255 ≤ calls.length ∧ left.encrypt key p = (.error .nonceSpaceExhausted, left) := by
  intro fresh key p calls results left
  obtain ⟨hresults, _, hfull, hpersonal, _⟩ := outputs_numbered_once fresh.secret fresh.hSig calls
  have hlength : 255 ≤ calls.length := Nat.le_of_eq List.length_replicate.symm
  have hresult (k : Nat) (hk : k < 255) : results[k]? = some (.ok (output fresh.secret fresh.hSig k key p)) := by
    refine (congrArg (·[k]?) hresults).trans ?_
    rw [List.getElem?_mapIdx, List.getElem?_replicate_of_lt hk]
    exact congrArg some (if_pos hk)
  have hfirst := hresult 0 (by decide)
  have hlast := hresult 254 (by decide)
  exact ⟨hfirst, hlast, fun h => absurd (hpersonal 0 254 _ _ hfirst hlast h) (by decide), hlength, hfull key p hlength⟩

end NoteEncryptor

end ShieldedPool
