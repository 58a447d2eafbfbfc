import ShieldedPool.Cipher.Aead
import ShieldedPool.Note.Plaintext

/-!
# Encrypting notes

All outputs of a JoinSplit are encrypted under one ephemeral key. Each has a symmetric key of its own: the derivation (`kdf`)
takes the shared secret, both public keys, the signature hash and the number of the output. An encryptor (`NoteEncryptor`)
counts its outputs in one byte and refuses to go on before the count could repeat.
-/

namespace ShieldedPool

/-- An encrypted plaintext (`EncryptedNote`): 585 bytes and the tag. -/
structure EncryptedNote where
  bytes : Bytes (NotePlaintext.size + 16)
deriving DecidableEq

/-- Reads a ciphertext (`zcash_deserialize` of `EncryptedNote`). Any bytes are one. -/
def EncryptedNote.decode : Decoder EncryptedNote := return ⟨← Decoder.bytes (NotePlaintext.size + 16)⟩

def EncryptedNote.diagnostic (c : EncryptedNote) : Diagnostic := .hex "EncryptedNote" c.bytes.toList

/-- Why an output was not encrypted (`NoteEncryptionError`). -/
inductive NoteEncryptionError
  | nonceSpaceExhausted
deriving DecidableEq

def NoteEncryptionError.message : NoteEncryptionError → String
  | nonceSpaceExhausted => "note encryption nonce space exhausted"

/-- Why an output was not decrypted (`NoteDecryptionError`). -/
inductive NoteDecryptionError
  /-- The note is for someone else, or it was changed. -/
  | notForThisKey
  /-- The note was meant for this key, but what it holds is no plaintext. -/
  | malformedPlaintext (cause : DecodeError)
deriving DecidableEq

def NoteDecryptionError.message : NoteDecryptionError → String
  | notForThisKey => "note could not be decrypted with this key"
  | malformedPlaintext cause => "decrypted note plaintext is malformed: " ++ cause.message

/-! ## Key derivation -/

namespace NoteKey

/-- The personalization of `kdf`. It holds the number of the output, so different numbers give unrelated keys. -/
def personal (nonce : UInt8) : Bytes 16 :=
  Bytes.ofPadded 16 ("ZcashKDF".toUTF8.toList ++ [nonce])

/-- What `kdf` hashes. -/
def preimage (hSig : HSig) (shared : Bytes 32) (ephemeralKey transmissionKey : X25519.PublicKey) : List UInt8 :=
  hSig.bytes.toList ++ shared.toList ++ ephemeralKey.bytes.toList ++ transmissionKey.bytes.toList

/-- The symmetric key of one output (`kdf`). Public keys enter byte by byte. -/
def derive (shared : Bytes 32) (ephemeralKey transmissionKey : X25519.PublicKey) (hSig : HSig) (nonce : UInt8) :
    Bytes 32 :=
  Blake2b.hash { personal := personal nonce } 32 (preimage hSig shared ephemeralKey transmissionKey)

end NoteKey

/-! ## The encryptor -/

/-- The ephemeral secret of one JoinSplit and the number of the next output (`NoteEncryptor`). -/
structure NoteEncryptor where
  secret : Bytes 32
  hSig : HSig
  nonce : UInt8 := 0
deriving DecidableEq

namespace NoteEncryptor

/-- The number that is never used (`MAX_NONCE`). -/
def maxNonce : UInt8 := 0xff

/-- Draws a fresh ephemeral secret (`NoteEncryptor::new`). -/
def draw (hSig : HSig) : Draw NoteEncryptor := return { secret := ← drawBytes 32, hSig }

/-- The public key that is published with the outputs (`NoteEncryptor::ephemeral_key`). -/
def ephemeralKey (e : NoteEncryptor) : X25519.PublicKey := X25519.publicKey e.secret

/-- The key under which the next output to a transmission key is encrypted. -/
def nextKey (e : NoteEncryptor) (transmissionKey : X25519.PublicKey) : Bytes 32 :=
  NoteKey.derive (X25519.agree e.secret transmissionKey) e.ephemeralKey transmissionKey e.hSig e.nonce

/-- Encrypts the next output (`NoteEncryptor::encrypt`). A refusal leaves the encryptor as it is. -/
def encrypt (e : NoteEncryptor) (transmissionKey : X25519.PublicKey) (p : NotePlaintext) :
    Except NoteEncryptionError EncryptedNote × NoteEncryptor :=
  if e.nonce = maxNonce then (.error .nonceSpaceExhausted, e)
  else (.ok ⟨Aead.encrypt (e.nextKey transmissionKey) p.toBytes⟩, { e with nonce := e.nonce + 1 })

/-- Encrypts several outputs in order, by a call of `encrypt` for each. -/
def encryptAll (e : NoteEncryptor) : List (X25519.PublicKey × NotePlaintext) →
    List (Except NoteEncryptionError EncryptedNote) × NoteEncryptor
  | [] => ([], e)
  | (key, p) :: rest =>
    let (result, e) := e.encrypt key p
    let (results, e) := e.encryptAll rest
    (result :: results, e)

end NoteEncryptor

/-- Encrypts a single note under an ephemeral key of its own (`encrypt_note`). -/
def encryptNote (hSig : HSig) (address : PaymentAddress) (p : NotePlaintext) :
    Draw (Except NoteEncryptionError (EncryptedNote × X25519.PublicKey)) := do
  let e ← NoteEncryptor.draw hSig
  return (e.encrypt address.transmissionKey p).1.map fun c => (c, e.ephemeralKey)

/-! ## Decryption -/

/-- Decrypts output `index` of a JoinSplit (`decrypt_note`). An ephemeral key of low order, which gives everyone the same
shared secret of zeros, is refused. -/
def decryptNote (key : ReceivingKey) (c : EncryptedNote) (ephemeralKey : X25519.PublicKey) (hSig : HSig)
    (index : UInt8) : Except NoteDecryptionError NotePlaintext :=
  let shared := X25519.agree key.bytes ephemeralKey
  if shared = Bytes.zero 32 then .error .notForThisKey
  else match Aead.decrypt? (NoteKey.derive shared ephemeralKey key.transmissionKey hSig index) c.bytes with
    | none => .error .notForThisKey
    | some p => match NotePlaintext.decode p.toList with
      | .ok (plaintext, _) => .ok plaintext
      | .error e => .error (.malformedPlaintext e)

end ShieldedPool
