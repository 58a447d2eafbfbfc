import ShieldedPool.Note.Encryption
import ShieldedPool.Tree.Node

/-!
# JoinSplit descriptions

What a transaction publishes about one JoinSplit: the public values, the root that the inputs are spent at, the nullifiers of
the inputs, the commitments of the outputs, the proof and the encrypted outputs. The encoding has a fixed size of 1698 bytes.
-/

namespace ShieldedPool

/-- A proof, as bytes (`Groth16Proof`). Whether they mean anything is for a proof system to say. -/
structure ZkProof where
  bytes : Bytes 192
deriving DecidableEq

/-- The length of a proof (`GROTH16_PROOF_SIZE`). -/
def ZkProof.size : Nat := 192

/-- Reads a proof (`zcash_deserialize` of `Groth16Proof`). Any bytes are one. -/
def ZkProof.decode : Decoder ZkProof := return ⟨← Decoder.bytes 192⟩

def ZkProof.diagnostic (p : ZkProof) : Diagnostic := .hex "Groth16Proof" p.bytes.toList

/-- Reads a code (`zcash_deserialize` of `Mac`). -/
def Mac.decode : Decoder Mac := return ⟨← Decoder.bytes 32⟩

/-- A JoinSplit description (`JoinSplit`). -/
structure JoinSplit where
  /-- What enters from the transparent side. -/
  vpubOld : Amount
  /-- What leaves to the transparent side. -/
  vpubNew : Amount
  anchor : Root
  nullifiers : Vector Nullifier 2
  commitments : Vector NoteCommitment 2
  ephemeralKey : X25519.PublicKey
  randomSeed : RandomSeed
  macs : Vector Mac 2
  proof : ZkProof
  ciphertexts : Vector EncryptedNote 2
deriving BEq

namespace JoinSplit

/-- What the transparent side gains (`JoinSplit::value_balance`). -/
def valueBalance (j : JoinSplit) : Int := (j.vpubNew.zatoshis : Int) - j.vpubOld.zatoshis

/-- The signature hash under the key that signs the transaction (`JoinSplit::h_sig`). -/
def hSig (j : JoinSplit) (signingKey : Bytes 32) : HSig := .compute j.randomSeed j.nullifiers.toList signingKey

/-! ## Encoding -/

/-- The length of an encoding (`GROTH16_JOINSPLIT_SIZE`). -/
def size : Nat := 8 + 8 + 32 + 2 * 32 + 2 * 32 + 32 + 32 + 2 * 32 + 192 + 2 * (NotePlaintext.size + 16)

/-- The encoding, field by field (`zcash_serialize` of `JoinSplit`). -/
def encode (j : JoinSplit) : List UInt8 :=
  j.vpubOld.toBytes.toList ++ j.vpubNew.toBytes.toList ++ j.anchor.bytes.toList
    ++ j.nullifiers.toList.flatMap (fun n => n.bytes.toList)
    ++ j.commitments.toList.flatMap (fun c => c.bytes.toList)
    ++ j.ephemeralKey.bytes.toList ++ j.randomSeed.bytes.toList
    ++ j.macs.toList.flatMap (fun m => m.bytes.toList)
    ++ j.proof.bytes.toList
    ++ j.ciphertexts.toList.flatMap (fun c => c.bytes.toList)

/-- Reads an encoding back (`zcash_deserialize` of `JoinSplit`). -/
def decode : Decoder JoinSplit := do
  let vpubOld ← Amount.decode
  let vpubNew ← Amount.decode
  let anchor ← Decoder.bytes 32
  let nullifiers ← Decoder.pair (Nullifier.mk <$> Decoder.bytes 32)
  let commitments ← Decoder.pair (NoteCommitment.mk <$> Decoder.bytes 32)
  let ephemeralKey ← Decoder.bytes 32
  let randomSeed ← Decoder.bytes 32
  let macs ← Decoder.pair Mac.decode
  let proof ← ZkProof.decode
  let ciphertexts ← Decoder.pair EncryptedNote.decode
  return { vpubOld, vpubNew, anchor := ⟨anchor⟩, nullifiers, commitments, ephemeralKey := ⟨ephemeralKey⟩
           randomSeed := ⟨randomSeed⟩, macs, proof, ciphertexts }

def diagnostic (j : JoinSplit) : Diagnostic :=
  .record "JoinSplit"
    [("vpub_old", j.vpubOld.diagnostic),
     ("vpub_new", j.vpubNew.diagnostic),
     ("anchor", j.anchor.diagnostic),
     ("nullifiers", .list (j.nullifiers.toList.map Nullifier.diagnostic)),
     ("commitments", .list (j.commitments.toList.map NoteCommitment.diagnostic)),
     ("ephemeral_key", j.ephemeralKey.diagnostic),
     ("random_seed", j.randomSeed.diagnostic),
     ("vmacs", .list (j.macs.toList.map Mac.diagnostic)),
     ("zkproof", j.proof.diagnostic),
     ("enc_ciphertexts", .list (j.ciphertexts.toList.map EncryptedNote.diagnostic))] false

end JoinSplit

end ShieldedPool
