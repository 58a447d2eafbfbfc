import ShieldedPool.System.Basic
import ShieldedPool.Tree.Log

/-!
# Creating JoinSplits

A request (`ProveRequest`) names two notes to spend and two outputs to create, at one root, with the public values of both
sides. Everything that can be wrong with a request is checked by `Prover::prove` before any randomness is drawn. After that
the seed, the secret `phi`, the two trapdoors and the ephemeral secret are drawn in this order, and a proof is created for
the statement that comes out.
-/

namespace ShieldedPool

/-- An output that is asked for (`JsOutput`). -/
structure RequestedOutput where
  address : PaymentAddress
  value : Amount
  memo : Memo := .none

/-- What is to be proved (`ProveRequest`). -/
structure ProveRequest where
  inputs : Vector SpentNote 2
  outputs : Vector RequestedOutput 2
  anchor : Root
  vpubOld : Amount
  vpubNew : Amount
  signingKey : Bytes 32
  computeProof : Bool := true
  /-- Whether the ephemeral secret is handed out, to let others decrypt the outputs. -/
  paymentDisclosure : Bool := false

/-! ## Inputs and outputs -/

/-- An input at the path that a log has for it at an anchor (`JsInput::witnessed`). -/
def SpentNote.witnessed (l : CommitmentLog) (anchor : Root) (note : Note) (spendingKey : SpendingKey) :
    Except WitnessError SpentNote := do
  return { spendingKey, note, witness := ← l.witness note.commitment anchor }

/-- Fills an unused input with a note of value zero under a fresh key (`JsInput::dummy`). -/
def SpentNote.drawDummy : Draw SpentNote := do
  let spendingKey ← SpendingKey.draw
  let note ← Note.drawDummy spendingKey.payingKey
  return { spendingKey, note, witness := .single note.commitment }

/-- Fills an unused output with nothing for a fresh address (`JsOutput::dummy`). -/
def RequestedOutput.drawDummy : Draw RequestedOutput := do
  return { address := (← SpendingKey.draw).address, value := .zero }

/-! ## Results -/

/-- Why a request was not proved (`ProveError`). -/
inductive ProveError
  /-- No JoinSplit can come of the request. -/
  | invalidInput (cause : ConstraintError)
  /-- The path of an input leads to another root than the anchor. -/
  | witnessMismatch (index : Index) (witnessRoot anchor : Root)
  | backend (cause : ProverError)
  | encryption (cause : NoteEncryptionError)
deriving DecidableEq

/-- What to do about a failure (`ErrorKind`): mend the request, refresh the paths, or give up. -/
inductive ProveErrorKind
  | invalidInput
  | witnessMismatch
  | backend
deriving DecidableEq

def ProveError.message : ProveError → String
  | invalidInput cause => "invalid JoinSplit input: " ++ cause.message
  | witnessMismatch index witnessRoot anchor =>
    s!"input {index} witness root " ++ witnessRoot.diagnostic.compact ++ " does not match anchor "
      ++ anchor.diagnostic.compact
  | backend cause => "proving backend failed: " ++ cause.message
  | encryption cause => "output note encryption failed: " ++ cause.message

/-- What a failure calls for (`ProveError::kind`). -/
def ProveError.kind : ProveError → ProveErrorKind
  | invalidInput _ => .invalidInput
  | witnessMismatch .. => .witnessMismatch
  | backend _ | encryption _ => .backend

/-- What comes of a request (`ProvedJoinSplit`). -/
structure ProvedJoinSplit where
  statement : Statement
  randomSeed : RandomSeed
  ephemeralKey : X25519.PublicKey
  ciphertexts : Vector EncryptedNote 2
  outputNotes : Vector Note 2
  proof : Option ZkProof
  ephemeralSecret : Option (Bytes 32)

namespace ProvedJoinSplit

/-- The signature hash of the result (`ProvedJoinSplit::h_sig`). -/
def hSig (p : ProvedJoinSplit) : HSig := p.statement.hSig

/-- The description to publish (`ProvedJoinSplit::into_joinsplit`). Without a proof, zeros stand in its place. -/
def toJoinSplit (p : ProvedJoinSplit) : JoinSplit where
  vpubOld := p.statement.vpubOld
  vpubNew := p.statement.vpubNew
  anchor := p.statement.anchor
  nullifiers := p.statement.nullifiers
  commitments := p.statement.commitments
  ephemeralKey := p.ephemeralKey
  randomSeed := p.randomSeed
  macs := p.statement.macs
  proof := p.proof.getD ⟨Bytes.zero 192⟩
  ciphertexts := p.ciphertexts

/-- The ciphertexts and the ephemeral secret are not shown. -/
def diagnostic (p : ProvedJoinSplit) : Diagnostic :=
  .record "ProvedJoinSplit"
    [("statement", p.statement.diagnostic),
     ("random_seed", p.randomSeed.diagnostic),
     ("ephemeral_key", p.ephemeralKey.diagnostic),
     ("output_notes", .list (p.outputNotes.toList.map Note.diagnostic)),
     ("zkproof", .option ZkProof.diagnostic p.proof),
     ("ephemeral_secret", .option (fun _ => .quoted "<redacted>") p.ephemeralSecret)] true

end ProvedJoinSplit

/-! ## Proving -/

namespace ProveRequest

/-- Checks input `i`: its path, unless its value is zero, and then its owner. `Prover::prove` does so for both first of all.
-/
def checkInput (r : ProveRequest) (i : Index) : Except ProveError Unit := do
  let input := r.inputs.get i
  unless input.note.value.isZero do
    unless input.witness.root = r.anchor do throw (.witnessMismatch i input.witness.root r.anchor)
    unless input.witness.element = input.note.commitment do throw (.invalidInput (.witnessedWrongCommitment i))
  unless input.note.payingKey = input.spendingKey.payingKey do throw (.invalidInput (.wrongPayingKey i))

/-- Everything in `Prover::prove` that can find a request wrong. -/
def check (r : ProveRequest) : Except ProveError Unit := do
  r.checkInput .first
  r.checkInput .second
  (checkBalance r.vpubOld (r.inputs.toList.map fun i => i.note.value) r.vpubNew
    (r.outputs.toList.map RequestedOutput.value)).mapError .invalidInput

/-- The nullifiers of the inputs, in order. -/
def nullifiers (r : ProveRequest) : Vector Nullifier 2 := r.inputs.map fun i => i.note.nullifier i.spendingKey

/-- Creates output note `i` with a fresh trapdoor. -/
def drawOutput (r : ProveRequest) (phi : Bytes 32) (hSig : HSig) (i : Index) : Draw Note :=
  Note.draw (r.outputs.get i).address.payingKey (r.outputs.get i).value (outputRho phi i hSig)

/-- The key that output `i` is encrypted to. -/
def recipient (r : ProveRequest) (i : Index) : X25519.PublicKey := (r.outputs.get i).address.transmissionKey

/-- What the recipient of output `i` is told. -/
def plaintext (r : ProveRequest) (notes : Vector Note 2) (i : Index) : NotePlaintext :=
  .ofNote (notes.get i) (r.outputs.get i).memo

/-- Encrypts both outputs, the first one first. -/
def encryptOutputs (r : ProveRequest) (notes : Vector Note 2) (e : NoteEncryptor) :
    Except NoteEncryptionError (Vector EncryptedNote 2) := do
  let (first, e) := e.encrypt (r.recipient .first) (r.plaintext notes .first)
  let (second, _) := e.encrypt (r.recipient .second) (r.plaintext notes .second)
  return #v[← first, ← second]

/-- The statement about given output notes. -/
def statement (r : ProveRequest) (hSig : HSig) (notes : Vector Note 2) : Statement where
  anchor := r.anchor
  hSig := hSig
  nullifiers := r.nullifiers
  macs := Vector.ofFn fun i => Mac.compute (r.inputs.get i).spendingKey i hSig
  commitments := notes.map Note.commitment
  vpubOld := r.vpubOld
  vpubNew := r.vpubNew

end ProveRequest

/-- Creates the JoinSplit that a request asks for (`Prover::prove`). -/
def prove {σ : Type} [ProofSystem σ] (system : σ) (r : ProveRequest) :
    ExceptT ProveError Draw ProvedJoinSplit := do
  r.check
  let randomSeed ← RandomSeed.draw
  let hSig := HSig.compute randomSeed r.nullifiers.toList r.signingKey
  let phi := Prf.mask252 (← drawBytes 32)
  let first ← r.drawOutput phi hSig .first
  let second ← r.drawOutput phi hSig .second
  let outputNotes := #v[first, second]
  let encryptor ← NoteEncryptor.draw hSig
  let ciphertexts ← (r.encryptOutputs outputNotes encryptor).mapError ProveError.encryption
  let statement := r.statement hSig outputNotes
  let aux : AuxiliaryInput := { phi, inputs := r.inputs, outputs := outputNotes }
  let proof ←
    if r.computeProof then some <$> (ProofSystem.createProof system statement aux).mapError ProveError.backend
    else pure none
  return { statement, randomSeed, ephemeralKey := encryptor.ephemeralKey, ciphertexts, outputNotes, proof
           ephemeralSecret := if r.paymentDisclosure then some encryptor.secret else none }

end ShieldedPool
