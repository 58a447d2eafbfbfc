import ShieldedPool.JoinSplit
import ShieldedPool.Tree.Witness

/-!
# The JoinSplit statement

A statement is what a proof is about, in public; the auxiliary input is the secret that makes it true. `check`
(`AuxiliaryInput::check`) decides the relation between the two: every input belongs to its spending key and, unless its value
is zero, is a leaf of the tree at the anchor; nullifiers, authentication codes and output notes are derived as they should
be; and the values balance.
-/

namespace ShieldedPool

/-- What a proof is about (`Statement`). -/
structure Statement where
  anchor : Root
  hSig : HSig
  nullifiers : Vector Nullifier 2
  macs : Vector Mac 2
  commitments : Vector NoteCommitment 2
  vpubOld : Amount
  vpubNew : Amount
deriving DecidableEq

namespace Statement

/-- The statement that a description makes under the key that signs its transaction (`Statement::from_joinsplit`). -/
def ofJoinSplit (j : JoinSplit) (signingKey : Bytes 32) : Statement where
  anchor := j.anchor
  hSig := j.hSig signingKey
  nullifiers := j.nullifiers
  macs := j.macs
  commitments := j.commitments
  vpubOld := j.vpubOld
  vpubNew := j.vpubNew

/-- The statement in 272 bytes (`Statement::primary_input_bytes`); each nullifier is followed by the code of the same input.
-/
def primaryInput (s : Statement) : List UInt8 :=
  s.anchor.bytes.toList ++ s.hSig.bytes.toList
    ++ (s.nullifiers.zip s.macs).toList.flatMap (fun p => p.1.bytes.toList ++ p.2.bytes.toList)
    ++ s.commitments.toList.flatMap (fun c => c.bytes.toList)
    ++ s.vpubOld.toBytes.toList ++ s.vpubNew.toBytes.toList

def diagnostic (s : Statement) : Diagnostic :=
  .record "Statement"
    [("anchor", s.anchor.diagnostic),
     ("h_sig", s.hSig.diagnostic),
     ("nullifiers", .list (s.nullifiers.toList.map Nullifier.diagnostic)),
     ("macs", .list (s.macs.toList.map Mac.diagnostic)),
     ("commitments", .list (s.commitments.toList.map NoteCommitment.diagnostic)),
     ("vpub_old", s.vpubOld.diagnostic),
     ("vpub_new", s.vpubNew.diagnostic)] false

end Statement

/-! ## The relation -/

/-- A note together with what is needed to spend it (`SpentNote`, and `JsInput` in a request). -/
structure SpentNote where
  spendingKey : SpendingKey
  note : Note
  witness : Witness

/-- The secret behind a statement (`AuxiliaryInput`). -/
structure AuxiliaryInput where
  phi : Bytes 32
  inputs : Vector SpentNote 2
  outputs : Vector Note 2

/-- The first way in which an auxiliary input fails a statement (`ConstraintError`). -/
inductive ConstraintError
  | wrongPayingKey (index : Index)
  | anchorMismatch (index : Index)
  | witnessedWrongCommitment (index : Index)
  | nullifierMismatch (index : Index)
  | macMismatch (index : Index)
  | rhoMismatch (index : Index)
  | commitmentMismatch (index : Index)
  | nonsensicalValue (cause : AmountError)
  | unbalanced (lhs rhs : Amount)
deriving DecidableEq

def ConstraintError.message : ConstraintError → String
  | wrongPayingKey index => s!"input {index} note is not spendable with its spending key"
  | anchorMismatch index => s!"input {index} is witnessed at a root other than the anchor"
  | witnessedWrongCommitment index => s!"input {index} witness is for a different note commitment"
  | nullifierMismatch index => s!"input {index} nullifier is not derived from its note and spending key"
  | macMismatch index => s!"input {index} MAC does not bind its spending key to h_sig"
  | rhoMismatch index => s!"output {index} rho is not derived from phi and h_sig"
  | commitmentMismatch index => s!"output {index} commitment does not match its note"
  | nonsensicalValue cause => "nonsensical JoinSplit value: " ++ cause.message
  | unbalanced lhs rhs =>
    s!"JoinSplit does not balance: inputs and vpub_old {lhs}, outputs and vpub_new {rhs}"

/-- Both sides must be amounts, and equal (`check_balance`). -/
def checkBalance (vpubOld : Amount) (inputs : List Amount) (vpubNew : Amount) (outputs : List Amount) :
    Except ConstraintError Unit := do
  let lhs ← (Amount.sum (vpubOld :: inputs)).mapError .nonsensicalValue
  let rhs ← (Amount.sum (vpubNew :: outputs)).mapError .nonsensicalValue
  unless lhs = rhs do throw (.unbalanced lhs rhs)

namespace AuxiliaryInput

/-- Checks input `i`: the body of the first loop of `AuxiliaryInput::check`. -/
def checkInput (a : AuxiliaryInput) (s : Statement) (i : Index) : Except ConstraintError Unit := do
  let input := a.inputs.get i
  unless input.note.payingKey = input.spendingKey.payingKey do throw (.wrongPayingKey i)
  unless input.note.value.isZero do
    unless input.witness.root = s.anchor do throw (.anchorMismatch i)
    unless input.witness.element = input.note.commitment do throw (.witnessedWrongCommitment i)
  unless input.note.nullifier input.spendingKey = s.nullifiers.get i do throw (.nullifierMismatch i)
  unless Mac.compute input.spendingKey i s.hSig = s.macs.get i do throw (.macMismatch i)

/-- Checks output `i`: the body of the second loop of `AuxiliaryInput::check`. -/
def checkOutput (a : AuxiliaryInput) (s : Statement) (i : Index) : Except ConstraintError Unit := do
  let note := a.outputs.get i
  unless note.rho = outputRho a.phi i s.hSig do throw (.rhoMismatch i)
  unless note.commitment = s.commitments.get i do throw (.commitmentMismatch i)

/-- Checks the inputs in order, then the outputs, then the balance (`AuxiliaryInput::check`). -/
def check (a : AuxiliaryInput) (s : Statement) : Except ConstraintError Unit := do
  a.checkInput s .first
  a.checkInput s .second
  a.checkOutput s .first
  a.checkOutput s .second
  checkBalance s.vpubOld (a.inputs.toList.map fun i => i.note.value) s.vpubNew (a.outputs.toList.map Note.value)

end AuxiliaryInput

end ShieldedPool
