import ShieldedPool.Base58
import ShieldedPool.Codec
import ShieldedPool.Key
import ShieldedPool.Network

/-!
# The text form of keys and addresses

Addresses, viewing keys and spending keys are passed around as Base58Check text (`encode`, `decode`). The first bytes of the
payload name the kind of key and the network; the test networks share theirs, so reading reports the public one for both.
-/

namespace ShieldedPool

/-- A kind of key with a text form (`Base58Payload`): its version bytes on a network, and the layout of what follows them. -/
structure KeyFormat (α : Type) where
  version : NetworkParameters → List UInt8
  payload : α → List UInt8
  decode : Decoder α

/-- A key together with the network it is for (`SproutShieldedAddress`, `SproutViewingKey`, `SproutSpendingKey`). -/
structure Encoded (α : Type) where
  network : Network
  key : α
deriving BEq

namespace KeyFormat

variable {α : Type}

/-- The format of a `SproutShieldedAddress`. -/
def address : KeyFormat PaymentAddress where
  version p := p.addressPrefix.toList
  payload a := a.payingKey.bytes.toList ++ a.transmissionKey.bytes.toList
  decode := do
    let payingKey ← Decoder.bytes 32
    let transmissionKey ← Decoder.bytes 32
    return ⟨⟨payingKey⟩, ⟨transmissionKey⟩⟩

/-- The format of a `SproutViewingKey`. The receiving key is clamped when it is read. -/
def viewingKey : KeyFormat ViewingKey where
  version p := p.viewingKeyPrefix.toList
  payload k := k.payingKey.bytes.toList ++ k.receivingKey.bytes.toList
  decode := do
    let payingKey ← Decoder.bytes 32
    let receivingKey ← Decoder.bytes 32
    return ⟨⟨payingKey⟩, .ofBytes receivingKey⟩

/-- The format of a `SproutSpendingKey`. A key that is too wide is refused, not masked. -/
def spendingKey : KeyFormat SpendingKey where
  version p := p.spendingKeyPrefix.toList
  payload k := k.bytes.toList
  decode := do
    match SpendingKey.ofBytes? (← Decoder.bytes 32) with
    | some k => return k
    | none => throw (.malformed .spendingKeyTooWide)

/-- The networks whose version bytes `decode` tries, in this order. -/
def candidates : List Network := [.mainnet, .testnet]

/-- The text of a key on a network (`encode`, the `Display` of all three). -/
def encode (f : KeyFormat α) (e : Encoded α) : String :=
  Base58.encodeCheck (f.version e.network.parameters ++ f.payload e.key)

/-- Reads what follows the version bytes (`read_payload`); nothing may be left over. -/
def decodePayload (f : KeyFormat α) (network : Network) (l : List UInt8) : Except DecodeError (Encoded α) := do
  let (key, rest) ← f.decode l
  if rest.isEmpty then return ⟨network, key⟩ else throw (.malformed .keyTrailing)

/-- Reads a text back (`decode`, the `FromStr` of all three). The first candidate whose version bytes match decides. -/
def parse (f : KeyFormat α) (text : String) : Except DecodeError (Encoded α) := do
  let some l := Base58.decodeCheck? text | throw (.malformed .base58Check)
  match candidates.find? fun n => (f.version n.parameters).isPrefixOf l with
  | some n => f.decodePayload n (l.drop (f.version n.parameters).length)
  | none => throw (.malformed .keyVersion)

end KeyFormat

def Encoded.addressDiagnostic (e : Encoded PaymentAddress) : Diagnostic :=
  .record "SproutShieldedAddress" [("network", e.network.diagnostic), ("address", e.key.diagnostic)] false

end ShieldedPool
