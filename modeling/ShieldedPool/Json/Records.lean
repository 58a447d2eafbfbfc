import ShieldedPool.Config
import ShieldedPool.Json.Reader
import ShieldedPool.Json.Value
import ShieldedPool.JoinSplit

/-!
# Records in JSON

How the library's records are stored in JSON and read back (`Serialize` and `Deserialize`). Amounts are numbers, networks are
named, byte strings are arrays. Every field of a note or a description must be there; fields that are left out of a
configuration keep their defaults, and unknown ones are refused there.
-/

namespace ShieldedPool

open JsonReader

def Amount.toJson (a : Amount) : Json := .number a.zatoshis

def Amount.readJson : JsonReader Amount := do
  match Amount.ofZatoshis (← natural (UInt64.size - 1)) with
  | .ok a => return a
  | .error e => throw (.amount e)

/-! ## Networks -/

def Network.toJson (n : Network) : Json := .string n.name

def Network.ofName? (name : String) : Option Network := Network.all.find? fun n => n.name == name

/-- The network with the name that is read, letter by letter. -/
def Network.readName : JsonReader Network := do required (Network.ofName? (← string))

/-- A network is written as its name, or as an object whose only member has that name and is null. -/
def Network.readJson : JsonReader Network := do
  skipSpace
  match ← peek with
  | some '\x7b' =>
    discard next
    let n ← Network.readName
    skipSpace
    expect ':'
    null
    skipSpace
    expect '\x7d'
    return n
  | _ => Network.readName

/-! ## Configurations -/

def Config.toJson (c : Config) : Json :=
  .object
    [("network", c.network.toJson),
     ("parameters_dir", c.parametersDir.elim .null .string),
     ("sprout_parameters_file", .string c.parametersFile),
     ("debug_skip_parameter_preload", .bool c.skipPreload)]

/-- The fields of a configuration that have been read. -/
structure Config.Fields where
  network : Option Network := none
  parametersDir : Option (Option String) := none
  parametersFile : Option String := none
  skipPreload : Option Bool := none

def Config.members : Members Config.Fields
  | "network" => some (once Network.readJson (·.network) fun s a => { s with network := some a })
  | "parameters_dir" => some (once (optional string) (·.parametersDir) fun s a => { s with parametersDir := some a })
  | "sprout_parameters_file" => some (once string (·.parametersFile) fun s a => { s with parametersFile := some a })
  | "debug_skip_parameter_preload" => some (once bool (·.skipPreload) fun s a => { s with skipPreload := some a })
  | _ => none

/-- A configuration; what is left out is taken from `base`. -/
def Config.readJson (base : Config) : JsonReader Config := do
  let f ← object true Config.members {}
  return { network := f.network.getD base.network
           parametersDir := f.parametersDir.getD base.parametersDir
           parametersFile := f.parametersFile.getD base.parametersFile
           skipPreload := f.skipPreload.getD base.skipPreload }

/-! ## Notes -/

def Note.toJson (n : Note) : Json :=
  .object
    [("paying_key", .bytes n.payingKey.bytes), ("value", n.value.toJson), ("rho", .bytes n.rho.bytes),
     ("rcm", .bytes n.rcm.bytes)]

/-- The fields of a note that have been read. -/
structure Note.Fields where
  payingKey : Option (Bytes 32) := none
  value : Option Amount := none
  rho : Option (Bytes 32) := none
  rcm : Option (Bytes 32) := none

def Note.members : Members Note.Fields
  | "paying_key" => some (once (bytes 32) (·.payingKey) fun s a => { s with payingKey := some a })
  | "value" => some (once Amount.readJson (·.value) fun s a => { s with value := some a })
  | "rho" => some (once (bytes 32) (·.rho) fun s a => { s with rho := some a })
  | "rcm" => some (once (bytes 32) (·.rcm) fun s a => { s with rcm := some a })
  | _ => none

def Note.readJson : JsonReader Note := do
  let f ← object false Note.members {}
  return ⟨⟨← required f.payingKey⟩, ← required f.value, ⟨← required f.rho⟩, ⟨← required f.rcm⟩⟩

/-! ## Descriptions -/

def JoinSplit.toJson (j : JoinSplit) : Json :=
  .object
    [("vpub_old", j.vpubOld.toJson),
     ("vpub_new", j.vpubNew.toJson),
     ("anchor", .bytes j.anchor.bytes),
     ("nullifiers", .array (j.nullifiers.toList.map fun n => .bytes n.bytes)),
     ("commitments", .array (j.commitments.toList.map fun c => .bytes c.bytes)),
     ("ephemeral_key", .bytes j.ephemeralKey.bytes),
     ("random_seed", .bytes j.randomSeed.bytes),
     ("vmacs", .array (j.macs.toList.map fun m => .bytes m.bytes)),
     ("zkproof", .bytes j.proof.bytes),
     ("enc_ciphertexts", .array (j.ciphertexts.toList.map fun c => .bytes c.bytes))]

/-- The fields of a description that have been read. -/
structure JoinSplit.Fields where
  vpubOld : Option Amount := none
  vpubNew : Option Amount := none
  anchor : Option (Bytes 32) := none
  nullifiers : Option (Vector (Bytes 32) 2) := none
  commitments : Option (Vector (Bytes 32) 2) := none
  ephemeralKey : Option (Bytes 32) := none
  randomSeed : Option (Bytes 32) := none
  macs : Option (Vector (Bytes 32) 2) := none
  proof : Option (Bytes 192) := none
  ciphertexts : Option (Vector (Bytes (NotePlaintext.size + 16)) 2) := none

def JoinSplit.members : Members JoinSplit.Fields
  | "vpub_old" => some (once Amount.readJson (·.vpubOld) fun s a => { s with vpubOld := some a })
  | "vpub_new" => some (once Amount.readJson (·.vpubNew) fun s a => { s with vpubNew := some a })
  | "anchor" => some (once (bytes 32) (·.anchor) fun s a => { s with anchor := some a })
  | "nullifiers" => some (once (array (bytes 32) 2) (·.nullifiers) fun s a => { s with nullifiers := some a })
  | "commitments" => some (once (array (bytes 32) 2) (·.commitments) fun s a => { s with commitments := some a })
  | "ephemeral_key" => some (once (bytes 32) (·.ephemeralKey) fun s a => { s with ephemeralKey := some a })
  | "random_seed" => some (once (bytes 32) (·.randomSeed) fun s a => { s with randomSeed := some a })
  | "vmacs" => some (once (array (bytes 32) 2) (·.macs) fun s a => { s with macs := some a })
  | "zkproof" => some (once (bytes 192) (·.proof) fun s a => { s with proof := some a })
  | "enc_ciphertexts" =>
    some (once (array (bytes (NotePlaintext.size + 16)) 2) (·.ciphertexts) fun s a => { s with ciphertexts := some a })
  | _ => none

def JoinSplit.readJson : JsonReader JoinSplit := do
  let f ← object false JoinSplit.members {}
  let vpubOld ← required f.vpubOld
  let vpubNew ← required f.vpubNew
  let anchor ← required f.anchor
  let nullifiers ← required f.nullifiers
  let commitments ← required f.commitments
  let ephemeralKey ← required f.ephemeralKey
  let randomSeed ← required f.randomSeed
  let macs ← required f.macs
  let proof ← required f.proof
  let ciphertexts ← required f.ciphertexts
  return { vpubOld, vpubNew, anchor := ⟨anchor⟩, nullifiers := nullifiers.map .mk, commitments := commitments.map .mk
           ephemeralKey := ⟨ephemeralKey⟩, randomSeed := ⟨randomSeed⟩, macs := macs.map .mk, proof := ⟨proof⟩
           ciphertexts := ciphertexts.map .mk }

end ShieldedPool
