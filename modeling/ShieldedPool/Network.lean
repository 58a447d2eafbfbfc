import ShieldedPool.Bytes
import ShieldedPool.Diagnostic

/-!
# Networks

The production network and two test networks, with the constants that tell them apart. Hashes are hexadecimal text in the
order in which nodes display them.
-/

namespace ShieldedPool

/-- The networks (`Network`). -/
inductive Network
  | mainnet
  | testnet
  | regtest
deriving DecidableEq, Repr

/-- A hard-coded balance of the pool, for nodes whose records do not go back far enough (`SproutValuePoolCheckpoint`). -/
structure PoolCheckpoint where
  height : Nat
  balance : Nat
  hash : String

/-- What is constant on one network (`NetworkParameters`). -/
structure NetworkParameters where
  networkId : String
  currencyUnits : String
  coinType : Nat
  magic : Bytes 4
  defaultPort : Nat
  genesisHash : Option String
  /-- Known block hashes by height, in height order. -/
  checkpoints : List (Nat × String)
  /-- The version bytes that the text form of an address starts with. -/
  addressPrefix : Bytes 2
  viewingKeyPrefix : Bytes 3
  spendingKeyPrefix : Bytes 2
  poolCheckpoint : Option PoolCheckpoint

namespace Network

instance : Inhabited Network := ⟨mainnet⟩

/-- The networks in order (`Network::iter`). -/
def all : List Network := [mainnet, testnet, regtest]

/-- The name that is displayed (`Display`). -/
def name : Network → String
  | mainnet => "Mainnet"
  | testnet => "Testnet"
  | regtest => "Regtest"

instance : ToString Network := ⟨name⟩

/-- The name in lower case (`Network::lowercase_name`). -/
def lowercaseName (n : Network) : String := n.name.map Char.toLower

/-- Whether this is any network but the production one (`Network::is_a_test_network`). -/
def isTest (n : Network) : Bool := n != mainnet

/-! ## Constants -/

def mainnetGenesis : String := "942b9449756c3f4d949c50358358de6a4f14f7d8b2b8bfd33ba5b7dcc0b9373b"

def mainnetCheckpoints : List (Nat × String) :=
  [(0, mainnetGenesis),
   (2500, "0002f370170188a0649583b93a5af30e30022936ae5e43b15a39c1f4a7547aa2"),
   (6000, "00000078dc22f3b307b80a74dd1b001fda29f0d23661585506053c8bce4c4162"),
   (10000, "000000a1231c242c8a542f200686b7c49b7cd4b745c6658cae028a57f9aa39e8"),
   (19500, "000000284fb4980f0a6cf9a51474e7e9dd9d91d2c5fbe5ebc884aafe66ddab83"),
   (35000, "0000003c6e4d945a16077570789560a1d48c5abe5f7a93fb8f325670e9c504d8"),
   (50000, "0000002bb9cf35614ae5e8a74dcf290a8c2d3336808b0b3eb5a273c8ece5f185"),
   (75000, "000000e1189970c59df3072e28686bc76d3fd59e03f972a9257f05b16ee4d49d"),
   (100000, "0000030beebdfeaa0919584d0ee9434d63f2693b6d7e5b3c0fc1e8e066dc7982"),
   (125000, "0000005084851cd551ae89aee69a5cdd5765387847e65adc464f4fd4011f0959"),
   (150000, "00000057ebf48db571d7402697693a895b772f63a0120f486e0f7c70e8dfe69c"),
   (175000, "0000001d7c57b8142d299bbaf221ddefe8295d5e57af0130782fea29d30724d8"),
   (184850, "000000222b32827c0e19f9b68e5df5ae365cb9b48d4381718f6aa62174bdb833"),
   (257470, "000001b81d97c59bf87a06b5ca32d2f3be8ebef3cda9b07055a4f2ab4f8b1847"),
   (263300, "00000257317a362097ccffa4b48bccdc290ed877f7fd735ae9a4fddbf04e0be5")]

def mainnetParameters : NetworkParameters where
  networkId := "main"
  currencyUnits := "BUCK"
  coinType := 147
  magic := #v[0x24, 0xe9, 0x27, 0x64]
  defaultPort := 5749
  genesisHash := some mainnetGenesis
  checkpoints := mainnetCheckpoints
  addressPrefix := #v[0x16, 0x9a]
  viewingKeyPrefix := #v[0xa8, 0xab, 0xd3]
  spendingKeyPrefix := #v[0xab, 0x36]
  poolCheckpoint := some
    { height := 348655
      balance := 1603796786971170
      hash := "00000014ed1ebcb3fc7a33a985c12fd2134931f7813d386f0f8318e0db66d3cc" }

def testnetParameters : NetworkParameters where
  networkId := "test"
  currencyUnits := "TBK"
  coinType := 1
  magic := #v[0xfa, 0x1a, 0xf9, 0xbf]
  defaultPort := 15749
  genesisHash := none
  checkpoints := []
  addressPrefix := #v[0x16, 0xb6]
  viewingKeyPrefix := #v[0xa8, 0xac, 0x0c]
  spendingKeyPrefix := #v[0xac, 0x08]
  poolCheckpoint := some
    { height := 440329
      balance := 40000029096803
      hash := "000a95d08ba5dcbabe881fc6471d11807bcca7df5f1795c99f3ec4580db4279b" }

/-- The regression test network shares the key prefixes of the public test network. -/
def regtestParameters : NetworkParameters :=
  { testnetParameters with
    networkId := "regtest"
    currencyUnits := "REG"
    magic := #v[0xaa, 0xe8, 0x3f, 0x5f]
    poolCheckpoint := none }

/-- The constants of a network (`Network::parameters`). -/
def parameters : Network → NetworkParameters
  | mainnet => mainnetParameters
  | testnet => testnetParameters
  | regtest => regtestParameters

/-- The last checkpoint at or below a height (`Network::checkpoint_at_or_below`). -/
def checkpointAtOrBelow (n : Network) (height : Nat) : Option (Nat × String) :=
  n.parameters.checkpoints.reverse.find? fun c => c.1 ≤ height

/-! ## Text -/

/-- Reads a network by its name or short name (`Network::from_str`). Letter case does not matter; no letter outside ASCII has
a lower-case form that occurs in a name, so ASCII letters are all there is to fold. -/
def parse? (text : String) : Option Network :=
  match text.map Char.toLower with
  | "mainnet" | "main" => some mainnet
  | "testnet" | "test" => some testnet
  | "regtest" => some regtest
  | _ => none

/-- The message for a text that names no network (`InvalidNetworkError`). -/
def invalidMessage (text : String) : String := "Invalid network: " ++ text

def diagnostic (n : Network) : Diagnostic := .text n.name

end Network

def PoolCheckpoint.diagnostic (c : PoolCheckpoint) : Diagnostic :=
  .record "SproutValuePoolCheckpoint"
    [("height", .number c.height), ("balance", .number c.balance), ("hash", .quoted c.hash)] false

def NetworkParameters.diagnostic (p : NetworkParameters) : Diagnostic :=
  .record "NetworkParameters"
    [("network_id", .quoted p.networkId),
     ("currency_units", .quoted p.currencyUnits),
     ("bip44_coin_type", .number p.coinType),
     ("magic", .hex "Magic" p.magic.toList),
     ("default_port", .number p.defaultPort),
     ("genesis_hash", .option .quoted p.genesisHash),
     ("checkpoints", .list (p.checkpoints.map fun c => .tuple "" [.number c.1, .quoted c.2])),
     ("sprout_address_prefix", .byteList p.addressPrefix.toList),
     ("sprout_viewing_key_prefix", .byteList p.viewingKeyPrefix.toList),
     ("sprout_spending_key_prefix", .byteList p.spendingKeyPrefix.toList),
     ("sprout_value_pool_checkpoint", .option PoolCheckpoint.diagnostic p.poolCheckpoint)] false

end ShieldedPool
