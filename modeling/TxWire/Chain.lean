import TxWire.Bytes.Digest

/-!
The identifier of the chain that a signature is bound to, the networks a transaction can be meant
for, and the chain ids of the two public ones.
-/

namespace TxWire

/-! ### Chain ids -/

/-- The identifier of a chain. -/
abbrev ChainId := Digest

/-- Why there is no chain id. -/
inductive ChainIdFault
  | malformed (fault : Digest.Fault)
  /-- The settings give none, and their network has none of its own. -/
  | unnamed
  deriving DecidableEq, Repr

/-- The wording of a fault. -/
def ChainIdFault.message : ChainIdFault → String
  | .malformed fault => fault.message
  | .unnamed => "settings do not name a chain id"

/-- Reads a chain id. -/
def ChainId.parse (text : String) : Except ChainIdFault ChainId :=
  (Digest.parse text).mapError .malformed

/-! ### Networks -/

/-- The chain id of the main network, as hexadecimal text. -/
def mainnetChainId : String :=
  "384da888112027f0321850a169f737c33e53b388aad48b5adace4bab97f437e0"

/-- The chain id of the test network, as hexadecimal text. -/
def testnetChainId : String :=
  "71ee83bcf52142d61019d95f9cc5427ba6a0d7ff8accd9e2088ae2abeaf3d3dd"

/-- A network. -/
inductive Network
  | mainnet
  | testnet
  /-- Any other chain, whose id has to be given. -/
  | custom
  deriving DecidableEq, Repr

namespace Network

instance : Inhabited Network := ⟨mainnet⟩

/-- The networks in the order in which messages list them. -/
def all : List Network := [mainnet, testnet, custom]

/-- The name of a network in documents. -/
def name : Network → String
  | mainnet => "mainnet"
  | testnet => "testnet"
  | custom => "custom"

/-- The name of a network in the event log. -/
def title : Network → String
  | mainnet => "MainNet"
  | testnet => "TestNet"
  | custom => "Custom"

/-- The names of the networks. -/
def names : List String := all.map name

/-- The network of a name. -/
def ofName? (name : String) : Option Network :=
  all.find? fun network => network.name = name

/-- The well-known chain id of a network, as hexadecimal text. -/
def chainId? : Network → Option String
  | mainnet => some mainnetChainId
  | testnet => some testnetChainId
  | custom => none

end Network

end TxWire
