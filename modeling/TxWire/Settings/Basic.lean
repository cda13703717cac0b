import TxWire.Chain
import TxWire.Text.Basic
import TxWire.Transaction.Basic

/-!
The settings that transactions are built from, what makes them valid, and settings of which some
fields are known so far.
-/

namespace TxWire

/-- Settings for building transactions. A limit of zero means no limit. -/
structure Settings where
  network : Network := .mainnet
  /-- A chain id as hexadecimal text, which goes before that of the network. -/
  chainId : Option String := none
  /-- How long after the head block a transaction expires. -/
  expirationSeconds : UInt32 := 30
  maxNetUsageWords : UInt32 := 0
  maxCpuUsageMs : UInt8 := 0
  delaySec : UInt32 := 0
  deriving DecidableEq

/-- Why settings are not valid. -/
inductive SettingsFault
  | noExpiration
  | noChainId
  | malformedChainId (text : String)
  deriving DecidableEq, Repr

/-- What is wrong with settings that have a fault. -/
def SettingsFault.reason : SettingsFault → String
  | .noExpiration => "expiration_seconds must be greater than zero"
  | .noChainId => "custom network requires an explicit chain_id"
  | .malformedChainId text => s!"chain_id {Quoted.text text} is not 64 hex characters"

/-- The wording of a fault. -/
def SettingsFault.message (fault : SettingsFault) : String :=
  s!"invalid settings: {fault.reason}"

namespace Settings

instance : Inhabited Settings := ⟨{}⟩

/-- The chain id that transactions are signed for, as text. -/
def chainIdText? (s : Settings) : Option String := s.chainId.or s.network.chainId?

/-- The chain id that transactions are signed for. -/
def resolveChainId (s : Settings) : Except ChainIdFault ChainId :=
  match s.chainIdText? with
  | none => .error .unnamed
  | some text => ChainId.parse text

/-- Whether a text has the length and the digits of a chain id. -/
def isChainIdText (text : String) : Bool :=
  (utf8Bytes text).length = 2 * digestSize && (utf8Bytes text).all Hex.isDigitCode

/-- Checks that transactions built from the settings can be signed and do not expire at once. -/
def validate (s : Settings) : Except SettingsFault Unit :=
  if s.expirationSeconds = 0 then .error .noExpiration
  else match s.chainIdText? with
    | none => .error .noChainId
    | some text => if isChainIdText text then .ok () else .error (.malformedChainId text)

/-- The fields of settings met so far in a document. -/
structure Draft where
  network : Option Network := none
  /-- A chain id may be given as missing. -/
  chainId : Option (Option String) := none
  expirationSeconds : Option UInt32 := none
  maxNetUsageWords : Option UInt32 := none
  maxCpuUsageMs : Option UInt8 := none
  delaySec : Option UInt32 := none

/-- The settings of a draft, the default for each field that is missing. -/
def Draft.complete (d : Draft) : Settings :=
  let default : Settings := {}
  { network := d.network.getD default.network
    chainId := d.chainId.getD default.chainId
    expirationSeconds := d.expirationSeconds.getD default.expirationSeconds
    maxNetUsageWords := d.maxNetUsageWords.getD default.maxNetUsageWords
    maxCpuUsageMs := d.maxCpuUsageMs.getD default.maxCpuUsageMs
    delaySec := d.delaySec.getD default.delaySec }

end Settings

/-- A transaction without actions that keeps to the settings, refers to the head block and
expires some time after it. -/
def Transaction.ofSettings (settings : Settings) (headId : String) (headTime : Instant) :
    Except TransactionError Transaction := do
  let limits : Header :=
    { maxNetUsageWords := settings.maxNetUsageWords
      maxCpuUsageMs := settings.maxCpuUsageMs
      delaySec := settings.delaySec }
  let referring ← limits.setReferenceBlock headId
  let header ← referring.setExpirationFrom headTime settings.expirationSeconds
  return { header }

end TxWire
