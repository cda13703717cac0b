import TxWire.Pack.Packable
import TxWire.Transaction.Error

/-!
The header that every transaction starts with: when it expires, which block it refers to, and
what it may cost.
-/

namespace TxWire

/-- The bytes of a packed header that do not depend on its values. -/
def fixedHeaderSize : Nat := 4 + 2 + 4 + 1

/-- The header of a transaction. A limit of zero means no limit of its own. -/
structure Header where
  expiration : Instant := Instant.epoch
  refBlockNum : UInt16 := 0
  refBlockPrefix : UInt32 := 0
  maxNetUsageWords : UInt32 := 0
  maxCpuUsageMs : UInt8 := 0
  delaySec : UInt32 := 0
  deriving DecidableEq

instance : Inhabited Header := ⟨{}⟩

namespace Header

/-- A header without limits. The expiration is cut to the whole second. -/
def create (expiration : Instant) (refBlockNum : UInt16) (refBlockPrefix : UInt32) : Header :=
  { expiration := expiration.truncate, refBlockNum, refBlockPrefix }

/-- Refers to a block by its id: the low half of its number, which the id starts with, and the
four bytes of the id from the ninth on. -/
def setReferenceBlock (header : Header) (blockId : String) : Except TransactionError Header :=
  match Digest.parse blockId with
  | .error fault => .error (.blockId blockId fault)
  | .ok id => .ok
    { header with
      refBlockNum := UInt16.ofNat (ofBigEndian (id.bytes.take 4))
      refBlockPrefix := UInt32.ofNat (ofLittleEndian ((id.bytes.drop 8).take 4)) }

/-- Expires a number of seconds after the head block, cut to the whole second. -/
def setExpirationFrom (header : Header) (head : Instant) (seconds : UInt32) :
    Except TransactionError Header :=
  match head.add? seconds.toNat with
  | some expiration => .ok { header with expiration := expiration.truncate }
  | none => .error (.pack (.unpackable (.expirationAfter head seconds.toNat)))

/-- The expiration in seconds since the start of 1970, as the wire format holds it. -/
def expirationTimestamp (header : Header) : Except PackError UInt32 :=
  let seconds := header.expiration.seconds
  if 0 ≤ seconds ∧ seconds < UInt32.size then .ok (UInt32.ofNat seconds.toNat)
  else .error (.unpackable (.expiration header.expiration))

/-- The expiration is looked at first, so that a header is written as a whole or not at all. -/
instance : Packable Header where
  pack header := do
    let expiration ← header.expirationTimestamp
    Put.u32 expiration
    Put.u16 header.refBlockNum
    Put.u32 header.refBlockPrefix
    Put.varint header.maxNetUsageWords.toNat
    Put.byte header.maxCpuUsageMs
    Put.varint header.delaySec.toNat
  packedSize header :=
    fixedHeaderSize + Varint.encodedLength header.maxNetUsageWords.toNat +
      Varint.encodedLength header.delaySec.toNat

/-- New values for some fields of a header. -/
structure Assignment where
  expiration : Option Instant := none
  refBlockNum : Option UInt16 := none
  refBlockPrefix : Option UInt32 := none
  maxNetUsageWords : Option UInt32 := none
  maxCpuUsageMs : Option UInt8 := none
  delaySec : Option UInt32 := none

/-- Gives the named fields their new values, as they are. -/
def assign (header : Header) (new : Assignment) : Header :=
  { expiration := new.expiration.getD header.expiration
    refBlockNum := new.refBlockNum.getD header.refBlockNum
    refBlockPrefix := new.refBlockPrefix.getD header.refBlockPrefix
    maxNetUsageWords := new.maxNetUsageWords.getD header.maxNetUsageWords
    maxCpuUsageMs := new.maxCpuUsageMs.getD header.maxCpuUsageMs
    delaySec := new.delaySec.getD header.delaySec }

/-- A change to a header. -/
inductive Edit
  | assign (new : Assignment)
  | referenceBlock (blockId : String)
  | expirationFrom (head : Instant) (seconds : UInt32)

/-- Makes a change. -/
def Edit.apply (header : Header) : Edit → Except TransactionError Header
  | assign new => .ok (header.assign new)
  | referenceBlock blockId => header.setReferenceBlock blockId
  | expirationFrom head seconds => header.setExpirationFrom head seconds

end Header

end TxWire
