import TxWire.Transaction.Edit

/-!
Transactions with signatures, and the body of the request that hands one to a node.

A signature covers the bytes of the transaction and of its context-free data, so every access
that could change either drops the signatures there are.
-/

namespace TxWire

/-- All that a signer needs for one signature. -/
structure SigningRequest where
  chainId : ChainId
  packedTransaction : List UInt8
  /-- Empty when there is no context-free data. -/
  packedContextFreeData : List UInt8
  deriving DecidableEq

/-- Whoever holds the keys: gives a signature or says why not. -/
abbrev Signer := SigningRequest → Except SignerError String

/-- A transaction, its signatures, and the data for its context-free actions. -/
structure SignedTransaction where
  transaction : Transaction := {}
  signatures : List String := []
  contextFreeData : List (List UInt8) := []
  deriving DecidableEq

instance : Inhabited SignedTransaction := ⟨{}⟩

/-- What came of asking for a signature. -/
structure Signing where
  signed : SignedTransaction
  result : Except TransactionError Unit
  /-- The requests that the signer was given. -/
  requests : List SigningRequest

namespace SignedTransaction

/-- Gives the transaction up for changes. The signatures no longer cover it and are dropped. -/
def unsign (s : SignedTransaction) : SignedTransaction := { s with signatures := [] }

/-- Changes the transaction, which drops the signatures even where nothing comes of it. -/
def editTransaction (s : SignedTransaction) (edit : Transaction.Edit) :
    SignedTransaction × Transaction.Edit.Outcome :=
  let (transaction, outcome) := edit.apply s.transaction
  ({ s.unsign with transaction }, outcome)

/-- Adds a buffer of context-free data, which drops the signatures. -/
def addContextFreeData (s : SignedTransaction) (data : List UInt8) : SignedTransaction :=
  { s.unsign with contextFreeData := s.contextFreeData ++ [data] }

/-- The context-free data: the number of buffers, then each with its length. No buffers take no
bytes at all. -/
def packedContextFreeData (s : SignedTransaction) : List UInt8 :=
  if s.contextFreeData.isEmpty then []
  else Varint.encode s.contextFreeData.length ++
    s.contextFreeData.flatMap fun data => Varint.encode data.length ++ data

/-- Packs the transaction, asks the signer once and adds its signature behind the others. -/
def signWith (s : SignedTransaction) (signer : Signer) (chainId : ChainId) : Logged Signing := do
  match ← packedBytes s.transaction with
  | .error e => return { signed := s, result := .error (.pack e), requests := [] }
  | .ok packedTransaction =>
    let request : SigningRequest :=
      { chainId, packedTransaction, packedContextFreeData := s.packedContextFreeData }
    match signer request with
    | .error e => return { signed := s, result := .error (.signer e), requests := [request] }
    | .ok signature =>
      Logged.report (.signed chainId packedTransaction.length (s.signatures.length + 1))
      return {
        signed := { s with signatures := s.signatures ++ [signature] }
        result := .ok ()
        requests := [request] }

end SignedTransaction

/-- How the packed transaction is compressed. -/
inductive Compression
  | none
  deriving DecidableEq, Repr, Inhabited

/-- The name of a compression in documents. -/
def Compression.name : Compression → String
  | none => "none"

/-- The body of the request. Both packed parts are hexadecimal text. -/
structure PushBody where
  signatures : List String
  compression : Compression
  /-- Empty when there is no context-free data. -/
  packedContextFreeData : String
  packedTransaction : String
  deriving DecidableEq

/-- The body for a signed transaction, if the transaction can be packed. -/
def SignedTransaction.pushBody (s : SignedTransaction) :
    Logged (Except TransactionError PushBody) := do
  match ← packedBytes s.transaction with
  | .error e => return .error (.pack e)
  | .ok packed => return .ok {
      signatures := s.signatures
      compression := .none
      packedContextFreeData := Hex.encode s.packedContextFreeData
      packedTransaction := Hex.encode packed }

end TxWire
