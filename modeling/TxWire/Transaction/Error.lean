import TxWire.Pack.Error
import TxWire.Chain

/-!
Why an operation on a transaction fails, and the wording of each cause.
-/

namespace TxWire

/-- Why a signer gives no signature. -/
inductive SignerError
  | keyUnavailable (key : String)
  | failed (reason : String)
  deriving DecidableEq, Repr

/-- The wording of a signer's failure. -/
def SignerError.message : SignerError → String
  | .keyUnavailable key => s!"no signing key available for {key}"
  | .failed reason => s!"signing failed: {reason}"

/-- Why an operation on a transaction failed. -/
inductive TransactionError
  | pack (error : PackError)
  | blockId (text : String) (fault : Digest.Fault)
  | chainId (fault : ChainIdFault)
  | actionData (fault : Hex.Fault)
  | signer (error : SignerError)

/-- The wording of a failure. -/
def TransactionError.message : TransactionError → String
  | .pack error => error.message
  | .blockId text fault => s!"invalid block id {Quoted.text text}: {fault.message}"
  | .chainId fault => s!"invalid chain id: {fault.message}"
  | .actionData fault => s!"invalid action data: {fault.message}"
  | .signer error => error.message

end TxWire
