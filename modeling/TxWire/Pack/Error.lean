import TxWire.Bytes.Varint
import TxWire.Charset.Encode
import TxWire.Text.Quoted
import TxWire.Time.Display

/-!
Why packing a value fails, and the wording of each cause.
-/

namespace TxWire

/-- The wording of a charset's fault. -/
def Charset.Fault.message : Charset.Fault → String
  | .readOnly => "encoding is not usable as an output encoding"
  | .unmappable text => s!"{Quoted.text text} contains unmappable characters"
  | .other message => message

/-- A value that the wire format cannot express. -/
inductive Unpackable
  /-- An expiration before 1970 or later than 32 bits can count. -/
  | expiration (t : Instant)
  /-- An expiration later than any instant: so many seconds after the head block. -/
  | expirationAfter (head : Instant) (seconds : Nat)
  /-- A fault that the caller words itself. -/
  | other (message : String)
  deriving DecidableEq

/-- The wording of an inexpressible value. -/
def Unpackable.message : Unpackable → String
  | .expiration t =>
    s!"expiration {t.display} ({t.seconds}s) does not fit in an unsigned 32-bit timestamp"
  | .expirationAfter head seconds =>
    s!"expiration {head.display} + {seconds}s is out of range"
  | .other message => message

/-- Why packing failed. -/
inductive PackError
  /-- A string cannot be written in the writer's charset. -/
  | charset (used : Charset) (fault : Charset.Fault)
  /-- A variable-length number cannot be read. -/
  | varint (fault : Varint.Fault)
  /-- A field holds a value that the wire format cannot express. -/
  | unpackable (cause : Unpackable)

/-- The wording of a failure. -/
def PackError.message : PackError → String
  | .charset used fault => s!"cannot encode value as {used.name}: {fault.message}"
  | .varint fault => s!"malformed varint: {fault.message}"
  | .unpackable cause => s!"invariant violation: {cause.message}"

end TxWire
