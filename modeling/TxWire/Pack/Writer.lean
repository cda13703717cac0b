import TxWire.Bytes.FixedWidth
import TxWire.Log
import TxWire.Pack.Error

/-!
The writer that the wire format is laid out in, and the operations on it.

`Put` is a computation on a writer that may fail and may report events. A failure keeps what was
written before it, except under `Put.atomic`, which writes all or nothing. All of them append,
except `Put.restart`, which drops what there is.

Numbers of a fixed width are little-endian, lengths and counts are variable-length numbers, and a
string is its length in bytes followed by its bytes in the writer's charset.
-/

namespace TxWire

/-- Bytes written so far, and the charset for strings. -/
structure Writer where
  bytes : List UInt8
  charset : Charset

/-- A writer that holds nothing. -/
def Writer.empty (charset : Charset) : Writer := { bytes := [], charset }

instance : Inhabited Writer := ⟨Writer.empty .utf8⟩

/-- A computation on a writer. -/
abbrev Put (α : Type) := ExceptT PackError (StateT Writer Logged) α

namespace Put

/-- Runs a computation: its result, the writer afterwards, and the events on the way. -/
def on {α : Type} (put : Put α) (writer : Writer) : Logged (Except PackError α × Writer) :=
  (ExceptT.run put).run writer

/-- A computation given by what it does to each writer. -/
def of {α : Type} (run : Writer → Logged (Except PackError α × Writer)) : Put α :=
  ExceptT.mk run

/-- Reports an event. -/
def report (event : Event) : Put Unit := of fun w => do
  Logged.report event
  return (.ok (), w)

/-- The charset of the writer. -/
def charset : Put Charset := return (← get).charset

/-- The number of bytes in the writer. -/
def length : Put Nat := return (← get).bytes.length

/-- Appends bytes as they are. -/
def bytes (data : List UInt8) : Put Unit :=
  modify fun w => { w with bytes := w.bytes ++ data }

def byte (b : UInt8) : Put Unit := bytes [b]

def bool (b : Bool) : Put Unit := byte (if b then 1 else 0)

def u16 (n : UInt16) : Put Unit := bytes (littleEndian 2 n.toNat)

def u32 (n : UInt32) : Put Unit := bytes (littleEndian 4 n.toNat)

def u64 (n : UInt64) : Put Unit := bytes (littleEndian 8 n.toNat)

/-- Appends a number of variable length. -/
def varint (n : Nat) : Put Unit := bytes (Varint.encode n)

/-- Appends a byte string with its length in front. -/
def varBytes (data : List UInt8) : Put Unit := do
  varint data.length
  bytes data

/-- Appends a string in the writer's charset, with its length in bytes in front. -/
def string (text : String) : Put Unit := do
  let charset ← charset
  match charset.encode text with
  | .ok data => varBytes data
  | .error fault => throw (.charset charset fault)

/-- Puts an empty writer for UTF-8 in the place of this one. -/
def restart : Put Unit := set (default : Writer)

/-- Computations in a row, up to the first that fails. -/
def inOrder (steps : List (Put Unit)) : Put Unit := steps.forM id

/-- The writer after each computation that is run when the first failure ends the row; the
failing one is the last. -/
def statesUntilFailure (writer : Writer) : List (Put Unit) → List Writer
  | [] => []
  | step :: steps =>
    match (step.on writer).value with
    | (.ok (), next) => next :: statesUntilFailure next steps
    | (.error _, next) => [next]

/-- Runs a computation on an empty writer of the same charset. What that holds in the end is
appended if the computation succeeds; otherwise this writer stays as it is. -/
def atomic (put : Put Unit) : Put Unit := of fun w => do
  let (result, scratch) ← put.on (Writer.empty w.charset)
  match result with
  | .ok () => return (.ok (), { w with bytes := w.bytes ++ scratch.bytes })
  | .error e => return (.error e, w)

end Put

end TxWire
