/-!
Whole numbers of variable length: seven bits a byte, least significant group first, the high
bit set on every byte but the last.

The writer (`encode`) walks the groups; the length (`encodedLength`) is computed from the bit
length alone. The reader (`decode`) takes at most ten bytes and only values below `2 ^ 64`; it
accepts groups of zeros at the end, which the writer never produces.
-/

namespace TxWire.Varint

/-- The most bytes a value below `2 ^ 64` can take. -/
def maxLength : Nat := 10

/-- The groups of seven bits of a number, the continuation bit on all but the last. -/
def encode (n : Nat) : List UInt8 :=
  if n < 128 then [UInt8.ofNat n]
  else UInt8.ofNat (n % 128 + 128) :: encode (n / 128)
termination_by n
decreasing_by omega

/-- The number of significant bits. -/
def bitLength (n : Nat) : Nat :=
  if n = 0 then 0 else n.log2 + 1

/-- The number of groups of seven that hold the significant bits, at least one. -/
def encodedLength (n : Nat) : Nat :=
  (max (bitLength n) 1 + 6) / 7

/-- Why a byte string does not start with a variable-length number. -/
inductive Fault
  /-- An eleventh byte would be needed. -/
  | tooLong
  /-- The tenth byte carries more than the one bit that is left. -/
  | overflow
  /-- The input ended within the number, after this many bytes. -/
  | exhausted (length : Nat)
  /-- A fault that the caller words itself. -/
  | other (message : String)
  deriving DecidableEq, Repr

/-- The wording of a fault. -/
def Fault.message : Fault → String
  | .tooLong => s!"encoding longer than {maxLength} bytes"
  | .overflow => "value overflows 64 bits"
  | .exhausted length => s!"input exhausted after {length} bytes without a terminating byte"
  | .other message => message

/-- The seven bits of the value that a byte carries. -/
def payload (b : UInt8) : Nat := b.toNat % 128

/-- Whether a byte announces another one. -/
def continues (b : UInt8) : Bool := 128 ≤ b.toNat

/-- Reads on after `index` bytes that gave `value`: the number, and how many bytes it took. -/
def decodeFrom (index value : Nat) : List UInt8 → Except Fault (Nat × Nat)
  | [] => .error (.exhausted index)
  | b :: rest =>
    if index = maxLength then .error .tooLong
    else if index = maxLength - 1 ∧ 1 < payload b then .error .overflow
    else if continues b then decodeFrom (index + 1) (value + payload b * Nat.pow 128 index) rest
    else .ok (value + payload b * Nat.pow 128 index, index + 1)

/-- The number at the front of a byte string, and how many bytes it took. -/
def decode (bytes : List UInt8) : Except Fault (UInt64 × Nat) :=
  (decodeFrom 0 0 bytes).map fun (value, used) => (UInt64.ofNat value, used)

end TxWire.Varint
