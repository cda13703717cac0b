/-!
Whole numbers as byte strings of a fixed width, least significant byte first, and the two ways
to read such a string back.

* `length_littleEndian`: the width alone decides the length.
* `ofLittleEndian_littleEndian`: a number that fits into the width is read back.
-/

namespace TxWire

/-- The last `width` bytes of a number, least significant first. -/
def littleEndian : (width : Nat) → (value : Nat) → List UInt8
  | 0, _ => []
  | width + 1, value => UInt8.ofNat (value % 256) :: littleEndian width (value / 256)

/-- The number whose bytes are given, least significant first. -/
def ofLittleEndian : List UInt8 → Nat
  | [] => 0
  | b :: rest => b.toNat + 256 * ofLittleEndian rest

/-- The number whose bytes are given, most significant first. -/
def ofBigEndian (bytes : List UInt8) : Nat :=
  bytes.foldl (fun value b => 256 * value + b.toNat) 0

@[simp] theorem length_littleEndian (width value : Nat) :
    (littleEndian width value).length = width := by
  induction width generalizing value with
  | zero => rfl
  | succ width ih => simp [littleEndian, ih]

theorem ofLittleEndian_littleEndian {width value : Nat} (h : value < Nat.pow 256 width) :
    ofLittleEndian (littleEndian width value) = value := by
  induction width generalizing value with
  | zero =>
    have h : value < 1 := h
    rw [littleEndian, ofLittleEndian]
    omega
  | succ width ih =>
    have h : value < Nat.pow 256 width * 256 := h
    have hv : value / 256 < Nat.pow 256 width := Nat.div_lt_of_lt_mul (by omega)
    have hb : (UInt8.ofNat (value % 256)).toNat = value % 256 := by
      simp
    rw [littleEndian, ofLittleEndian, ih hv, hb]
    omega

end TxWire
