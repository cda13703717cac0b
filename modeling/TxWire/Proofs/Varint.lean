import Mathlib.Tactic
import TxWire.Bytes.Varint

/-!
The code of variable-length numbers.

* `encode_append_inj`: the code is prefix-free, so a coded number determines both itself and the
  bytes behind it. The continuation bit carries this: it tells the last byte of a number from
  every other one.
* `length_encode`: the length computed from the bit length is the number of groups the writer
  walks. `encodedLength_of_le` is the step, one group of seven bits less.
-/

namespace TxWire.Varint

/-! ### The two cases of the writer -/

lemma encode_of_lt {n : ℕ} (h : n < 128) : encode n = [UInt8.ofNat n] := by
  rw [encode, if_pos h]

lemma encode_of_le {n : ℕ} (h : 128 ≤ n) :
    encode n = UInt8.ofNat (n % 128 + 128) :: encode (n / 128) := by
  rw [encode, if_neg (by omega)]

lemma encode_ne_nil (n : ℕ) : encode n ≠ [] := by
  rcases Nat.lt_or_ge n 128 with h | h
  · rw [encode_of_lt h]
    exact List.cons_ne_nil _ _
  · rw [encode_of_le h]
    exact List.cons_ne_nil _ _

lemma eq_of_ofNat_eq {a b : ℕ} (ha : a < 256) (hb : b < 256)
    (h : UInt8.ofNat a = UInt8.ofNat b) : a = b := by
  have h := congrArg UInt8.toNat h
  rwa [UInt8.toNat_ofNat', UInt8.toNat_ofNat', Nat.mod_eq_of_lt ha, Nat.mod_eq_of_lt hb] at h

/-- The code is prefix-free: a coded number determines both itself and the bytes behind it. -/
theorem encode_append_inj {m n : ℕ} {s t : List UInt8} (h : encode m ++ s = encode n ++ t) :
    m = n ∧ s = t := by
  induction m using Nat.strong_induction_on generalizing n with
  | _ m ih =>
    rcases Nat.lt_or_ge m 128 with hm | hm <;> rcases Nat.lt_or_ge n 128 with hn | hn
    · rw [encode_of_lt hm, encode_of_lt hn] at h
      obtain ⟨hb, hs⟩ := List.cons.inj h
      exact ⟨eq_of_ofNat_eq (by omega) (by omega) hb, hs⟩
    · -- only the longer number has its continuation bit set
      rw [encode_of_lt hm, encode_of_le hn] at h
      have hb := eq_of_ofNat_eq (by omega) (by omega) (List.cons.inj h).1
      omega
    · rw [encode_of_le hm, encode_of_lt hn] at h
      have hb := eq_of_ofNat_eq (by omega) (by omega) (List.cons.inj h).1
      omega
    · rw [encode_of_le hm, encode_of_le hn] at h
      obtain ⟨hb, hrest⟩ := List.cons.inj h
      have hb := eq_of_ofNat_eq (by omega) (by omega) hb
      obtain ⟨hq, hs⟩ := ih (m / 128) (by omega) hrest
      exact ⟨by omega, hs⟩

/-! ### The length -/

/-- Seven bits fewer when a group is taken off. -/
lemma bitLength_of_le {n : ℕ} (h : 128 ≤ n) : bitLength n = bitLength (n / 128) + 7 := by
  have hq : n / 128 ≠ 0 := by omega
  obtain ⟨hlo, hhi⟩ := (Nat.log2_eq_iff hq).mp rfl
  have hlog : n.log2 = (n / 128).log2 + 7 := by
    rw [Nat.log2_eq_iff (by omega)]
    have hlo' := Nat.pow_add 2 (n / 128).log2 7
    have hhi' := Nat.pow_add 2 ((n / 128).log2 + 1) 7
    constructor <;> omega
  rw [bitLength, bitLength, if_neg (by omega), if_neg hq, hlog]

lemma encodedLength_of_lt {n : ℕ} (h : n < 128) : encodedLength n = 1 := by
  have hbits : bitLength n ≤ 7 := by
    rw [bitLength]
    split
    · omega
    · have := (Nat.log2_lt (n := n) (k := 7) (by omega)).mpr h
      omega
  rw [encodedLength]
  omega

/-- One byte fewer when a group is taken off. -/
lemma encodedLength_of_le {n : ℕ} (h : 128 ≤ n) :
    encodedLength n = encodedLength (n / 128) + 1 := by
  have hbits := bitLength_of_le h
  have hpos : 1 ≤ bitLength (n / 128) := by
    rw [bitLength, if_neg (by omega)]
    omega
  rw [encodedLength, encodedLength]
  omega

/-- The closed form of the length agrees with the walk over the groups. -/
theorem length_encode (n : ℕ) : (encode n).length = encodedLength n := by
  induction n using Nat.strong_induction_on with
  | _ n ih =>
    rcases Nat.lt_or_ge n 128 with h | h
    · rw [encode_of_lt h, encodedLength_of_lt h, List.length_singleton]
    · rw [encode_of_le h, List.length_cons, ih (n / 128) (by omega), encodedLength_of_le h]

end TxWire.Varint
