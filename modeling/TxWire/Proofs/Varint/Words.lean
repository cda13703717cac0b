import TxWire.Proofs.Varint

/-!
Variable-length numbers on words of 64 bits, where groups are shifted and masked instead of
divided and multiplied.

* `encodeWord`, `wordLength`, `decodeWord`: the writer, the length and the reader on words. The
  length counts the zeros in front of the first significant bit.
* `encodeWord_eq`, `wordLength_eq`, `decodeWord_eq`: they agree with those on numbers. For the
  reader this needs that no group runs into another one or out of the word.
-/

namespace TxWire.Varint

/-! ### One byte -/

lemma payload_lt (b : UInt8) : payload b < 128 := Nat.mod_lt _ (by omega)

/-- The mask of the seven bits of a value. -/
lemma toNat_and_mask (b : UInt8) : (b &&& 0x7F).toNat = payload b := by
  rw [UInt8.toNat_and]
  exact Nat.and_two_pow_sub_one_eq_mod b.toNat 7

/-- The high bit is the one that announces another byte. -/
lemma and_high_eq_zero_iff (b : UInt8) : b &&& 0x80 = 0 ↔ continues b = false := by
  have hall : ∀ k : Fin 256,
      UInt8.ofNat k &&& 0x80 = 0 ↔ continues (UInt8.ofNat k) = false := by decide +kernel
  have hb := hall ⟨b.toNat, b.toNat_lt⟩
  rwa [UInt8.ofNat_toNat] at hb

lemma or_high_eq {n : ℕ} (h : n < 128) : UInt8.ofNat n ||| 0x80 = UInt8.ofNat (n + 128) := by
  have hall : ∀ k : Fin 128, UInt8.ofNat k ||| 0x80 = UInt8.ofNat (k + 128) := by decide +kernel
  exact hall ⟨n, h⟩

/-! ### The writer -/

lemma toNat_shiftRight_seven (v : UInt64) : (v >>> 7).toNat = v.toNat / 128 := by
  rw [UInt64.toNat_shiftRight]
  exact Nat.shiftRight_eq_div_pow v.toNat 7

/-- The groups of a word, shifted out one by one. -/
def encodeWord (v : UInt64) : List UInt8 :=
  if v >>> 7 = 0 then [v.toUInt8 &&& 0x7F]
  else (v.toUInt8 &&& 0x7F ||| 0x80) :: encodeWord (v >>> 7)
termination_by v.toNat
decreasing_by
  have hne : (v >>> 7).toNat ≠ 0 := fun h => ‹¬ v >>> 7 = 0› (UInt64.toNat_inj.mp h)
  rw [toNat_shiftRight_seven] at hne ⊢
  omega

/-- The low group of a word. -/
lemma toUInt8_and_mask (v : UInt64) : v.toUInt8 &&& 0x7F = UInt8.ofNat (v.toNat % 128) := by
  rw [← UInt8.toNat_inj, toNat_and_mask, payload, UInt64.toNat_toUInt8, UInt8.toNat_ofNat']
  omega

lemma encodeWord_eq (v : UInt64) : encodeWord v = encode v.toNat := by
  induction hn : v.toNat using Nat.strong_induction_on generalizing v with
  | _ n ih =>
    subst hn
    have hshift : v >>> 7 = 0 ↔ v.toNat / 128 = 0 := by
      rw [← UInt64.toNat_inj, toNat_shiftRight_seven, UInt64.toNat_zero]
    rcases Nat.lt_or_ge v.toNat 128 with h | h
    · rw [encodeWord, if_pos (hshift.mpr (by omega)), toUInt8_and_mask, Nat.mod_eq_of_lt h,
        encode_of_lt h]
    · have hrest := ih (v >>> 7).toNat (by rw [toNat_shiftRight_seven]; omega) (v >>> 7) rfl
      rw [encodeWord, if_neg (fun hzero => by have := hshift.mp hzero; omega), toUInt8_and_mask,
        or_high_eq (by omega), hrest, toNat_shiftRight_seven, encode_of_le h]

/-! ### The length -/

/-- The number of groups that hold the bits behind the zeros in front. -/
def wordLength (v : UInt64) : ℕ := (max (64 - v.toBitVec.clz.toNat) 1 + 6) / 7

lemma bitLength_eq (v : UInt64) : bitLength v.toNat = 64 - v.toBitVec.clz.toNat := by
  have hlt : v.toNat < 2 ^ (64 - v.toBitVec.clz.toNat) := BitVec.toNat_lt_two_pow_sub_clz
  rw [bitLength]
  split
  · next hzero =>
      have hclz : v.toBitVec.clz = 64 :=
        BitVec.clz_eq_iff_eq_zero.mpr (BitVec.eq_of_toNat_eq hzero)
      rw [hclz]
      rfl
  · next hne =>
      have hvec : v.toBitVec ≠ 0 := fun h => hne (congrArg BitVec.toNat h)
      have hclz : v.toBitVec.clz.toNat < 64 :=
        BitVec.lt_def.mp (BitVec.clz_lt_iff_ne_zero.mpr hvec)
      have hle : 2 ^ (63 - v.toBitVec.clz.toNat) ≤ v.toNat :=
        BitVec.two_pow_sub_clz_le_toNat_of_ne_zero (by omega) hvec
      have hlog : v.toNat.log2 = 63 - v.toBitVec.clz.toNat := by
        rw [Nat.log2_eq_iff hne, show 63 - v.toBitVec.clz.toNat + 1 = 64 - v.toBitVec.clz.toNat by
          omega]
        exact ⟨hle, hlt⟩
      omega

lemma wordLength_eq (v : UInt64) : wordLength v = encodedLength v.toNat := by
  rw [wordLength, encodedLength, bitLength_eq]

/-! ### The reader -/

/-- Reads on after `index` bytes whose groups make up a word. -/
def decodeWord (index : ℕ) (value : UInt64) : List UInt8 → Except Fault (UInt64 × ℕ)
  | [] => .error (.exhausted index)
  | b :: rest =>
    let group := (b &&& 0x7F).toUInt64
    let next := value ||| group <<< UInt64.ofNat (7 * index)
    if index = maxLength then .error .tooLong
    else if index = maxLength - 1 ∧ 1 < group then .error .overflow
    else if b &&& 0x80 = 0 then .ok (next, index + 1)
    else decodeWord (index + 1) next rest

/-- A group is set beside those that are there, and has room for all of its bits. -/
lemma toNat_or_shiftLeft {value : UInt64} {b : UInt8} {index : ℕ} (hindex : index < maxLength)
    (hvalue : value.toNat < 128 ^ index) (htenth : index = maxLength - 1 → payload b ≤ 1) :
    (value ||| (b &&& 0x7F).toUInt64 <<< UInt64.ofNat (7 * index)).toNat
      = value.toNat + payload b * 128 ^ index := by
  rw [maxLength] at hindex htenth
  have hlt := payload_lt b
  have hpow : 128 ^ index = 2 ^ (7 * index) := by rw [Nat.pow_mul]
  have hgroup : (b &&& 0x7F).toUInt64.toNat = payload b := by
    rw [UInt8.toNat_toUInt64, toNat_and_mask]
  have hamount : (UInt64.ofNat (7 * index)).toNat % 64 = 7 * index := by
    rw [UInt64.toNat_ofNat']
    omega
  have hroom : payload b * 2 ^ (7 * index) < 2 ^ 64 := by
    rcases Nat.lt_or_ge index 9 with hshort | hlong
    · calc payload b * 2 ^ (7 * index)
          ≤ 127 * 2 ^ 56 := Nat.mul_le_mul (by omega) (Nat.pow_le_pow_right (by omega) (by omega))
        _ < 2 ^ 64 := by decide
    · obtain rfl : index = 9 := by omega
      have := htenth rfl
      omega
  have hshift : ((b &&& 0x7F).toUInt64 <<< UInt64.ofNat (7 * index)).toNat
      = payload b <<< (7 * index) := by
    rw [UInt64.toNat_shiftLeft, hgroup, hamount, Nat.shiftLeft_eq, Nat.mod_eq_of_lt hroom]
  rw [hpow] at hvalue ⊢
  calc (value ||| (b &&& 0x7F).toUInt64 <<< UInt64.ofNat (7 * index)).toNat
      = value.toNat ||| payload b <<< (7 * index) := by rw [UInt64.toNat_or, hshift]
    _ = payload b <<< (7 * index) + value.toNat := by
      rw [Nat.or_comm, Nat.shiftLeft_add_eq_or_of_lt hvalue]
    _ = value.toNat + payload b * 2 ^ (7 * index) := by rw [Nat.shiftLeft_eq, Nat.add_comm]

/-- Both readers go on from the same value, group by group. -/
lemma decodeWord_eq_map {value : UInt64} {index : ℕ} (hindex : index ≤ maxLength)
    (hvalue : value.toNat < 128 ^ index) (bytes : List UInt8) :
    decodeWord index value bytes
      = (decodeFrom index value.toNat bytes).map fun (n, used) => (UInt64.ofNat n, used) := by
  induction bytes generalizing index value with
  | nil => rfl
  | cons b rest ih =>
      have hgroup : 1 < (b &&& 0x7F).toUInt64 ↔ 1 < payload b := by
        rw [UInt64.lt_iff_toNat_lt, UInt8.toNat_toUInt64, toNat_and_mask]
        rfl
      rw [decodeWord, decodeFrom]
      dsimp only
      by_cases hlong : index = maxLength
      · rw [if_pos hlong, if_pos hlong]
        rfl
      rw [if_neg hlong, if_neg hlong]
      by_cases hover : index = maxLength - 1 ∧ 1 < payload b
      · rw [if_pos hover, if_pos (hover.imp_right hgroup.mpr)]
        rfl
      have hnext : (value ||| (b &&& 0x7F).toUInt64 <<< UInt64.ofNat (7 * index)).toNat
          = value.toNat + payload b * Nat.pow 128 index :=
        toNat_or_shiftLeft (by omega) hvalue fun hten => by omega
      rw [if_neg hover, if_neg fun h => hover (h.imp_right hgroup.mp), ← hnext]
      cases hb : continues b with
      | false =>
          rw [if_pos ((and_high_eq_zero_iff b).mpr hb), if_neg Bool.false_ne_true]
          show _ = Except.ok (UInt64.ofNat _, index + 1)
          rw [UInt64.ofNat_toNat]
      | true =>
          have hhigh : ¬ b &&& 0x80 = 0 := fun hzero =>
            Bool.false_ne_true (((and_high_eq_zero_iff b).mp hzero).symm.trans hb)
          rw [if_neg hhigh, if_pos rfl]
          refine ih (by omega) ?_
          have hlt := payload_lt b
          calc (value ||| (b &&& 0x7F).toUInt64 <<< UInt64.ofNat (7 * index)).toNat
              = value.toNat + payload b * 128 ^ index := hnext
            _ < 128 ^ index + 127 * 128 ^ index :=
              Nat.add_lt_add_of_lt_of_le hvalue (Nat.mul_le_mul_right _ (by omega))
            _ = 128 ^ (index + 1) := by ring

lemma decodeWord_eq (bytes : List UInt8) : decodeWord 0 0 bytes = decode bytes :=
  decodeWord_eq_map (by decide) (by decide) bytes

end TxWire.Varint
