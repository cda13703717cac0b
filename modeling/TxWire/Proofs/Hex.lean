import Mathlib.Tactic
import TxWire.Bytes.Hex

/-!
Hexadecimal text, in both directions.

* `utf8Bytes_of_ascii`: the bytes of an ASCII text are the codes of its characters;
  `toNat_lt_of_utf8Bytes` recognises such a text by its bytes.
* `Hex.decode_encode`: what is written is read back, so the text determines the bytes
  (`Hex.encode_inj`).
* `Hex.exists_decode_iff`: what is read is an even number of digits and nothing else.
* `Hex.encode_of_decode`: writing what was read gives the text in lower case.
* `Hex.forall_isDigitCode_iff`: the digits among the bytes are those among the characters.
-/

namespace TxWire

/-! ### ASCII texts -/

/-- The code of an ASCII character. -/
def asciiCode (c : Char) : UInt8 := UInt8.ofNat c.toNat

lemma toNat_asciiCode {c : Char} (h : c.toNat < 128) : (asciiCode c).toNat = c.toNat := by
  rw [asciiCode, UInt8.toNat_ofNat', Nat.mod_eq_of_lt (by omega)]

lemma utf8EncodeChar_of_lt {c : Char} (h : c.toNat < 128) :
    String.utf8EncodeChar c = [asciiCode c] := by
  have hval : c.val.toNat ≤ 127 := Nat.le_of_lt_succ h
  rw [String.utf8EncodeChar, if_pos hval]
  rfl

/-- A character beyond ASCII starts with a byte beyond ASCII. -/
lemma exists_mem_utf8EncodeChar {c : Char} (h : 128 ≤ c.toNat) :
    ∃ b ∈ String.utf8EncodeChar c, 128 ≤ b.toNat := by
  have hval : 128 ≤ c.val.toNat := h
  rw [String.utf8EncodeChar]
  split_ifs <;> first | omega | exact ⟨_, List.mem_cons_self, by simp; omega⟩

lemma utf8Bytes_of_ascii {text : String} (h : ∀ c ∈ text.toList, c.toNat < 128) :
    utf8Bytes text = text.toList.map asciiCode := by
  rw [utf8Bytes, List.map_eq_flatMap]
  exact List.flatMap_congr fun c hc => utf8EncodeChar_of_lt (h c hc)

lemma toNat_lt_of_utf8Bytes {text : String} (h : ∀ b ∈ utf8Bytes text, b.toNat < 128) :
    ∀ c ∈ text.toList, c.toNat < 128 := by
  intro c hc
  by_contra hlt
  obtain ⟨b, hb, hle⟩ := exists_mem_utf8EncodeChar (Nat.le_of_not_lt hlt)
  have := h b (List.mem_flatMap.mpr ⟨c, hc, hb⟩)
  omega

namespace Hex

/-! ### One digit -/

lemma toNat_digit_lt {n : ℕ} (h : n < 16) : (digit n).toNat < 128 := by
  have hall : ∀ n < 16, (digit n).toNat < 128 := by decide
  exact hall n h

lemma value?_digit {n : ℕ} (h : n < 16) : value? (asciiCode (digit n)) = some n := by
  have hall : ∀ n < 16, value? (asciiCode (digit n)) = some n := by decide
  exact hall n h

/-- The character of a code in lower case. -/
def lowerChar (code : UInt8) : Char := (Char.ofNat code.toNat).toLower

/-- Only ASCII is read as a digit, which is then written in lower case. -/
lemma digit_of_value? {code : UInt8} {n : ℕ} (h : value? code = some n) :
    n < 16 ∧ code.toNat < 128 ∧ digit n = lowerChar code := by
  have hall : ∀ k : Fin 256, ∀ m ∈ value? (UInt8.ofNat k), m < 16 ∧ k.val < 128 ∧
      digit m = lowerChar (UInt8.ofNat k) := by decide +kernel
  have hcode := hall ⟨code.toNat, code.toNat_lt⟩ n
  rw [UInt8.ofNat_toNat] at hcode
  exact hcode h

/-! ### Writing, then reading -/

lemma utf8Bytes_encode (bytes : List UInt8) :
    utf8Bytes (encode bytes) = (digits bytes).map asciiCode := by
  have hdigits : ∀ c ∈ digits bytes, c.toNat < 128 := by
    intro c hc
    obtain ⟨b, -, hb⟩ := List.mem_flatMap.mp hc
    have hlt := b.toNat_lt
    rw [digitsOf, List.mem_pair] at hb
    obtain rfl | rfl := hb
    · exact toNat_digit_lt (by omega)
    · exact toNat_digit_lt (by omega)
  rw [encode, utf8Bytes_of_ascii (by rwa [String.toList_ofList]), String.toList_ofList]

lemma decodePairs_digits (position : ℕ) (bytes : List UInt8) :
    decodePairs position ((digits bytes).map asciiCode) = .ok bytes := by
  induction bytes generalizing position with
  | nil => rfl
  | cons b bytes ih =>
      have hlt := b.toNat_lt
      have hhigh : digitAt position (asciiCode (digit (b.toNat / 16))) = .ok (b.toNat / 16) := by
        rw [digitAt, value?_digit (by omega)]
      have hlow : digitAt (position + 1) (asciiCode (digit (b.toNat % 16)))
          = .ok (b.toNat % 16) := by
        rw [digitAt, value?_digit (by omega)]
      have hbyte : UInt8.ofNat (16 * (b.toNat / 16) + b.toNat % 16) = b := by
        rw [Nat.div_add_mod, UInt8.ofNat_toNat]
      show decodePairs position (asciiCode (digit (b.toNat / 16))
        :: asciiCode (digit (b.toNat % 16)) :: (digits bytes).map asciiCode) = _
      rw [decodePairs, hhigh, hlow, ih]
      show Except.ok (_ :: bytes) = _
      rw [hbyte]

lemma length_digits (bytes : List UInt8) : (digits bytes).length = 2 * bytes.length := by
  induction bytes with
  | nil => rfl
  | cons b bytes ih =>
      have hcons : digits (b :: bytes) = digitsOf b ++ digits bytes := rfl
      rw [hcons, List.length_append, ih, List.length_cons]
      show 2 + _ = _
      omega

/-- What is written is read back. -/
theorem decode_encode (bytes : List UInt8) : decode (encode bytes) = .ok bytes := by
  rw [decode, utf8Bytes_encode, decodeBytes, if_neg, decodePairs_digits]
  rw [List.length_map, length_digits]
  omega

lemma encode_inj {a b : List UInt8} : encode a = encode b ↔ a = b := by
  refine ⟨fun h => ?_, fun h => by rw [h]⟩
  have hread := decode_encode a
  rw [h, decode_encode b, Except.ok.injEq] at hread
  exact hread.symm

/-! ### Reading, then writing -/

/-- A pair is read if both are digits and the rest is read. -/
lemma decodePairs_cons_cons_eq_ok_iff {position : ℕ} {high low : UInt8} {rest data : List UInt8} :
    decodePairs position (high :: low :: rest) = .ok data ↔
      ∃ h l tail, value? high = some h ∧ value? low = some l
        ∧ decodePairs (position + 2) rest = .ok tail ∧ UInt8.ofNat (16 * h + l) :: tail = data := by
  rw [decodePairs, digitAt, digitAt]
  cases value? high with
  | none => simp [bind, Except.bind]
  | some h =>
      cases value? low with
      | none => simp [bind, Except.bind]
      | some l =>
          cases decodePairs (position + 2) rest <;> simp [bind, Except.bind, pure, Except.pure]

/-- An even number of digits is read, and nothing else is. -/
lemma exists_decodePairs_iff {position : ℕ} {text : List UInt8} (heven : text.length % 2 = 0) :
    (∃ data, decodePairs position text = .ok data) ↔ ∀ code ∈ text, isDigitCode code = true := by
  induction position, text using decodePairs.induct with
  | case1 position high low rest ih =>
      rw [List.length_cons, List.length_cons] at heven
      have hrest := ih (by omega)
      rw [List.forall_mem_cons, List.forall_mem_cons, ← hrest, isDigitCode, isDigitCode,
        Option.isSome_iff_exists, Option.isSome_iff_exists]
      constructor
      · rintro ⟨data, hdata⟩
        obtain ⟨h, l, tail, hhigh, hlow, htail, -⟩ := decodePairs_cons_cons_eq_ok_iff.mp hdata
        exact ⟨⟨h, hhigh⟩, ⟨l, hlow⟩, tail, htail⟩
      · rintro ⟨⟨h, hhigh⟩, ⟨l, hlow⟩, tail, htail⟩
        exact ⟨_, decodePairs_cons_cons_eq_ok_iff.mpr ⟨h, l, tail, hhigh, hlow, htail, rfl⟩⟩
  | case2 text position hpair =>
      match text, hpair, heven with
      | [], _, _ => exact iff_of_true ⟨[], rfl⟩ (by simp)
      | high :: low :: rest, hpair, _ => exact absurd rfl (hpair high low rest)

/-- The digits written for what was read are those that were read, in lower case. -/
lemma digits_of_decodePairs {position : ℕ} {text data : List UInt8}
    (heven : text.length % 2 = 0) (hread : decodePairs position text = .ok data) :
    digits data = text.map lowerChar := by
  induction position, text using decodePairs.induct generalizing data with
  | case1 position high low rest ih =>
      rw [List.length_cons, List.length_cons] at heven
      obtain ⟨h, l, tail, hhigh, hlow, htail, rfl⟩ := decodePairs_cons_cons_eq_ok_iff.mp hread
      obtain ⟨hh, -, hhchar⟩ := digit_of_value? hhigh
      obtain ⟨hl, -, hlchar⟩ := digit_of_value? hlow
      have hbyte : (UInt8.ofNat (16 * h + l)).toNat = 16 * h + l := by
        rw [UInt8.toNat_ofNat', Nat.mod_eq_of_lt (by omega)]
      have hpair : digitsOf (UInt8.ofNat (16 * h + l)) = [lowerChar high, lowerChar low] := by
        rw [digitsOf, hbyte, show (16 * h + l) / 16 = h by omega,
          show (16 * h + l) % 16 = l by omega, hhchar, hlchar]
      have htail := ih (by omega) htail
      rw [digits, List.flatMap_cons, hpair]
      show lowerChar high :: lowerChar low :: digits tail = _
      rw [htail]
      rfl
  | case2 text position hpair =>
      match text, hpair, heven with
      | [], _, _ =>
          rw [← Except.ok.inj hread]
          rfl
      | high :: low :: rest, hpair, _ => exact absurd rfl (hpair high low rest)

lemma isDigitCode_lt {code : UInt8} (h : isDigitCode code = true) : code.toNat < 128 := by
  obtain ⟨n, hn⟩ := Option.isSome_iff_exists.mp h
  exact (digit_of_value? hn).2.1

/-- Exactly the texts that consist of an even number of digits are read. -/
theorem exists_decode_iff {text : String} : (∃ data, decode text = .ok data) ↔
    (utf8Bytes text).length % 2 = 0 ∧ ∀ code ∈ utf8Bytes text, isDigitCode code = true := by
  rw [decode, decodeBytes]
  split
  · next hodd => exact iff_of_false (by simp) fun ⟨heven, _⟩ => by omega
  · next hodd =>
      have heven : (utf8Bytes text).length % 2 = 0 := by omega
      rw [exists_decodePairs_iff heven, and_iff_right heven]

/-- What was read is written as the text in lower case. -/
theorem encode_of_decode {text : String} {data : List UInt8} (h : decode text = .ok data) :
    encode data = text.map Char.toLower := by
  obtain ⟨heven, hcodes⟩ := exists_decode_iff.mp ⟨data, h⟩
  have hascii := toNat_lt_of_utf8Bytes fun b hb => isDigitCode_lt (hcodes b hb)
  have hlower : ∀ c ∈ text.toList, lowerChar (asciiCode c) = c.toLower := fun c hc => by
    rw [lowerChar, toNat_asciiCode (hascii c hc), Char.ofNat_toNat]
  rw [decode, decodeBytes, if_neg (by omega)] at h
  rw [encode, digits_of_decodePairs heven h, utf8Bytes_of_ascii hascii, List.map_map,
    ← String.ofList_toList (s := text.map Char.toLower), String.toList_map]
  exact congrArg String.ofList (List.map_congr_left hlower)

/-- Two digits are read for each byte. -/
lemma length_of_decode {text : String} {data : List UInt8} (h : decode text = .ok data) :
    (utf8Bytes text).length = 2 * data.length := by
  obtain ⟨heven, -⟩ := exists_decode_iff.mp ⟨data, h⟩
  rw [decode, decodeBytes, if_neg (by omega)] at h
  rw [← length_digits, digits_of_decodePairs heven h, List.length_map]

/-! ### Digits as characters -/

/-- A character is a hexadecimal digit, of either case. -/
def IsDigit (c : Char) : Prop :=
  ('0' ≤ c ∧ c ≤ '9') ∨ ('a' ≤ c ∧ c ≤ 'f') ∨ ('A' ≤ c ∧ c ≤ 'F')

instance (c : Char) : Decidable (IsDigit c) := inferInstanceAs (Decidable (_ ∨ _))

lemma isDigit_iff_toNat {c : Char} : IsDigit c ↔ (48 ≤ c.toNat ∧ c.toNat ≤ 57)
    ∨ (97 ≤ c.toNat ∧ c.toNat ≤ 102) ∨ (65 ≤ c.toNat ∧ c.toNat ≤ 70) := Iff.rfl

lemma toNat_lt_of_isDigit {c : Char} (h : IsDigit c) : c.toNat < 128 := by
  rw [isDigit_iff_toNat] at h
  omega

/-- Digits are told by their codes. -/
lemma isDigitCode_asciiCode_iff {c : Char} (h : c.toNat < 128) :
    isDigitCode (asciiCode c) = true ↔ IsDigit c := by
  rw [isDigitCode, value?, toNat_asciiCode h, isDigit_iff_toNat]
  split_ifs <;> simp <;> omega

/-- A text has only digits for bytes if it has only digits for characters. -/
lemma forall_isDigitCode_iff {text : String} :
    (∀ code ∈ utf8Bytes text, isDigitCode code = true) ↔ ∀ c ∈ text.toList, IsDigit c := by
  constructor
  · intro hcodes c hc
    have hascii := toNat_lt_of_utf8Bytes fun b hb => isDigitCode_lt (hcodes b hb)
    rw [utf8Bytes_of_ascii hascii] at hcodes
    exact (isDigitCode_asciiCode_iff (hascii c hc)).mp (hcodes _ (List.mem_map_of_mem hc))
  · intro hdigits code hcode
    rw [utf8Bytes_of_ascii fun c hc => toNat_lt_of_isDigit (hdigits c hc)] at hcode
    obtain ⟨c, hc, rfl⟩ := List.mem_map.mp hcode
    exact (isDigitCode_asciiCode_iff (toNat_lt_of_isDigit (hdigits c hc))).mpr (hdigits c hc)

lemma length_utf8Bytes_of_isDigit {text : String} (h : ∀ c ∈ text.toList, IsDigit c) :
    (utf8Bytes text).length = text.length := by
  rw [utf8Bytes_of_ascii fun c hc => toNat_lt_of_isDigit (h c hc), List.length_map,
    String.length_toList]

end Hex

end TxWire
