import Mathlib.Data.Nat.Digits.Lemmas
import TxWire.Proofs.Varint.Words

/-!
The reader of variable-length numbers, and what it has in common with the writer.

* `groupsValue`: the number that groups of seven bits make up; `Row`: bytes that announce another
  one, then one that does not.
* `exists_row_encode`: the writer makes rows, and never pads them. `Row.bytes_eq_encode_iff` says
  that all other rows are padded.
* `decodeFrom_append`: the reader takes the bytes that announce another one, and adds up what they
  carry. How reading ends follows from it: `decode_row` for rows that fit, `Refused.decode_eq` for
  the three ways to be refused, and `decode_cases` says that there is nothing else.
* `decode_exact`: the writer and the reader for every number and every byte string.
-/

namespace TxWire.Varint

/-! ### Groups of seven bits -/

lemma toNat_of_continues {b : UInt8} (h : continues b = true) : b.toNat = payload b + 128 := by
  have hlt := b.toNat_lt
  rw [continues, decide_eq_true_eq] at h
  rw [payload]
  omega

lemma toNat_of_not_continues {b : UInt8} (h : continues b = false) : b.toNat = payload b := by
  rw [continues, decide_eq_false_iff_not] at h
  rw [payload]
  omega

/-- The number that groups make up, the lowest group first. -/
def groupsValue (groups : List UInt8) : ℕ := (groups.mapIdx fun i b => payload b * 128 ^ i).sum

lemma groupsValue_eq_ofDigits (groups : List UInt8) :
    groupsValue groups = Nat.ofDigits 128 (groups.map payload) := by
  rw [Nat.ofDigits_eq_sum_mapIdx, groupsValue]
  exact congrArg List.sum (List.ext_getElem? fun i => by simp [Function.comp_def])

@[simp] lemma groupsValue_nil : groupsValue [] = 0 := rfl

lemma groupsValue_cons (b : UInt8) (groups : List UInt8) :
    groupsValue (b :: groups) = payload b + 128 * groupsValue groups := by
  rw [groupsValue_eq_ofDigits, groupsValue_eq_ofDigits, List.map_cons, Nat.ofDigits_cons]

lemma groupsValue_concat (groups : List UInt8) (b : UInt8) :
    groupsValue (groups ++ [b]) = groupsValue groups + 128 ^ groups.length * payload b := by
  rw [groupsValue_eq_ofDigits, groupsValue_eq_ofDigits, List.map_append, Nat.ofDigits_append,
    List.length_map, List.map_singleton, Nat.ofDigits_singleton]

lemma groupsValue_lt (groups : List UInt8) : groupsValue groups < 128 ^ groups.length := by
  rw [groupsValue_eq_ofDigits, ← List.length_map payload]
  refine Nat.ofDigits_lt_base_pow_length (by omega) fun n hn => ?_
  obtain ⟨b, -, rfl⟩ := List.mem_map.mp hn
  exact payload_lt b

/-! ### Rows of groups -/

/-- A row of groups: bytes that announce another one, then one that does not. -/
structure Row where
  front : List UInt8
  last : UInt8
  continues_front : ∀ b ∈ front, continues b = true
  continues_last : continues last = false

namespace Row

/-- The bytes of a row. -/
def bytes (r : Row) : List UInt8 := r.front ++ [r.last]

/-- The number that a row says. -/
def value (r : Row) : ℕ := groupsValue r.bytes

/-- The last group is there for a reason. -/
def Minimal (r : Row) : Prop := r.front = [] ∨ r.last ≠ 0

/-- The tenth byte, if there is one, is the last and has the one bit that is left. -/
def Fits (r : Row) : Prop :=
  r.bytes.length ≤ maxLength ∧ (r.bytes.length = maxLength → r.last.toNat ≤ 1)

variable (r : Row)

lemma length_bytes : r.bytes.length = r.front.length + 1 := by
  rw [bytes, List.length_append, List.length_singleton]

lemma value_eq : r.value = groupsValue r.front + 128 ^ r.front.length * r.last.toNat := by
  rw [value, bytes, groupsValue_concat, ← toNat_of_not_continues r.continues_last]

variable {r}

/-- Two rows with the same bytes end with the same group. -/
lemma eq_of_bytes_eq {s : Row} (h : r.bytes = s.bytes) : r.front = s.front ∧ r.last = s.last := by
  obtain ⟨hfront, hlast⟩ := List.append_inj' h rfl
  exact ⟨hfront, List.singleton_inj.mp hlast⟩

/-- A last group that is not zero counts for as much as its place says. -/
lemma pow_le_value (h : r.last ≠ 0) : 128 ^ r.front.length ≤ r.value := by
  have hlast : 1 ≤ r.last.toNat := by
    by_contra hzero
    exact h (UInt8.toNat_inj.mp (by rw [UInt8.toNat_zero]; omega))
  calc 128 ^ r.front.length
      ≤ 128 ^ r.front.length * r.last.toNat := Nat.le_mul_of_pos_right _ hlast
    _ ≤ r.value := by rw [value_eq]; exact Nat.le_add_left _ _

/-- Rows that fit say numbers of 64 bits, so nothing is lost of what the groups carry. -/
lemma Fits.value_lt (h : r.Fits) : r.value < UInt64.size := by
  obtain ⟨hlength, htenth⟩ := h
  rw [length_bytes] at hlength htenth
  have hfront := groupsValue_lt r.front
  rw [value_eq]
  rcases Nat.lt_or_ge r.front.length 9 with hshort | hlong
  · have hlast : r.last.toNat < 128 := by
      rw [toNat_of_not_continues r.continues_last]
      exact payload_lt r.last
    calc groupsValue r.front + 128 ^ r.front.length * r.last.toNat
        < 128 ^ r.front.length + 128 ^ r.front.length * r.last.toNat := by omega
      _ = 128 ^ r.front.length * (1 + r.last.toNat) := by ring
      _ ≤ 128 ^ 8 * 128 := Nat.mul_le_mul (Nat.pow_le_pow_right (by omega) (by omega)) (by omega)
      _ < UInt64.size := by decide
  · have hnine : r.front.length = 9 := by
      rw [maxLength] at hlength
      omega
    have hlast := htenth (by rw [hnine, maxLength])
    rw [hnine] at hfront ⊢
    have hsize : UInt64.size = 128 ^ 9 + 128 ^ 9 := by decide
    omega

/-- A number of 64 bits that is not padded fits. -/
lemma Minimal.fits (h : r.Minimal) (hvalue : r.value < UInt64.size) : r.Fits := by
  rw [Fits, length_bytes]
  obtain hnil | hlast := h
  · rw [hnil, List.length_nil, maxLength]
    exact ⟨by omega, fun hten => absurd hten (by omega)⟩
  · have hlength : r.front.length < 10 := by
      have hpow : 128 ^ r.front.length < 128 ^ 10 :=
        calc 128 ^ r.front.length ≤ r.value := pow_le_value hlast
          _ < UInt64.size := hvalue
          _ < 128 ^ 10 := by decide
      exact (Nat.pow_lt_pow_iff_right (by omega)).mp hpow
    rw [maxLength]
    refine ⟨by omega, fun hten => ?_⟩
    have hnine : r.front.length = 9 := by omega
    rw [value_eq, hnine] at hvalue
    have hsize : UInt64.size = 128 ^ 9 * 2 := by decide
    omega

end Row

/-! ### The writer makes rows -/

/-- What is written is a row that is not padded. -/
lemma exists_row_encode (n : ℕ) : ∃ r : Row, r.bytes = encode n ∧ r.value = n ∧ r.Minimal := by
  induction n using Nat.strong_induction_on with
  | _ n ih =>
    rcases Nat.lt_or_ge n 128 with h | h
    · have htoNat : (UInt8.ofNat n).toNat = n := by
        rw [UInt8.toNat_ofNat', Nat.mod_eq_of_lt (by omega)]
      let r : Row :=
        { front := [], last := UInt8.ofNat n
          continues_front := by simp
          continues_last := by rw [continues, htoNat, decide_eq_false_iff_not]; omega }
      have hvalue : r.value = n := by
        rw [r.value_eq]
        show 0 + 128 ^ 0 * (UInt8.ofNat n).toNat = n
        rw [htoNat]
        omega
      exact ⟨r, (encode_of_lt h).symm, hvalue, .inl rfl⟩
    · obtain ⟨rest, hbytes, hvalue, hminimal⟩ := ih (n / 128) (by omega)
      have htoNat : (UInt8.ofNat (n % 128 + 128)).toNat = n % 128 + 128 := by
        rw [UInt8.toNat_ofNat', Nat.mod_eq_of_lt (by omega)]
      have hlast : rest.last ≠ 0 := by
        obtain hnil | hlast := hminimal
        · rintro hzero
          rw [rest.value_eq, hnil, hzero] at hvalue
          have : 0 = n / 128 := hvalue
          omega
        · exact hlast
      let r : Row :=
        { front := UInt8.ofNat (n % 128 + 128) :: rest.front, last := rest.last
          continues_front := List.forall_mem_cons.mpr
            ⟨by rw [continues, htoNat, decide_eq_true_eq]; omega, rest.continues_front⟩
          continues_last := rest.continues_last }
      have hr : r.bytes = UInt8.ofNat (n % 128 + 128) :: rest.bytes := rfl
      refine ⟨r, by rw [hr, hbytes, encode_of_le h], ?_, .inr hlast⟩
      have hrest : groupsValue rest.bytes = n / 128 := hvalue
      rw [Row.value, hr, groupsValue_cons, hrest, payload, htoNat]
      omega

/-- A row that is not padded is what is written for its number. -/
lemma encode_groupsValue {front : List UInt8} {last : UInt8}
    (hfront : ∀ b ∈ front, continues b = true) (hlast : continues last = false)
    (hminimal : front = [] ∨ last ≠ 0) :
    encode (groupsValue (front ++ [last])) = front ++ [last] := by
  induction front with
  | nil =>
      have hvalue : groupsValue [last] = last.toNat := by
        rw [groupsValue_cons, ← toNat_of_not_continues hlast, groupsValue_nil]
        omega
      have hlt : last.toNat < 128 := by
        rw [toNat_of_not_continues hlast]
        exact payload_lt last
      rw [List.nil_append, hvalue, encode_of_lt hlt, UInt8.ofNat_toNat]
  | cons b front ih =>
      have hne : last ≠ 0 := hminimal.resolve_left (List.cons_ne_nil b front)
      obtain ⟨hb, hfront⟩ := List.forall_mem_cons.mp hfront
      have hrest := ih hfront (.inr hne)
      -- without padding the groups behind the first are not all zero
      have hpos : 0 < groupsValue (front ++ [last]) := by
        have hle := Row.pow_le_value (r := ⟨front, last, hfront, hlast⟩) hne
        exact lt_of_lt_of_le (Nat.pow_pos (by omega)) hle
      have hlt := payload_lt b
      rw [List.cons_append, groupsValue_cons, encode_of_le (by omega),
        show (payload b + 128 * groupsValue (front ++ [last])) % 128 = payload b by omega,
        show (payload b + 128 * groupsValue (front ++ [last])) / 128
          = groupsValue (front ++ [last]) by omega,
        hrest, ← toNat_of_continues hb, UInt8.ofNat_toNat]

/-- The rows that the writer makes are those that are not padded. -/
lemma Row.bytes_eq_encode_iff (r : Row) : r.bytes = encode r.value ↔ r.Minimal := by
  constructor
  · intro h
    obtain ⟨s, hbytes, -, hminimal⟩ := exists_row_encode r.value
    obtain ⟨hfront, hlast⟩ := Row.eq_of_bytes_eq (h.trans hbytes.symm)
    rw [Row.Minimal, hfront, hlast]
    exact hminimal
  · intro hminimal
    exact (encode_groupsValue r.continues_front r.continues_last hminimal).symm

/-- Of all groups that make up a number, the writer makes the fewest. -/
lemma encodedLength_groupsValue_le {groups : List UInt8} (h : groups ≠ []) :
    encodedLength (groupsValue groups) ≤ groups.length := by
  induction groups with
  | nil => exact absurd rfl h
  | cons b groups ih =>
      have hlt := payload_lt b
      rw [groupsValue_cons, List.length_cons]
      rcases Nat.eq_zero_or_pos (groupsValue groups) with hzero | hpos
      · rw [hzero, encodedLength_of_lt (by omega)]
        omega
      · have hne : groups ≠ [] := by
          rintro rfl
          exact absurd hpos (by simp)
        rw [encodedLength_of_le (by omega),
          show (payload b + 128 * groupsValue groups) / 128 = groupsValue groups by omega]
        exact Nat.add_le_add_right (ih hne) 1

/-! ### The reader takes rows -/

/-- The tenth byte, if there is one, carries no more than the one bit that is left. -/
def TenthFits (bytes : List UInt8) : Prop :=
  ∀ tenth, bytes[maxLength - 1]? = some tenth → payload tenth ≤ 1

/-- The reader goes past bytes that announce another one, and adds up what they carry. -/
lemma decodeFrom_append {front : List UInt8} (rest : List UInt8) {index : ℕ} (value : ℕ)
    (hfront : ∀ b ∈ front, continues b = true) (hlength : index + front.length ≤ maxLength)
    (htenth : ∀ i b, front[i]? = some b → index + i = maxLength - 1 → payload b ≤ 1) :
    decodeFrom index value (front ++ rest)
      = decodeFrom (index + front.length) (value + 128 ^ index * groupsValue front) rest := by
  induction front generalizing index value with
  | nil => simp
  | cons b front ih =>
      obtain ⟨hb, hfront⟩ := List.forall_mem_cons.mp hfront
      rw [List.length_cons] at hlength
      have hpayload : ¬ (index = maxLength - 1 ∧ 1 < payload b) := fun ⟨hindex, hlt⟩ => by
        have := htenth 0 b rfl hindex
        omega
      have hrest := ih (value + payload b * Nat.pow 128 index) hfront
        (show index + 1 + front.length ≤ maxLength by omega)
        fun i c hc hi => htenth (i + 1) c hc (by omega)
      have hvalue : value + payload b * Nat.pow 128 index + 128 ^ (index + 1) * groupsValue front
          = value + 128 ^ index * groupsValue (b :: front) := by
        show value + payload b * 128 ^ index + _ = _
        rw [groupsValue_cons]
        ring
      rw [List.cons_append, decodeFrom, if_neg (by omega), if_neg hpayload, if_pos hb, hrest,
        hvalue, List.length_cons, Nat.add_right_comm, Nat.add_assoc]

/-- The same from the start, where what was read before is nothing. -/
lemma decodeFrom_zero_append {front : List UInt8} (rest : List UInt8)
    (hfront : ∀ b ∈ front, continues b = true) (hlength : front.length ≤ maxLength)
    (htenth : TenthFits front) :
    decodeFrom 0 0 (front ++ rest) = decodeFrom front.length (groupsValue front) rest := by
  have h := decodeFrom_append rest 0 hfront (show 0 + front.length ≤ maxLength by omega)
    fun i b hb hi => htenth b (by rw [← hi, Nat.zero_add]; exact hb)
  rwa [Nat.zero_add, Nat.zero_add, Nat.pow_zero, Nat.one_mul] at h

lemma decode_of_error {bytes : List UInt8} {fault : Fault}
    (h : decodeFrom 0 0 bytes = .error fault) : decode bytes = .error fault := by
  rw [decode, h]
  rfl

/-- A row that fits is read, and what follows it is left alone. -/
lemma decode_row {r : Row} (h : r.Fits) (rest : List UInt8) :
    decode (r.bytes ++ rest) = .ok (UInt64.ofNat r.value, r.bytes.length) := by
  obtain ⟨hlength, htenth⟩ := h
  rw [r.length_bytes] at hlength htenth
  have hlast := toNat_of_not_continues r.continues_last
  have hpast := decodeFrom_zero_append (r.last :: rest) r.continues_front (by omega)
    fun tenth hnine => by
      obtain ⟨hlt, -⟩ := List.getElem?_eq_some_iff.mp hnine
      omega
  have hread : decodeFrom 0 0 (r.bytes ++ rest) = .ok (r.value, r.bytes.length) := by
    have hpayload : ¬ (r.front.length = maxLength - 1 ∧ 1 < payload r.last) :=
      fun ⟨hindex, hlt⟩ => by
        rw [maxLength] at hindex htenth
        have := htenth (by omega)
        omega
    rw [r.length_bytes, r.value_eq, Row.bytes, List.append_assoc, List.singleton_append, hpast,
      decodeFrom, if_neg (by omega), if_neg hpayload, if_neg (by simp [r.continues_last]), hlast,
      Nat.mul_comm (128 ^ r.front.length)]
    rfl
  rw [decode, hread]
  rfl

/-- Why a byte string does not start with a number that fits. -/
inductive Refused (bytes : List UInt8) : Fault → Prop
  /-- Every byte announces another one, and the last one still could. -/
  | exhausted (continues_all : ∀ b ∈ bytes, continues b = true)
      (length_le : bytes.length ≤ maxLength) (tenth_fits : TenthFits bytes) :
      Refused bytes (.exhausted bytes.length)
  /-- The number goes on to a tenth byte that carries too much. -/
  | overflow (tenth : UInt8)
      (continues_nine : ∀ b ∈ bytes.take (maxLength - 1), continues b = true)
      (tenth_eq : bytes[maxLength - 1]? = some tenth) (not_fits : 1 < payload tenth) :
      Refused bytes .overflow
  /-- The number goes on to an eleventh byte. -/
  | tooLong (continues_ten : ∀ b ∈ bytes.take maxLength, continues b = true)
      (lt_length : maxLength < bytes.length) (tenth_fits : TenthFits bytes) :
      Refused bytes .tooLong

lemma Refused.decode_eq {bytes : List UInt8} {fault : Fault} (h : Refused bytes fault) :
    decode bytes = .error fault := by
  refine decode_of_error ?_
  cases h with
  | exhausted hall hlength htenth =>
      have hpast := decodeFrom_zero_append [] hall hlength htenth
      rw [List.append_nil] at hpast
      rw [hpast, decodeFrom]
  | overflow tenth hnine htenth hlt =>
      obtain ⟨hlength, hget⟩ := List.getElem?_eq_some_iff.mp htenth
      have htake : (bytes.take (maxLength - 1)).length = maxLength - 1 :=
        List.length_take_of_le hlength.le
      have hpast := decodeFrom_zero_append (bytes.drop (maxLength - 1)) hnine
        (by rw [htake]; omega) fun b hb => by
          obtain ⟨hb, -⟩ := List.getElem?_eq_some_iff.mp hb
          omega
      rw [List.take_append_drop, List.drop_eq_getElem_cons hlength, hget, htake] at hpast
      rw [hpast, decodeFrom, if_neg (by decide), if_pos ⟨rfl, hlt⟩]
  | tooLong hten hlength htenth =>
      have htake : (bytes.take maxLength).length = maxLength :=
        List.length_take_of_le hlength.le
      have hpast := decodeFrom_zero_append (bytes.drop maxLength) hten
        (by rw [htake]) fun b hb => by
          rw [List.getElem?_take_of_lt (by decide)] at hb
          exact htenth b hb
      rw [List.take_append_drop, List.drop_eq_getElem_cons hlength, htake] at hpast
      rw [hpast, decodeFrom, if_pos rfl]

/-- Among the first bytes of a string there is the end of a row, or else all of them announce
another one. -/
lemma exists_row_or_continues (n : ℕ) (bytes : List UInt8) :
    (∃ (r : Row) (rest : List UInt8), bytes = r.bytes ++ rest ∧ r.bytes.length ≤ n)
      ∨ ∀ b ∈ bytes.take n, continues b = true := by
  induction bytes generalizing n with
  | nil => exact .inr (by simp)
  | cons b bytes ih =>
      cases n with
      | zero => exact .inr (by simp)
      | succ n =>
          cases hb : continues b with
          | false => exact .inl ⟨⟨[], b, by simp, hb⟩, bytes, rfl, Nat.succ_le_succ n.zero_le⟩
          | true =>
              obtain ⟨r, rest, hbytes, hlength⟩ | hall := ih n
              · refine .inl ⟨⟨b :: r.front, r.last, ?_, r.continues_last⟩, rest, ?_, ?_⟩
                · exact List.forall_mem_cons.mpr ⟨hb, r.continues_front⟩
                · rw [hbytes]
                  rfl
                · exact Nat.succ_le_succ hlength
              · rw [List.take_succ_cons]
                exact .inr (List.forall_mem_cons.mpr ⟨hb, hall⟩)

/-- A byte string starts with a row that fits, or is refused for one of three reasons. -/
lemma decode_cases (bytes : List UInt8) :
    (∃ (r : Row) (rest : List UInt8), r.Fits ∧ bytes = r.bytes ++ rest)
      ∨ ∃ fault, Refused bytes fault := by
  obtain ⟨r, rest, hbytes, hlength⟩ | hten := exists_row_or_continues maxLength bytes
  · by_cases htenth : r.bytes.length = maxLength → r.last.toNat ≤ 1
    · exact .inl ⟨r, rest, ⟨hlength, htenth⟩, hbytes⟩
    · obtain ⟨hten, hlast⟩ := Classical.not_imp.mp htenth
      rw [r.length_bytes] at hten
      have hnine : maxLength - 1 = r.front.length := by omega
      refine .inr ⟨.overflow, .overflow r.last ?_ ?_ ?_⟩
      · rw [hbytes, Row.bytes, List.append_assoc, hnine, List.take_left]
        exact r.continues_front
      · rw [hbytes, Row.bytes, List.append_assoc, hnine, List.getElem?_append_right le_rfl,
          Nat.sub_self]
        rfl
      · rw [← toNat_of_not_continues r.continues_last]
        omega
  · right
    by_cases htenth : TenthFits bytes
    · rcases Nat.lt_or_ge maxLength bytes.length with hlong | hshort
      · exact ⟨.tooLong, .tooLong hten hlong htenth⟩
      · rw [List.take_of_length_le hshort] at hten
        exact ⟨_, .exhausted hten hshort htenth⟩
    · obtain ⟨tenth, hget, hlt⟩ : ∃ tenth, bytes[maxLength - 1]? = some tenth ∧
          ¬ payload tenth ≤ 1 := by
        simpa [TenthFits] using htenth
      refine ⟨.overflow, .overflow tenth (fun b hb => hten b ?_) hget (by omega)⟩
      exact (List.take_subset_take_left bytes (by decide)) hb

/-- The reader accepts exactly the rows that fit, and gives the number that they say. -/
theorem decode_eq_ok_iff {bytes : List UInt8} {v : UInt64} {used : ℕ} :
    decode bytes = .ok (v, used) ↔
      ∃ r : Row, r.Fits ∧ r.bytes <+: bytes ∧ used = r.bytes.length ∧ v.toNat = r.value := by
  constructor
  · intro h
    obtain ⟨r, rest, hfits, hbytes⟩ | ⟨fault, hrefused⟩ := decode_cases bytes
    · rw [hbytes, decode_row hfits, Except.ok.injEq, Prod.mk.injEq] at h
      obtain ⟨rfl, rfl⟩ := h
      refine ⟨r, hfits, ⟨rest, hbytes.symm⟩, rfl, ?_⟩
      rw [UInt64.toNat_ofNat', Nat.mod_eq_of_lt hfits.value_lt]
    · rw [hrefused.decode_eq] at h
      exact absurd h (by simp)
  · rintro ⟨r, hfits, ⟨rest, rfl⟩, rfl, hv⟩
    rw [decode_row hfits, ← hv, UInt64.ofNat_toNat]

lemma decode_eq_error_iff {bytes : List UInt8} {fault : Fault} :
    decode bytes = .error fault ↔ Refused bytes fault := by
  refine ⟨fun h => ?_, Refused.decode_eq⟩
  obtain ⟨r, rest, hfits, hbytes⟩ | ⟨fault', hrefused⟩ := decode_cases bytes
  · rw [hbytes, decode_row hfits] at h
    exact absurd h (by simp)
  · rw [hrefused.decode_eq, Except.error.injEq] at h
    rwa [← h]

/-! ### Both together -/

/-- The writer's row fits for every number of 64 bits. -/
lemma exists_row_encode_of_lt {n : ℕ} (h : n < UInt64.size) :
    ∃ r : Row, r.bytes = encode n ∧ r.value = n ∧ r.Fits := by
  obtain ⟨r, hbytes, hvalue, hminimal⟩ := exists_row_encode n
  exact ⟨r, hbytes, hvalue, hminimal.fits (by rw [hvalue]; exact h)⟩

/-- What is written is read back, whatever follows. -/
theorem decode_encode_append (v : UInt64) (tail : List UInt8) :
    decode (encode v.toNat ++ tail) = .ok (v, encodedLength v.toNat) := by
  obtain ⟨r, hbytes, hvalue, hfits⟩ := exists_row_encode_of_lt v.toNat_lt
  rw [← hbytes, decode_row hfits, hvalue, UInt64.ofNat_toNat, hbytes, length_encode]

/-- No byte string that says a number is shorter than the one that is written for it. -/
lemma length_encode_le_of_decode {bytes : List UInt8} {v : UInt64} {used : ℕ}
    (h : decode bytes = .ok (v, used)) : (encode v.toNat).length ≤ bytes.length := by
  obtain ⟨r, -, hprefix, -, hvalue⟩ := decode_eq_ok_iff.mp h
  have hne : r.bytes ≠ [] := List.append_ne_nil_of_right_ne_nil _ (List.cons_ne_nil _ _)
  calc (encode v.toNat).length
      = encodedLength (groupsValue r.bytes) := by rw [length_encode, hvalue, Row.value]
    _ ≤ r.bytes.length := encodedLength_groupsValue_le hne
    _ ≤ bytes.length := hprefix.length_le

/-- What was read is what would be written, unless it is padded with groups of zeros. -/
lemma take_eq_encode_iff_of_decode {bytes : List UInt8} {v : UInt64} {used : ℕ}
    (h : decode bytes = .ok (v, used)) :
    bytes.take used = encode v.toNat ↔ used = 1 ∨ bytes[used - 1]? ≠ some 0 := by
  obtain ⟨r, -, ⟨rest, rfl⟩, rfl, hvalue⟩ := decode_eq_ok_iff.mp h
  have hlast : (r.bytes ++ rest)[r.bytes.length - 1]? = some r.last := by
    rw [List.getElem?_append_left (by rw [r.length_bytes]; omega), r.length_bytes, Row.bytes,
      Nat.add_sub_cancel, List.getElem?_append_right le_rfl, Nat.sub_self]
    rfl
  rw [List.take_left, hvalue, r.bytes_eq_encode_iff, hlast, r.length_bytes, Row.Minimal,
    Nat.add_eq_right, List.length_eq_zero_iff, (Option.some_injective UInt8).ne_iff]

/-- **Variable-length numbers, exactly.** What is written for a number of 64 bits is read back,
whatever follows; it is a row of groups, of the computed length, and no shorter byte string says
the number. The reader accepts exactly the byte strings that start with a row of ten bytes at
most, the tenth being at most one, and gives the number that the row says, with no bit lost, and
its length. What it has read is what would be written exactly if that is one byte or does not end
with a zero. All other byte strings are refused, for one of three reasons. On words, with shifts,
masks and leading zeros, all of this comes to the same. -/
theorem decode_exact :
    (∀ (v : UInt64) (tail : List UInt8),
      decode (encode v.toNat ++ tail) = .ok (v, encodedLength v.toNat))
    ∧ (∀ v : UInt64, (encode v.toNat).length = encodedLength v.toNat
      ∧ ∃ r : Row, encode v.toNat = r.bytes)
    ∧ (∀ (v : UInt64) (bytes : List UInt8) (used : ℕ), decode bytes = .ok (v, used) →
      (encode v.toNat).length ≤ bytes.length)
    ∧ (∀ (bytes : List UInt8) (v : UInt64) (used : ℕ), decode bytes = .ok (v, used) ↔
      ∃ r : Row, r.Fits ∧ r.bytes <+: bytes ∧ used = r.bytes.length ∧ v.toNat = r.value)
    ∧ (∀ (bytes : List UInt8) (v : UInt64) (used : ℕ), decode bytes = .ok (v, used) →
      (bytes.take used = encode v.toNat ↔ used = 1 ∨ bytes[used - 1]? ≠ some 0))
    ∧ (∀ (bytes : List UInt8) (fault : Fault), decode bytes = .error fault ↔
      Refused bytes fault)
    ∧ (∀ v : UInt64, encodeWord v = encode v.toNat ∧ wordLength v = encodedLength v.toNat)
    ∧ ∀ bytes : List UInt8, decodeWord 0 0 bytes = decode bytes := by
  refine ⟨decode_encode_append, fun v => ⟨length_encode _, ?_⟩,
    fun _ _ _ => length_encode_le_of_decode, fun _ _ _ => decode_eq_ok_iff,
    fun _ _ _ => take_eq_encode_iff_of_decode, fun _ _ => decode_eq_error_iff,
    fun v => ⟨encodeWord_eq v, wordLength_eq v⟩, decodeWord_eq⟩
  obtain ⟨r, hbytes, -⟩ := exists_row_encode v.toNat
  exact ⟨r, hbytes.symm⟩

/-- The largest number takes ten bytes, of which the tenth is one. Zero padded to ten bytes is
read as well, though one byte would do. -/
theorem decode_exact_ten_bytes :
    let largest : List UInt8 := List.replicate 9 255 ++ [1]
    let padded : List UInt8 := List.replicate 9 128 ++ [0]
    decode largest = .ok (UInt64.ofNat (UInt64.size - 1), 10)
      ∧ largest.take 10 = encode (UInt64.size - 1)
      ∧ decode padded = .ok (0, 10) ∧ padded.take 10 ≠ encode 0
      ∧ (encode 0).length ≤ padded.length := by
  intro largest padded
  obtain ⟨-, -, hshort, -, htake, -⟩ := decode_exact
  have hlargest : decode largest = .ok (UInt64.ofNat (UInt64.size - 1), 10) := by decide +kernel
  have hpadded : decode padded = .ok (0, 10) := by decide +kernel
  refine ⟨hlargest, ?_, hpadded, ?_, hshort 0 padded 10 hpadded⟩
  · exact (htake largest _ 10 hlargest).mpr (.inr (by decide))
  · intro heq
    exact absurd ((htake padded 0 10 hpadded).mp heq) (by decide)

end TxWire.Varint
