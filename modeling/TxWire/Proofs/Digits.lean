import Mathlib.Tactic
import TxWire.Text.Basic
import TxWire.Time.Display

/-!
Decimal numbers as they are written, and the rows of digits that readers take off a text.

* `ofDigits_toDigits`, `ofDigits_padded`: the number written is the number read, with or without
  zeros in front.
* `EndsNumber`: a text that does not go on with a digit; `takeWhile_isDigit_append` says that a
  row of digits in front of such a text is taken off as a whole.
-/

namespace TxWire

/-! ### Digits -/

/-- There are ten digits. -/
lemma exists_digitChar_of_isDigit {c : Char} (h : c.isDigit = true) :
    ∃ d < 10, c = Nat.digitChar d := by
  rw [Char.isDigit, Bool.and_eq_true, decide_eq_true_eq, decide_eq_true_eq] at h
  have hlo : 48 ≤ c.toNat := h.1
  have hhi : c.toNat ≤ 57 := h.2
  have hall : ∀ k < 58, 48 ≤ k → Char.ofNat k = Nat.digitChar (k - 48) := by decide
  refine ⟨c.toNat - 48, by omega, ?_⟩
  rw [← hall c.toNat (by omega) hlo, Char.ofNat_toNat]

lemma digitValue_eq {c : Char} (h : c.isDigit = true) : digitValue c = c.toNat - '0'.toNat := by
  have hall : ∀ d < 10, digitValue (Nat.digitChar d) = (Nat.digitChar d).toNat - '0'.toNat := by
    decide
  obtain ⟨d, hd, rfl⟩ := exists_digitChar_of_isDigit h
  exact hall d hd

/-! ### Numbers -/

lemma ofDigits_toDigits (n : ℕ) : ofDigits 10 (Nat.toDigits 10 n) = n := by
  have hfold : ofDigits 10 (Nat.toDigits 10 n) = Nat.ofDigitChars 10 (Nat.toDigits 10 n) 0 := by
    refine List.foldl_ext _ _ _ fun m c hc => ?_
    rw [digitValue_eq (Nat.isDigit_of_mem_toDigits (by omega) (by omega) hc)]
  rw [hfold, Nat.ofDigitChars_toDigits (by omega) (by omega)]

lemma isDigit_of_mem_padded {width n : ℕ} : ∀ c ∈ padded width n, c.isDigit = true := by
  intro c hc
  rw [padded, List.mem_append] at hc
  cases hc with
  | inl hzero => rw [List.eq_of_mem_replicate hzero]; rfl
  | inr hdigit => exact Nat.isDigit_of_mem_toDigits (by omega) (by omega) hdigit

lemma ofDigits_padded (width n : ℕ) : ofDigits 10 (padded width n) = n := by
  have hzeros : ∀ k : ℕ, (List.replicate k '0').foldl (fun n c => 10 * n + digitValue c) 0 = 0 := by
    intro k
    induction k with
    | zero => rfl
    | succ k ih => rw [List.replicate_succ, List.foldl_cons]; exact ih
  rw [padded, ofDigits, List.foldl_append, hzeros]
  exact ofDigits_toDigits n

lemma length_padded {width n : ℕ} (hpos : 0 < width) (h : n < 10 ^ width) :
    (padded width n).length = width := by
  have hle := (Nat.length_toDigits_le_iff (b := 10) (n := n) (by omega) hpos).mpr h
  rw [padded, List.length_append, List.length_replicate]
  omega

lemma padded_ne_nil (width n : ℕ) : padded width n ≠ [] := by
  rw [padded]
  exact List.append_ne_nil_of_right_ne_nil _ Nat.toDigits_ne_nil

/-- A number starts with a digit. -/
lemma exists_toDigits_eq_cons (n : ℕ) :
    ∃ d rest, Nat.toDigits 10 n = d :: rest ∧ d.isDigit = true := by
  obtain ⟨d, rest, hdigits⟩ :=
    List.exists_cons_of_ne_nil (Nat.toDigits_ne_nil (n := n) (b := 10))
  have hd : d ∈ Nat.toDigits 10 n := by
    rw [hdigits]
    exact List.mem_cons_self
  exact ⟨d, rest, hdigits, Nat.isDigit_of_mem_toDigits (by omega) (by omega) hd⟩

/-- Only zero itself is written with a zero in front. -/
lemma toDigits_eq_zero_or (n : ℕ) :
    Nat.toDigits 10 n = ['0'] ∨ ∃ d rest, Nat.toDigits 10 n = d :: rest ∧ d ≠ '0' := by
  induction n using Nat.strong_induction_on with
  | _ n ih =>
    rcases Nat.lt_or_ge n 10 with h | h
    · rw [Nat.toDigits_of_lt_base h]
      by_cases hzero : n = 0
      · exact .inl (by rw [hzero]; rfl)
      · refine .inr ⟨Nat.digitChar n, [], rfl, ?_⟩
        rw [Ne, Nat.digitChar_eq_zero]
        omega
    · rw [Nat.toDigits_of_base_le (by omega) h]
      obtain hq | ⟨d, rest, hq, hd⟩ := ih (n / 10) (by omega)
      · -- the quotient is not zero
        have hzero := ofDigits_toDigits (n / 10)
        rw [hq] at hzero
        have : ofDigits 10 ['0'] = 0 := rfl
        omega
      · exact .inr ⟨d, rest ++ [Nat.digitChar (n % 10)], by rw [hq, List.cons_append], hd⟩

/-! ### Rows of digits within a text -/

/-- A text that does not go on with a digit. -/
def EndsNumber (rest : List Char) : Prop := ∀ c ∈ rest.head?, c.isDigit = false

lemma endsNumber_nil : EndsNumber [] := by
  intro c hc
  exact absurd hc (by simp)

lemma endsNumber_cons {c : Char} {rest : List Char} (h : c.isDigit = false) :
    EndsNumber (c :: rest) := by
  intro d hd
  rw [List.head?_cons, Option.mem_some_iff] at hd
  rw [← hd, h]

lemma takeWhile_isDigit_append {digits rest : List Char}
    (hdigits : ∀ c ∈ digits, c.isDigit = true) (hrest : EndsNumber rest) :
    (digits ++ rest).takeWhile Char.isDigit = digits := by
  rw [List.takeWhile_append_of_pos hdigits]
  cases rest with
  | nil => exact List.append_nil _
  | cons c rest =>
      have hc : c.isDigit = false := hrest c rfl
      rw [List.takeWhile_cons_of_neg (by rw [hc]; exact Bool.false_ne_true), List.append_nil]

end TxWire
