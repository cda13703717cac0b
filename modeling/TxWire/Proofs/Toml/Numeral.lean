import TxWire.Proofs.Digits
import TxWire.Toml.Scalar

/-!
Whole numbers at the end of a line of TOML: their digits are read as the number, and not as the
start of a date, a time of day, a real number or a number in another base.

* `EndsLine`: what follows a value is the end of its line.
* `DigitsLine`: nothing but digits is left of a line, which no date and no time of day goes on with.
* `scalar?_toDigits`: the digits of a number are read as that number if 64 bits hold it.
* `Fits64`, `scalar?_toString`: the same for numbers of any sign.
-/

namespace TxWire.Toml

variable {c d mark : Char} {digits text rest after : List Char} {low high n : ℕ}

/-- A text that goes on with the next line, if at all. -/
def EndsLine (rest : List Char) : Prop := ∀ c ∈ rest.head?, c = '\n'

lemma endsLine_newline (text : List Char) : EndsLine ('\n' :: text) := by
  intro c hc
  exact (Option.some.inj hc).symm

lemma EndsLine.cases (h : EndsLine rest) : rest = [] ∨ ∃ more, rest = '\n' :: more := by
  cases rest with
  | nil => exact .inl rfl
  | cons c more => exact .inr ⟨more, by rw [h c rfl]⟩

lemma ne_of_isDigit (hd : d.isDigit = true) (hc : c.isDigit = false) : d ≠ c := by
  rintro rfl
  exact Bool.false_ne_true (hc.symm.trans hd)

/-! ### Dates and times of day -/

/-- A line of which nothing but digits is left. -/
def DigitsLine (text : List Char) : Prop :=
  ∃ digits rest, text = digits ++ rest ∧ (∀ c ∈ digits, c.isDigit = true) ∧ EndsLine rest

lemma DigitsLine.head? (h : DigitsLine text) : ∀ c ∈ text.head?, c.isDigit = true ∨ c = '\n' := by
  obtain ⟨digits, rest, rfl, hdigits, hrest⟩ := h
  cases digits with
  | nil => exact fun c hc => .inr (hrest c hc)
  | cons d digits =>
      intro c hc
      obtain rfl : d = c := Option.some.inj hc
      exact .inl (hdigits d List.mem_cons_self)

lemma twoDigits?_digitsLine (h : DigitsLine text)
    (hread : twoDigits? low high text = some (n, after)) : DigitsLine after := by
  obtain ⟨digits, rest, rfl, hdigits, hrest⟩ := h
  match digits with
  | [] =>
      obtain rfl | ⟨more, rfl⟩ := hrest.cases
      · exact absurd hread (by simp [twoDigits?])
      · cases more <;> simp [twoDigits?] at hread
  | [a] =>
      obtain rfl | ⟨more, rfl⟩ := hrest.cases <;> simp [twoDigits?] at hread
  | a :: b :: digits =>
      rw [List.cons_append, List.cons_append, twoDigits?] at hread
      split_ifs at hread
      obtain ⟨-, rfl⟩ := Prod.mk.inj (Option.some.inj hread)
      exact ⟨digits, rest, rfl,
        fun c hc => hdigits c (List.mem_cons_of_mem _ (List.mem_cons_of_mem _ hc)), hrest⟩

lemma mark?_digitsLine (h : DigitsLine text) (hdigit : mark.isDigit = false)
    (hbreak : mark ≠ '\n') : mark? mark text = none := by
  cases text with
  | nil => rfl
  | cons c text =>
      rw [mark?, if_neg]
      obtain hc | rfl := h.head? c rfl
      · exact ne_of_isDigit hc hdigit
      · exact hbreak.symm

/-- A date has a hyphen behind four digits, a time of day a colon behind two. -/
lemma dateTime?_digitsLine (h : DigitsLine text) : dateTime? text = none := by
  have htime : time? text = none := by
    rw [time?]
    cases hhour : twoDigits? 0 23 text with
    | none => rfl
    | some read =>
        obtain ⟨hour, more⟩ := read
        have hmark : mark? ':' more = none :=
          mark?_digitsLine (twoDigits?_digitsLine h hhour) rfl (by decide)
        show (mark? ':' more).bind _ = none
        rw [hmark, Option.bind_none]
  have hdate : date? text = none := by
    rw [date?]
    cases hcentury : twoDigits? 0 99 text with
    | none => rfl
    | some read =>
        obtain ⟨century, more⟩ := read
        have hmore := twoDigits?_digitsLine h hcentury
        show (twoDigits? 0 99 more).bind _ = none
        cases hyear : twoDigits? 0 99 more with
        | none => rfl
        | some read =>
            obtain ⟨year, later⟩ := read
            have hmark : mark? '-' later = none :=
              mark?_digitsLine (twoDigits?_digitsLine hmore hyear) rfl (by decide)
            show (mark? '-' later).bind _ = none
            rw [hmark, Option.bind_none]
  rw [dateTime?, hdate, htime]

/-! ### Numbers -/

lemma digitsAfter_append (hdigits : ∀ c ∈ digits, c.isDigit = true) (hrest : EndsLine rest) :
    digitsAfter Char.isDigit (digits ++ rest) = some (digits, rest) := by
  induction digits with
  | nil =>
      obtain rfl | ⟨more, rfl⟩ := hrest.cases
      · rfl
      · rw [List.nil_append, digitsAfter.eq_def]
        rfl
  | cons d digits ih =>
      obtain ⟨hd, hdigits⟩ := List.forall_mem_cons.mp hdigits
      rw [List.cons_append, digitsAfter.eq_def]
      dsimp only
      rw [if_pos hd, ih hdigits]
      rfl

/-- The digits of a number are taken off as a whole, since none of them is a zero in front. -/
lemma wholeDigits?_toDigits (n : ℕ) (hrest : EndsLine rest) :
    wholeDigits? (Nat.toDigits 10 n ++ rest) = some (Nat.toDigits 10 n, rest) := by
  have hdigits : ∀ c ∈ Nat.toDigits 10 n, c.isDigit = true := fun c hc =>
    Nat.isDigit_of_mem_toDigits (by omega) (by omega) hc
  obtain hzero | ⟨d, more, hcons, hd⟩ := toDigits_eq_zero_or n
  · rw [hzero]
    rfl
  · rw [hcons] at hdigits ⊢
    rw [List.cons_append, wholeDigits?.eq_def]
    split
    · next heq => exact absurd (List.cons.inj heq).1 hd
    · have hdigit : d.isDigit = true := hdigits d List.mem_cons_self
      rw [digits?]
      rw [if_pos hdigit, ← List.cons_append, digitsAfter_append hdigits hrest]

lemma isRealAfter_of_endsLine (h : EndsLine rest) : isRealAfter rest = false := by
  obtain rfl | ⟨more, rfl⟩ := h.cases <;> rfl

lemma word?_of_ne {w : Char} {word : List Char} (h : c ≠ w) :
    word? (w :: word) (c :: text) = none := if_neg h

lemma decimal?_toDigits (negative : Bool) (n : ℕ) (hrest : EndsLine rest) :
    decimal? negative (Nat.toDigits 10 n ++ rest)
      = (integer? negative n).map fun item => (item, rest) := by
  have hwhole := wholeDigits?_toDigits n hrest
  have hvalue := ofDigits_toDigits n
  obtain ⟨d, more, hcons, hd⟩ := exists_toDigits_eq_cons n
  rw [hcons, List.cons_append] at hwhole
  rw [hcons] at hvalue
  rw [hcons, List.cons_append, decimal?, word?_of_ne (ne_of_isDigit hd rfl),
    word?_of_ne (ne_of_isDigit hd rfl)]
  dsimp only
  rw [hwhole]
  show (if isRealAfter rest then _ else _) = _
  rw [isRealAfter_of_endsLine hrest, if_neg Bool.false_ne_true, hvalue]
  cases integer? negative n <;> rfl

/-- A zero in front of a number in base ten is all of it, so it does not announce another base. -/
lemma number?_digit (hd : d.isDigit = true) (hzero : d = '0' → EndsLine rest) :
    number? (d :: rest) = decimal? false (d :: rest) := by
  have hbase : ∀ mark more, d :: rest = '0' :: mark :: more → mark = '\n' := by
    intro mark more h
    obtain ⟨rfl, rfl⟩ := List.cons.inj h
    exact hzero rfl mark rfl
  have hsign : sign (d :: rest) = (false, d :: rest) := by
    rw [sign.eq_def]
    split
    · next heq => exact absurd (List.cons.inj heq).1 (ne_of_isDigit hd rfl)
    · next heq => exact absurd (List.cons.inj heq).1 (ne_of_isDigit hd rfl)
    · rfl
  rw [number?.eq_def]
  split
  · next heq => exact absurd (hbase _ _ heq) (by decide)
  · next heq => exact absurd (hbase _ _ heq) (by decide)
  · next heq => exact absurd (hbase _ _ heq) (by decide)
  · rw [hsign]

lemma number?_toDigits (n : ℕ) (hrest : EndsLine rest) :
    number? (Nat.toDigits 10 n ++ rest) = (integer? false n).map fun item => (item, rest) := by
  rw [← decimal?_toDigits false n hrest]
  obtain hzero | ⟨d, more, hcons, hd⟩ := toDigits_eq_zero_or n
  · rw [hzero]
    exact number?_digit rfl fun _ => hrest
  · have hdigit : d.isDigit = true := by
      refine Nat.isDigit_of_mem_toDigits (b := 10) (n := n) (by omega) (by omega) ?_
      rw [hcons]
      exact List.mem_cons_self
    rw [hcons, List.cons_append]
    exact number?_digit hdigit fun hzero => absurd hzero hd

/-- **The digits of a number are read as the number**, if 64 bits with sign hold it. -/
lemma scalar?_toDigits (n : ℕ) (hrest : EndsLine rest) :
    scalar? (Nat.toDigits 10 n ++ rest) = (integer? false n).map fun item => (item, rest) := by
  have hline : DigitsLine (Nat.toDigits 10 n ++ rest) := by
    refine ⟨Nat.toDigits 10 n, rest, rfl, fun c hc => ?_, hrest⟩
    exact Nat.isDigit_of_mem_toDigits (by omega) (by omega) hc
  rw [← number?_toDigits n hrest]
  obtain ⟨d, more, hcons, hd⟩ := exists_toDigits_eq_cons n
  rw [hcons, List.cons_append] at hline ⊢
  rw [scalar?]
  have hquote : ¬ (d = '"' ∨ d = '\'') := by
    rintro (h | h)
    · exact ne_of_isDigit hd rfl h
    · exact ne_of_isDigit hd rfl h
  rw [if_neg hquote, if_neg (ne_of_isDigit hd rfl), if_neg (ne_of_isDigit hd rfl),
    dateTime?_digitsLine hline]

/-! ### Numbers with a sign -/

/-- A date and a time of day start with a digit. -/
lemma dateTime?_of_isDigit (h : c.isDigit = false) : dateTime? (c :: text) = none := by
  have hread (low high : ℕ) : twoDigits? low high (c :: text) = none := by
    cases text with
    | nil => rfl
    | cons d text => simp [twoDigits?, h]
  rw [dateTime?, date?, hread, time?, hread]
  rfl

/-- A minus in front makes a number negative. -/
lemma scalar?_minus (n : ℕ) (hrest : EndsLine rest) :
    scalar? ('-' :: (Nat.toDigits 10 n ++ rest))
      = (integer? true n).map fun item => (item, rest) := by
  rw [← decimal?_toDigits true n hrest, scalar?, dateTime?_of_isDigit rfl]
  rfl

/-- Whole numbers that 64 bits with sign hold. -/
def Fits64 (n : ℤ) : Prop := -integerBound ≤ n ∧ n < integerBound

instance (n : ℤ) : Decidable (Fits64 n) := inferInstanceAs (Decidable (_ ∧ _))

lemma integer?_of_eq {negative : Bool} {value : ℤ} (h : (if negative then -n else n : ℤ) = value) :
    integer? negative n = if Fits64 value then some (.integer value) else none := by
  rw [← h]
  rfl

lemma toList_toString_of_nonneg {n : ℤ} (h : 0 ≤ n) :
    (toString n).toList = Nat.toDigits 10 n.toNat := by
  rw [Int.toString_eq_repr, Int.repr_eq_if, if_pos h, Nat.repr_eq_ofList_toDigits,
    String.toList_ofList]

lemma toList_toString_of_neg {n : ℤ} (h : n < 0) :
    (toString n).toList = '-' :: Nat.toDigits 10 (-n).toNat := by
  rw [Int.toString_eq_repr, Int.repr_eq_if, if_neg (Int.not_le.mpr h), String.toList_append,
    Nat.repr_eq_ofList_toDigits, String.toList_ofList (l := Nat.toDigits 10 _)]
  rfl

/-- **A whole number of any sign is read as the number**, if 64 bits with sign hold it. -/
lemma scalar?_toString (n : ℤ) (hrest : EndsLine rest) : scalar? ((toString n).toList ++ rest)
    = if Fits64 n then some (.integer n, rest) else none := by
  by_cases h : 0 ≤ n
  · have hvalue : (if false then -n.toNat else n.toNat : ℤ) = n := Int.toNat_of_nonneg h
    rw [toList_toString_of_nonneg h, scalar?_toDigits _ hrest, integer?_of_eq hvalue]
    split_ifs <;> rfl
  · have hneg : n < 0 := Int.not_le.mp h
    have hvalue : (if true then -(-n).toNat else (-n).toNat : ℤ) = n := by
      rw [if_pos rfl]
      omega
    rw [toList_toString_of_neg hneg, List.cons_append, scalar?_minus _ hrest,
      integer?_of_eq hvalue]
    split_ifs <;> rfl

/-- A whole number starts with a minus or a digit. -/
lemma exists_toString_eq_cons (n : ℤ) :
    ∃ c more, (toString n).toList = c :: more ∧ (c = '-' ∨ c.isDigit = true) := by
  by_cases h : 0 ≤ n
  · obtain ⟨d, more, hcons, hd⟩ := exists_toDigits_eq_cons n.toNat
    exact ⟨d, more, by rw [toList_toString_of_nonneg h, hcons], .inr hd⟩
  · exact ⟨'-', _, toList_toString_of_neg (Int.not_le.mp h), .inl rfl⟩

end TxWire.Toml
