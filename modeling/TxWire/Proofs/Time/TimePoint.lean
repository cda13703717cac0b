import TxWire.Proofs.Digits
import TxWire.Proofs.Time.Calendar
import TxWire.Time.TimePoint

/-!
Time points are read back from their text, for every instant: to the whole second, with leap
seconds, and in any year.

* `TimePoint.readInstant_text`: a text in the form of a time point is read as the date and the
  time of day that it shows.
* `Instant.asShown`: the second that an instant is shown in. It is its own second, unless that is a
  leap second in the middle of a minute (`Instant.IsStray`), which shows as the next.
* `Instant.assemble_date`: the date and the time of day that are shown make up that second.
* `TimePoint.parse_timePoint`: both together.
* `Instant.isLeapSecond_iff_timePoint`: the leap seconds at the end of a minute are what shows as
  second `60`.
-/

namespace TxWire

namespace TimePoint

/-! ### Reading numbers -/

lemma readDigits_append {width : Option ℕ} {digits rest : List Char} (hne : digits ≠ [])
    (hdigits : ∀ c ∈ digits, c.isDigit = true) (hwidth : ∀ w ∈ width, digits.length = w)
    (hrest : EndsNumber rest) :
    readDigits width (digits ++ rest) = .ok (ofDigits 10 digits, rest) := by
  have hleading : leadingDigits width (digits ++ rest) = digits := by
    cases width with
    | none => exact takeWhile_isDigit_append hdigits hrest
    | some w =>
        rw [leadingDigits, takeWhile_isDigit_append hdigits hrest]
        exact List.take_of_length_le (hwidth w rfl).le
  obtain ⟨d, more, rfl⟩ := List.exists_cons_of_ne_nil hne
  have hread : readDigits width (d :: more ++ rest)
      = .ok (ofDigits 10 (d :: more), (d :: more ++ rest).drop (d :: more).length) := by
    rw [readDigits.eq_def, hleading]
    rfl
  rw [hread, List.drop_left]

/-- A digit is no blank. -/
lemma skipBlanks_digits {digits rest : List Char} (hne : digits ≠ [])
    (hdigits : ∀ c ∈ digits, c.isDigit = true) :
    skipBlanks (digits ++ rest) = digits ++ rest := by
  have hblank : ∀ d < 10, whiteSpace.contains (Nat.digitChar d) = false := by decide
  obtain ⟨c, more, rfl⟩ := List.exists_cons_of_ne_nil hne
  obtain ⟨d, hd, rfl⟩ := exists_digitChar_of_isDigit (hdigits c List.mem_cons_self)
  rw [skipBlanks, List.cons_append, List.dropWhile_cons_of_neg (by simp [hblank d hd])]

lemma readField_padded {low high n : ℕ} {rest : List Char} (hn : n < 100)
    (hbounds : low ≤ n ∧ n ≤ high) (hrest : EndsNumber rest) :
    readField low high (padded 2 n ++ rest) = .ok (n, rest) := by
  rw [readField, skipBlanks_digits (padded_ne_nil 2 n) isDigit_of_mem_padded,
    readDigits_append (padded_ne_nil 2 n) isDigit_of_mem_padded
      (fun w hw => by rw [← Option.some.inj hw, length_padded (by omega) hn]) hrest,
    ofDigits_padded]
  exact if_pos hbounds

lemma readMark_cons (mark : Char) (rest : List Char) : readMark mark (mark :: rest) = .ok rest :=
  if_pos rfl

lemma readSigned_digits {digits rest : List Char} (hlength : digits.length = 4)
    (hdigits : ∀ c ∈ digits, c.isDigit = true) (hrest : EndsNumber rest) :
    readSigned (digits ++ rest) = .ok ((ofDigits 10 digits : ℤ), rest) := by
  have hne : digits ≠ [] := List.ne_nil_of_length_eq_add_one hlength
  have hread : readDigits (some 4) (digits ++ rest) = .ok (ofDigits 10 digits, rest) :=
    readDigits_append hne hdigits (fun w hw => by rw [← Option.some.inj hw, hlength]) hrest
  obtain ⟨d, more, rfl⟩ := List.exists_cons_of_ne_nil hne
  have hd : d.isDigit = true := hdigits d List.mem_cons_self
  -- a digit is no sign
  rw [List.cons_append, readSigned, ← List.cons_append, hread]
  · rfl
  · rintro text ⟨⟩
    exact absurd hd (by decide)
  · rintro text ⟨⟩
    exact absurd hd (by decide)

/-- A year with four digits stands alone, any other has a sign, which tells the reader to go on
for as long as there are digits. -/
lemma readYear_yearText {year : ℤ} {rest : List Char} (hyear : year.natAbs ≤ 2147483647)
    (hrest : EndsNumber rest) : readYear (yearText year ++ rest) = .ok (year, rest) := by
  have hbounds : -2147483648 ≤ year ∧ year ≤ 2147483647 := by omega
  have hread : readSigned (skipBlanks (yearText year ++ rest)) = .ok (year, rest) := by
    have hunsigned : readDigits none (padded 4 year.natAbs ++ rest) = .ok (year.natAbs, rest) := by
      rw [readDigits_append (padded_ne_nil _ _) isDigit_of_mem_padded (by simp) hrest,
        ofDigits_padded]
    rw [yearText]
    split
    · next hplain =>
        rw [skipBlanks_digits (padded_ne_nil _ _) isDigit_of_mem_padded,
          readSigned_digits (length_padded (by omega) (by omega)) isDigit_of_mem_padded hrest,
          ofDigits_padded, Int.toNat_of_nonneg hplain.1]
    · next hsigned =>
        by_cases hnegative : year < 0
        · rw [if_pos hnegative, List.cons_append, skipBlanks,
            List.dropWhile_cons_of_neg (by decide), readSigned, hunsigned]
          show Except.ok (-(year.natAbs : ℤ), rest) = _
          rw [show -(year.natAbs : ℤ) = year by omega]
        · rw [if_neg hnegative, List.cons_append, skipBlanks,
            List.dropWhile_cons_of_neg (by decide), readSigned, hunsigned]
          show Except.ok ((year.natAbs : ℤ), rest) = _
          rw [show (year.natAbs : ℤ) = year by omega]
  rw [readYear, hread]
  exact if_pos hbounds

/-! ### Reading a date and a time of day -/

/-- A text in the form of a time point is read as the date and the time of day that it shows. -/
lemma readInstant_text {date : Date} {hour minute second : ℕ}
    (hyear : date.year.natAbs ≤ 2147483647) (hdate : date.isValid = true) (hhour : hour ≤ 23)
    (hminute : minute ≤ 59) (hsecond : second ≤ 60) :
    readInstant (date.text ++ 'T' :: (padded 2 hour ++ ':' :: padded 2 minute ++ ':' ::
      padded 2 second)) = match assemble date hour minute second with
      | some t => .ok t
      | none => .error .outOfRange := by
  obtain ⟨hmonth, hday⟩ := Date.bounds_of_isValid hdate
  have hok : ∀ {α β : Type} (a : α) (f : α → Except Fault β), (Except.ok a >>= f) = f a :=
    fun _ _ => rfl
  have hrow : date.text ++ 'T' :: (padded 2 hour ++ ':' :: padded 2 minute ++ ':' ::
      padded 2 second) = yearText date.year ++ '-' :: (padded 2 date.month ++ '-' ::
      (padded 2 date.day ++ 'T' :: (padded 2 hour ++ ':' :: (padded 2 minute ++ ':' ::
      (padded 2 second ++ []))))) := by
    simp [Date.text]
  rw [hrow, readInstant, readYear_yearText hyear (endsNumber_cons rfl), hok]
  dsimp only
  rw [readMark_cons, hok, readField_padded (by omega) hmonth (endsNumber_cons rfl), hok]
  dsimp only
  rw [readMark_cons, hok, readField_padded (by omega) hday (endsNumber_cons rfl), hok]
  dsimp only
  rw [readMark_cons, hok, readField_padded (by omega) ⟨by omega, hhour⟩ (endsNumber_cons rfl), hok]
  dsimp only
  rw [readMark_cons, hok, readField_padded (by omega) ⟨by omega, hminute⟩ (endsNumber_cons rfl),
    hok]
  dsimp only
  rw [readMark_cons, hok, readField_padded (by omega) ⟨by omega, hsecond⟩ endsNumber_nil, hok]
  rfl

end TimePoint

namespace Instant

/-! ### Instants as time points -/

lemma of?_self (t : Instant) : of? t.seconds t.nanos = some t :=
  dif_pos ⟨t.minSeconds_le, t.seconds_le, t.nanos_lt⟩

lemma of?_truncate (t : Instant) :
    of? t.seconds (if t.inLeapSecond then nanosPerSecond else 0) = some t.truncate :=
  t.truncate.of?_self

/-- A leap second behind a second that is not the last of its minute. -/
def IsStray (t : Instant) : Prop := t.inLeapSecond = true ∧ t.seconds % 60 ≠ 59

instance (t : Instant) : Decidable t.IsStray := inferInstanceAs (Decidable (_ ∧ _))

/-- The last second of all is the last of a minute, so there is one behind that of a stray leap
second. -/
lemma succ_le_maxSeconds {t : Instant} (h : t.IsStray) : t.seconds + 1 ≤ maxSeconds := by
  have hlast : maxSeconds % 60 = 59 := by decide
  have hle := t.seconds_le
  have hmod := h.2
  omega

lemma minSeconds_le_succ (t : Instant) : minSeconds ≤ t.seconds + 1 := by
  have hle := t.minSeconds_le
  omega

/-- The start of the second that an instant is shown in. A leap second at the end of a minute shows
as second `60` and stays what it is; a stray one shows as the second behind it. -/
def asShown (t : Instant) : Instant :=
  if h : t.IsStray then
    { seconds := t.seconds + 1, nanos := 0
      minSeconds_le := t.minSeconds_le_succ
      seconds_le := succ_le_maxSeconds h
      nanos_lt := epoch.nanos_lt }
  else t.truncate

variable (t : Instant)

lemma asShown_of_isStray (h : t.IsStray) :
    t.asShown.seconds = t.seconds + 1 ∧ t.asShown.nanos = 0 := by
  rw [asShown, dif_pos h]
  exact ⟨rfl, rfl⟩

lemma asShown_of_not_isStray (h : ¬ t.IsStray) : t.asShown = t.truncate := dif_neg h

lemma seconds_asShown : t.asShown.seconds = if t.IsStray then t.seconds + 1 else t.seconds := by
  split_ifs with h
  · exact (t.asShown_of_isStray h).1
  · rw [t.asShown_of_not_isStray h]
    rfl

lemma secondOfDay_lt : t.secondOfDay < 86400 := by
  rw [secondOfDay]
  omega

/-- The date and the time of day count up to the second. -/
lemma seconds_eq : 86400 * t.date.toDays + (t.secondOfDay : ℤ) = t.seconds := by
  rw [date, Date.toDays_ofDays, secondOfDay]
  omega

lemma secondOfDay_mod : ((t.secondOfDay % 60 : ℕ) : ℤ) = t.seconds % 60 := by
  rw [secondOfDay]
  omega

/-- A leap second counts one more than the second that it belongs to. -/
lemma second_eq : t.second = t.secondOfDay % 60 + if t.inLeapSecond then 1 else 0 := by
  have hnanos := t.nanos_lt
  rw [second, inLeapSecond, Nat.add_left_cancel_iff]
  rw [nanosPerSecond] at hnanos ⊢
  split
  · next h =>
      have hge := of_decide_eq_true h
      omega
  · next h => rw [Nat.div_eq_of_lt (by simpa using h)]

lemma second_le : t.second ≤ 60 := by
  rw [second_eq]
  split <;> omega

/-- Only a leap second that is not stray shows as second `60`. -/
lemma second_eq_sixty_iff : t.second = 60 ↔ t.inLeapSecond = true ∧ ¬ t.IsStray := by
  have hmod := t.secondOfDay_mod
  rw [second_eq, IsStray]
  cases t.inLeapSecond with
  | true =>
      simp only [if_true, true_and, not_not]
      omega
  | false =>
      simp only [Bool.false_eq_true, if_false, false_and, iff_false]
      omega

/-- The seconds of an instant, counted up to the minute. -/
lemma start_add_second : 86400 * t.date.toDays + 3600 * (t.hour : ℤ) + 60 * (t.minute : ℤ)
    + (t.secondOfDay % 60 : ℕ) = t.seconds := by
  rw [← t.seconds_eq, hour, minute]
  omega

/-- The date and the time of day make up the second of the instant, or the one behind that if it is
a leap second; but second `60` is the leap second of its minute. -/
lemma assemble_eq : TimePoint.assemble t.date t.hour t.minute t.second
    = if t.second = 60 then of? t.seconds nanosPerSecond
      else of? (t.seconds + if t.inLeapSecond then 1 else 0) 0 := by
  have hstart := t.start_add_second
  have hsecond := t.second_eq
  have hvalid : t.date.isValid = true := Date.isValid_ofDays _
  rw [TimePoint.assemble, if_pos hvalid]
  by_cases hsixty : t.second = 60
  · have hlast : t.secondOfDay % 60 = 59 := by
      rw [hsixty] at hsecond
      split at hsecond <;> omega
    rw [if_pos hsixty, if_pos hsixty, ← hstart, hlast]
    rfl
  · rw [if_neg hsixty, if_neg hsixty, ← hstart, hsecond, Nat.cast_add, Nat.cast_ite, ← add_assoc]
    rfl

/-- Both together are the second that the instant is shown in. -/
lemma assemble_date : TimePoint.assemble t.date t.hour t.minute t.second = some t.asShown := by
  rw [assemble_eq]
  by_cases hstray : t.IsStray
  · obtain ⟨hseconds, hnanos⟩ := t.asShown_of_isStray hstray
    have hsixty : t.second ≠ 60 := fun h => (t.second_eq_sixty_iff.mp h).2 hstray
    rw [if_neg hsixty, if_pos hstray.1, ← t.asShown.of?_self, hseconds, hnanos]
  · rw [t.asShown_of_not_isStray hstray, ← t.of?_truncate]
    by_cases hleap : t.inLeapSecond = true
    · rw [if_pos (t.second_eq_sixty_iff.mpr ⟨hleap, hstray⟩), if_pos hleap]
    · have hsixty : t.second ≠ 60 := fun h => hleap (t.second_eq_sixty_iff.mp h).1
      rw [if_neg hsixty, if_neg hleap, if_neg hleap, add_zero]

/-- Years have six digits at most. -/
lemma natAbs_year_le : t.date.year.natAbs ≤ 2147483647 := by
  have hlo := t.minSeconds_le
  have hhi := t.seconds_le
  rw [minSeconds] at hlo
  rw [maxSeconds] at hhi
  have hyear := Date.natAbs_year_ofDays_le (t.seconds / 86400)
  rw [date]
  omega

end Instant

namespace TimePoint

/-- A text that ends with a digit has no zone to drop. -/
lemma dropZone_digits {front digits : List Char} (hne : digits ≠ [])
    (hdigits : ∀ c ∈ digits, c.isDigit = true) :
    ((front ++ digits).reverse.dropWhile (· = 'Z')).reverse = front ++ digits := by
  obtain ⟨d, more, hreverse⟩ :=
    List.exists_cons_of_ne_nil (List.reverse_ne_nil_iff.mpr hne)
  have hd : d.isDigit = true :=
    hdigits d (List.mem_reverse.mp (by rw [hreverse]; exact List.mem_cons_self))
  have hzone : d ≠ 'Z' := by
    rintro rfl
    exact absurd hd (by decide)
  rw [List.reverse_append, hreverse, List.cons_append,
    List.dropWhile_cons_of_neg (by simp [hzone]), ← List.cons_append, ← hreverse,
    ← List.reverse_append, List.reverse_reverse]

/-- A time point is read as the second that the instant it was written for is shown in. -/
theorem parse_timePoint (t : Instant) : parse t.timePoint = .ok t.asShown := by
  have hclock : t.date.text ++ 'T' :: t.clockText = (t.date.text ++ 'T' :: (padded 2 t.hour ++
      ':' :: padded 2 t.minute ++ [':'])) ++ padded 2 t.second := by
    simp [Instant.clockText]
  have hday := t.secondOfDay_lt
  rw [parse, Instant.timePoint, String.toList_ofList, hclock,
    dropZone_digits (padded_ne_nil 2 t.second) isDigit_of_mem_padded, ← hclock,
    Instant.clockText, readInstant_text t.natAbs_year_le (Date.isValid_ofDays _)
      (by rw [Instant.hour]; omega) (by rw [Instant.minute]; omega) t.second_le,
    t.assemble_date]

end TimePoint

/-! ### Seconds -/

lemma Instant.nanos_truncate_mod (t : Instant) : t.truncate.nanos % nanosPerSecond = 0 := by
  show (if t.inLeapSecond then nanosPerSecond else 0) % nanosPerSecond = 0
  split
  · exact Nat.mod_self _
  · exact Nat.zero_mod _

lemma Instant.inLeapSecond_truncate (t : Instant) : t.truncate.inLeapSecond = t.inLeapSecond := by
  show decide (nanosPerSecond ≤ if t.inLeapSecond then nanosPerSecond else 0) = t.inLeapSecond
  cases t.inLeapSecond <;> decide

/-- The leap seconds at the end of a minute are what is written as second `60`. -/
lemma Instant.isLeapSecond_iff_timePoint {t : Instant} :
    t.inLeapSecond = true ∧ ¬ t.IsStray ↔ ∃ minutes : String, t.timePoint = minutes ++ ":60" := by
  have htext : t.timePoint.toList = (t.date.text ++ 'T' :: (padded 2 t.hour
      ++ ':' :: padded 2 t.minute ++ [':'])) ++ padded 2 t.second := by
    rw [timePoint, clockText, String.toList_ofList]
    simp
  rw [← t.second_eq_sixty_iff]
  constructor
  · intro hsixty
    have hsecond : padded 2 t.second = ['6', '0'] := by
      rw [hsixty]
      decide
    refine ⟨String.ofList (t.date.text ++ 'T' :: (padded 2 t.hour ++ ':' :: padded 2 t.minute)), ?_⟩
    rw [← String.toList_inj, htext, hsecond, String.toList_append, String.toList_ofList]
    simp
  · rintro ⟨minutes, hminutes⟩
    have hlength : (padded 2 t.second).length = 2 :=
      length_padded (by omega) (lt_of_le_of_lt t.second_le (by omega))
    have hends : (padded 2 t.second) = ['6', '0'] := by
      rw [← String.toList_inj, htext, String.toList_append,
        show minutes.toList ++ ":60".toList = (minutes.toList ++ [':']) ++ ['6', '0'] by simp]
        at hminutes
      exact List.append_inj_right' hminutes hlength
    rw [← ofDigits_padded 2 t.second, hends]
    rfl

end TxWire
