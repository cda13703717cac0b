import Mathlib.Tactic
import TxWire.Toml.Quotation

/-!
A TOML string is read as the text that it was written for, whatever the characters of the text are
and whichever form was chosen for it.

* `Shown`: the ways in which a single character is shown between double quotes. `exists_shown` says
  that `escaped` knows no others, `basicString_of_shown` and `basicLines_of_shown` read them.
* `closing?_append`: where a string of several lines ends. The quotes at the end of its text are
  read together with the three that end it.
* `longestRun`: a text without three quotes in a row is not ended before its time.
* `string?_stringText`: the round trip, for all four forms.
-/

namespace TxWire.Toml

variable {lines : Bool} {quotes after : ℕ} {c e mark : Char} {chars shown text rest : List Char}

/-! ### Characters -/

lemma isLineChar_of_needsEscape (h : needsEscape c = false) (hbreak : c ≠ '\n') :
    isLineChar c = true := by
  have hcode : c.toNat = 127 ↔ c = '\x7f' :=
    ⟨fun hcode => by rw [← Char.ofNat_toNat c, hcode], fun hc => by rw [hc]; rfl⟩
  simp only [needsEscape, Bool.and_eq_false_iff, Bool.or_eq_false_iff, decide_eq_false_iff_not,
    ← hcode] at h
  simp only [isLineChar, Bool.or_eq_true, Bool.and_eq_true, decide_eq_true_iff]
  by_cases htab : c = '\t'
  · exact .inl htab
  · right
    rcases h with (h | h) | h
    · omega
    · exact absurd htab h
    · exact absurd hbreak h

/-- A control character is shown in four digits. -/
lemma controlDigits_spec (h : needsEscape c = true) :
    ∃ a b d e, controlDigits c = [a, b, d, e] ∧ ofHexDigits? [a, b, d, e] = some c := by
  have hall : ∀ k < 128, needsEscape (Char.ofNat k) = true →
      (controlDigits (Char.ofNat k)).length = 4
        ∧ ofHexDigits? (controlDigits (Char.ofNat k)) = some (Char.ofNat k) := by decide +kernel
  have hlt : c.toNat < 128 := by
    simp only [needsEscape, Bool.and_eq_true, Bool.or_eq_true, decide_eq_true_iff] at h
    rcases h.1.1 with hlow | rfl
    · omega
    · decide
  have hc := hall c.toNat hlt
  rw [Char.ofNat_toNat] at hc
  obtain ⟨hlength, hread⟩ := hc h
  obtain ⟨a, b, d, e, hdigits⟩ := List.length_eq_four.mp hlength
  exact ⟨a, b, d, e, hdigits, by rw [← hdigits, hread]⟩

/-- How a character is shown between double quotes, after a number of quotes that were shown as
they are, and the number of such quotes from there on. -/
inductive Shown (lines : Bool) : ℕ → Char → List Char → ℕ → Prop
  | quote {quotes : ℕ} : lines = true → quotes < 2 → Shown lines quotes '"' ['"'] (quotes + 1)
  | letter {quotes : ℕ} {c e : Char} : unescape? e = some c → Shown lines quotes c ['\\', e] 0
  | code {quotes : ℕ} {c : Char} : needsEscape c = true →
      Shown lines quotes c ('\\' :: 'u' :: controlDigits c) 0
  | plain {quotes : ℕ} {c : Char} : c ≠ '"' → c ≠ '\\' → c ≠ '\r' →
      isLineChar c = true ∨ (lines = true ∧ c = '\n') → Shown lines quotes c [c] 0

lemma exists_shown (lines : Bool) (quotes : ℕ) (c : Char) (chars : List Char) :
    ∃ shown after, Shown lines quotes c shown after
      ∧ escaped lines quotes (c :: chars) = shown ++ escaped lines after chars := by
  rw [escaped]
  split_ifs with hquote hlines hfew hnone hb ht hn hf hr hbackslash hcode
  · subst hquote; exact ⟨_, _, .quote hlines hfew, rfl⟩
  · subst hquote; exact ⟨_, _, .letter rfl, rfl⟩
  · exact absurd hnone (Nat.not_lt_zero quotes)
  · subst hquote; exact ⟨_, _, .letter rfl, rfl⟩
  · subst hb; exact ⟨_, _, .letter rfl, rfl⟩
  · subst ht; exact ⟨_, _, .letter rfl, rfl⟩
  · rw [hn.1]; exact ⟨_, _, .letter rfl, rfl⟩
  · subst hf; exact ⟨_, _, .letter rfl, rfl⟩
  · subst hr; exact ⟨_, _, .letter rfl, rfl⟩
  · subst hbackslash; exact ⟨_, _, .letter rfl, rfl⟩
  · exact ⟨_, _, .code hcode, rfl⟩
  · refine ⟨[c], 0, .plain hquote hbackslash hr ?_, rfl⟩
    by_cases hbreak : c = '\n'
    · right
      simpa [hbreak] using hn
    · left
      exact isLineChar_of_needsEscape (Bool.eq_false_iff.mpr hcode) hbreak

/-- The letter of an escape is neither of those that announce digits, nor a blank. -/
lemma ne_of_unescape? (h : unescape? e = some c) :
    e ≠ 'u' ∧ e ≠ 'U' ∧ ∀ text, startsBlank (e :: text) = false := by
  have hne : ∀ d, unescape? d = none → e ≠ d := by
    rintro d hd rfl
    exact Option.some_ne_none c (h.symm.trans hd)
  refine ⟨hne 'u' rfl, hne 'U' rfl, fun text => ?_⟩
  simp [startsBlank, isBlank, hne ' ' rfl, hne '\t' rfl, hne '\n' rfl, hne '\r' rfl]

/-! ### One line -/

lemma basicString_of_shown (h : Shown false quotes c shown after) :
    basicString (shown ++ text) = consRead c (basicString text) := by
  cases h with
  | quote hlines => exact absurd hlines Bool.false_ne_true
  | letter he =>
      obtain ⟨hu, hU, -⟩ := ne_of_unescape? he
      rw [List.cons_append, List.singleton_append, basicString, if_neg (by decide), if_pos rfl, he]
      · rfl
      · exact fun _ _ _ _ _ hmark => absurd hmark hu
      · exact fun _ _ _ _ _ _ _ _ _ hmark => absurd hmark hU
  | code hcode =>
      obtain ⟨a, b, d, e, hdigits, hread⟩ := controlDigits_spec hcode
      rw [hdigits]
      show basicString ('\\' :: 'u' :: a :: b :: d :: e :: text) = _
      rw [basicString, if_neg (by decide), if_pos rfl, hread]
      rfl
  | plain hquote hbackslash hreturn hline =>
      have hchar : isLineChar c = true := hline.resolve_right fun h => Bool.false_ne_true h.1
      rw [List.singleton_append, basicString.eq_def]
      dsimp only
      rw [if_neg hquote, if_neg hbackslash, if_pos hchar]

/-- In double quotes on one line, every text is read back. -/
lemma basicString_escaped (chars rest : List Char) :
    basicString (escaped false quotes chars ++ '"' :: rest) = some (chars, rest) := by
  induction chars generalizing quotes with
  | nil =>
      rw [escaped, List.nil_append, basicString.eq_def]
      rfl
  | cons c chars ih =>
      obtain ⟨shown, after, hshown, htext⟩ := exists_shown false quotes c chars
      rw [htext, List.append_assoc, basicString_of_shown hshown, ih]
      rfl

/-- In single quotes on one line, a text stands as it is. -/
lemma literalString_append (h : ∀ c ∈ chars, c ≠ '\'' ∧ isLineChar c = true) :
    literalString (chars ++ '\'' :: rest) = some (chars, rest) := by
  induction chars with
  | nil => rfl
  | cons c chars ih =>
      obtain ⟨⟨hquote, hline⟩, hchars⟩ := List.forall_mem_cons.mp h
      rw [List.cons_append, literalString, if_neg hquote, if_pos hline, ih hchars]
      rfl

/-! ### Several lines -/

/-- Three quotes end a string, and so do those in front of them if nothing else is in between. -/
lemma closing?_append (htext : ¬ List.replicate 3 mark <+: text) (hrest : rest.head? ≠ some mark) :
    closing? mark (text ++ mark :: mark :: mark :: rest)
      = if text.all (· = mark) then some (text, rest) else none := by
  have hend : ∀ d more, rest = d :: more → d ≠ mark := by
    rintro d more rfl hd
    exact hrest (congrArg some hd)
  match text with
  | [] =>
      match rest with
      | [] => simp [closing?]
      | [d] => simp [closing?, hend d [] rfl]
      | d :: e :: more => simp [closing?, hend d (e :: more) rfl]
  | [a] =>
      match rest with
      | [] => by_cases ha : a = mark <;> simp [closing?, ha]
      | d :: more => by_cases ha : a = mark <;> simp [closing?, ha, hend d more rfl]
  | [a, b] => by_cases ha : a = mark <;> by_cases hb : b = mark <;> simp [closing?, ha, hb]
  | a :: b :: d :: text =>
      have hthree : ¬ (a = mark ∧ b = mark ∧ d = mark) := by
        rintro ⟨rfl, rfl, rfl⟩
        exact htext ⟨text, rfl⟩
      have hnot : ¬ (a :: b :: d :: text).all (· = mark) = true := by
        intro hall
        simp only [List.all_cons, Bool.and_eq_true, decide_eq_true_iff] at hall
        exact hthree ⟨hall.1, hall.2.1, hall.2.2.1⟩
      rw [if_neg hnot]
      show closing? mark (a :: b :: d :: (text ++ _)) = none
      rw [closing?.eq_def]
      exact if_neg hthree

lemma closing?_of_front (hrest : rest.head? ≠ some mark) :
    closing? mark (mark :: mark :: mark :: rest) = some ([], rest) := by
  have hnil : ¬ List.replicate 3 mark <+: ([] : List Char) := by simp
  exact closing?_append hnil hrest

lemma basicLines_quote (text : List Char) : basicLines .no ('"' :: text)
    = match closing? '"' ('"' :: text) with
      | some ending => some ending
      | none => consRead '"' (basicLines .no text) := by
  rw [basicLines.eq_def]
  cases h : closing? '"' ('"' :: text) <;> simp [h]

lemma basicLines_of_shown (h : Shown true quotes c shown 0) :
    basicLines .no (shown ++ text) = consRead c (basicLines .no text) := by
  cases h with
  | @letter _ e he =>
      obtain ⟨hu, hU, hblank⟩ := ne_of_unescape? he
      show basicLines .no ('\\' :: e :: text) = _
      rw [basicLines.eq_def]
      simp only [ne_eq, not_true_eq_false, false_and, ↓reduceIte, Char.reduceEq, reduceCtorEq,
        hblank, Bool.false_eq_true, and_false, Option.bind_eq_bind]
      split
      · next heq => cases heq
      · next heq => exact absurd (List.cons.inj heq).1 hu
      · next heq => exact absurd (List.cons.inj heq).1 hU
      · next heq =>
          obtain ⟨rfl, rfl⟩ := List.cons.inj heq
          rw [he]
          rfl
  | code hcode =>
      obtain ⟨a, b, d, e, hdigits, hread⟩ := controlDigits_spec hcode
      rw [hdigits]
      show basicLines .no ('\\' :: 'u' :: a :: b :: d :: e :: text) = _
      rw [basicLines.eq_def]
      simp [startsBlank, isBlank, hread]
  | plain hquote hbackslash hreturn hline =>
      rw [List.singleton_append, basicLines.eq_def]
      by_cases hbreak : c = '\n'
      · simp [hbreak]
      · have hchar : isLineChar c = true := hline.resolve_right fun h => hbreak h.2
        simp [hquote, hbackslash, hreturn, hbreak, hchar]

/-- At most two quotes in a row are shown as they are. -/
lemma not_three_escaped (h : quotes ≤ 2) :
    ¬ List.replicate (3 - quotes) '"' <+: escaped true quotes chars := by
  induction chars generalizing quotes with
  | nil =>
      intro hfront
      have := hfront.length_le
      rw [List.length_replicate, escaped, List.length_nil] at this
      omega
  | cons c chars ih =>
      obtain ⟨shown, after, hshown, htext⟩ := exists_shown true quotes c chars
      have hsplit : List.replicate (3 - quotes) '"' = '"' :: List.replicate (2 - quotes) '"' := by
        rw [← List.replicate_succ]
        congr 1
        omega
      rw [htext, hsplit]
      cases hshown with
      | quote _ hfew =>
          have hless : 2 - quotes = 3 - (quotes + 1) := by omega
          rw [List.singleton_append, List.cons_prefix_cons, and_iff_right rfl, hless]
          exact ih hfew
      | letter => simp [List.cons_prefix_cons]
      | code => simp [List.cons_prefix_cons]
      | plain hquote => simp [List.cons_prefix_cons, hquote.symm]

/-- A text that is shown as nothing but quotes consists of them. -/
lemma escaped_of_all (h : (escaped true quotes chars).all (· = '"') = true) :
    escaped true quotes chars = chars := by
  induction chars generalizing quotes with
  | nil => rfl
  | cons c chars ih =>
      obtain ⟨shown, after, hshown, htext⟩ := exists_shown true quotes c chars
      rw [htext] at h ⊢
      cases hshown with
      | quote =>
          rw [List.singleton_append, List.all_cons, Bool.and_eq_true] at h
          rw [List.singleton_append, ih h.2]
      | letter => simp at h
      | code => simp at h
      | plain hquote => simp [hquote] at h

/-- In double quotes on several lines, every text is read back. A quote in the text may be the first
of those that end it, so that the reader takes the rest of the text in one step. -/
lemma basicLines_escaped (h : quotes ≤ 2) (hrest : rest.head? ≠ some '"') :
    basicLines .no (escaped true quotes chars ++ '"' :: '"' :: '"' :: rest)
      = some (chars, rest) := by
  induction chars generalizing quotes with
  | nil =>
      rw [escaped, List.nil_append, basicLines_quote, closing?_of_front hrest]
  | cons c chars ih =>
      obtain ⟨shown, after, hshown, htext⟩ := exists_shown true quotes c chars
      cases after with
      | zero =>
          rw [htext, List.append_assoc, basicLines_of_shown hshown, ih (Nat.zero_le 2)]
          rfl
      | succ after =>
          cases hshown with
          | quote _ hfew =>
              have hthree : ¬ List.replicate 3 '"' <+: escaped true quotes ('"' :: chars) := by
                refine fun hfront => not_three_escaped h (List.IsPrefix.trans ?_ hfront)
                exact List.prefix_replicate_iff.mpr (by simp)
              have hclosing := closing?_append hthree hrest
              rw [htext, List.singleton_append, List.cons_append] at hclosing
              rw [htext, List.singleton_append, List.cons_append, basicLines_quote, hclosing]
              split_ifs with hall
              · rw [List.all_cons, Bool.and_eq_true] at hall
                rw [escaped_of_all hall.2]
              · rw [ih hfew]
                rfl

/-! ### Runs of quotes -/

lemma le_longestRun (mark : Char) (present longest : ℕ) (chars : List Char) :
    longest ≤ longestRun mark present longest chars := by
  induction chars generalizing present longest with
  | nil => exact le_rfl
  | cons c chars ih =>
      rw [longestRun]
      split_ifs
      · exact (le_max_left _ _).trans (ih _ _)
      · exact ih _ _

lemma longestRun_mono {p q l m : ℕ} (hpresent : p ≤ q) (hlongest : l ≤ m) (chars : List Char) :
    longestRun mark p l chars ≤ longestRun mark q m chars := by
  induction chars generalizing p q l m with
  | nil => exact hlongest
  | cons c chars ih =>
      rw [longestRun, longestRun]
      split_ifs
      · exact ih (by omega) (by omega)
      · exact ih le_rfl hlongest

/-- A run within a text is no longer than in front of more text. -/
lemma longestRun_tail_le (mark c : Char) (chars : List Char) :
    longestRun mark 0 0 chars ≤ longestRun mark 0 0 (c :: chars) := by
  rw [longestRun]
  split_ifs
  · exact longestRun_mono (by omega) (by omega) chars
  · exact le_rfl

lemma not_three_of_longestRun (h : longestRun mark 0 0 chars ≤ 2) :
    ¬ List.replicate 3 mark <+: chars := by
  rintro ⟨rest, rfl⟩
  have hrun : longestRun mark 0 0 (List.replicate 3 mark ++ rest) = longestRun mark 3 3 rest := by
    simp [longestRun, List.replicate]
  have := le_longestRun mark 3 3 rest
  omega

lemma not_mem_of_longestRun (h : longestRun mark 0 0 chars = 0) : mark ∉ chars := by
  induction chars with
  | nil => exact List.not_mem_nil
  | cons c chars ih =>
      have htail := longestRun_tail_le mark c chars
      rw [List.mem_cons, not_or]
      refine ⟨?_, ih (by omega)⟩
      rintro rfl
      rw [longestRun, if_pos rfl] at h
      have hlong := (le_longestRun mark (0 + 1) (max 0 (0 + 1)) chars).trans_eq h
      exact absurd hlong (by decide)

lemma literalLines_quote (text : List Char) : literalLines ('\'' :: text)
    = match closing? '\'' ('\'' :: text) with
      | some ending => some ending
      | none => consRead '\'' (literalLines text) := by
  rw [literalLines.eq_def]
  cases h : closing? '\'' ('\'' :: text) <;> simp [h]

lemma literalLines_cons (hquote : c ≠ '\'') (hreturn : c ≠ '\r')
    (hline : isLineChar c = true ∨ c = '\n') :
    literalLines (c :: text) = consRead c (literalLines text) := by
  rw [literalLines.eq_def]
  by_cases hbreak : c = '\n'
  · simp [hbreak]
  · simp [hquote, hreturn, hbreak, hline.resolve_right hbreak]

/-- In single quotes on several lines, a text without three of them in a row stands as it is. -/
lemma literalLines_append (h : ∀ c ∈ chars, c ≠ '\r' ∧ (isLineChar c = true ∨ c = '\n'))
    (hrun : longestRun '\'' 0 0 chars ≤ 2) (hrest : rest.head? ≠ some '\'') :
    literalLines (chars ++ '\'' :: '\'' :: '\'' :: rest) = some (chars, rest) := by
  induction chars with
  | nil =>
      rw [List.nil_append, literalLines_quote, closing?_of_front hrest]
  | cons c chars ih =>
      obtain ⟨⟨hreturn, hline⟩, hchars⟩ := List.forall_mem_cons.mp h
      have hlater := ih hchars ((longestRun_tail_le _ c chars).trans hrun)
      by_cases hquote : c = '\''
      · subst hquote
        have hclosing := closing?_append (not_three_of_longestRun hrun) hrest
        rw [List.cons_append] at hclosing
        rw [List.cons_append, literalLines_quote, hclosing, hlater]
        split_ifs <;> rfl
      · rw [List.cons_append, literalLines_cons hquote hreturn hline, hlater]
        rfl

/-! ### Strings -/

/-- A text that does not go on with a quote. -/
def EndsString (rest : List Char) : Prop :=
  rest.head? ≠ some '"' ∧ rest.head? ≠ some '\''

lemma skipNewline_of_head? (hbreak : text.head? ≠ some '\n') (hreturn : text.head? ≠ some '\r') :
    skipNewline text = text := by
  have hnone : newline? text = none := by
    rw [newline?.eq_def]
    split
    · exact absurd rfl hbreak
    · exact absurd rfl hreturn
    · rfl
  rw [skipNewline, hnone, Option.getD_none]

/-- The line break that is put in front of a text with line breaks is the one that is skipped. -/
lemma skipNewline_start (hbreak : '\n' ∉ chars → text.head? ≠ some '\n')
    (hreturn : text.head? ≠ some '\r') :
    skipNewline ((if chars.contains '\n' then ['\n'] else []) ++ text) = text := by
  split_ifs with h
  · rfl
  · refine skipNewline_of_head? (hbreak fun hmem => h ?_) hreturn
    exact List.contains_iff_mem.mpr hmem

lemma Shown.exists_head (h : Shown lines quotes c shown after) :
    ∃ d more, shown = d :: more ∧ d ≠ '\r' ∧ (d = '"' → lines = true) ∧ (d = '\n' → c = '\n') := by
  cases h with
  | quote hlines => exact ⟨'"', [], rfl, by decide, fun _ => hlines, fun h => absurd h (by decide)⟩
  | letter => exact ⟨'\\', _, rfl, by decide, by simp, by simp⟩
  | code => exact ⟨'\\', _, rfl, by decide, by simp, by simp⟩
  | plain hquote _ hreturn =>
      exact ⟨c, [], rfl, hreturn, fun h => absurd h hquote, fun h => h⟩

/-- What is shown between double quotes starts on the line of the text. -/
lemma head?_escaped (lines : Bool) (quotes : ℕ) (chars text : List Char) :
    (escaped lines quotes chars ++ '"' :: text).head? ≠ some '\r'
      ∧ ('\n' ∉ chars → (escaped lines quotes chars ++ '"' :: text).head? ≠ some '\n') := by
  cases chars with
  | nil => simp [escaped]
  | cons c chars =>
      obtain ⟨shown, after, hshown, htext⟩ := exists_shown lines quotes c chars
      obtain ⟨d, more, rfl, hreturn, -, hbreak⟩ := hshown.exists_head
      rw [htext, List.cons_append, List.cons_append, List.head?_cons, Ne, Ne, Option.some.injEq,
        Option.some.injEq]
      refine ⟨hreturn, fun hmem hd => hmem ?_⟩
      rw [hbreak hd]
      exact List.mem_cons_self

lemma string?_basic (h : ¬ ['"', '"'] <+: text) : string? ('"' :: text) = basicString text := by
  rw [string?.eq_def]
  split
  · next heq =>
      obtain ⟨-, rfl⟩ := List.cons.inj heq
      exact absurd ⟨_, rfl⟩ h
  · next heq =>
      obtain ⟨-, rfl⟩ := List.cons.inj heq
      rfl
  · next heq => exact absurd (List.cons.inj heq).1 (by decide)
  · next heq => exact absurd (List.cons.inj heq).1 (by decide)
  · next hno _ _ => exact absurd rfl (hno text)

lemma string?_literal (h : ¬ ['\'', '\''] <+: text) :
    string? ('\'' :: text) = literalString text := by
  rw [string?.eq_def]
  split
  · next heq => exact absurd (List.cons.inj heq).1 (by decide)
  · next heq => exact absurd (List.cons.inj heq).1 (by decide)
  · next heq =>
      obtain ⟨-, rfl⟩ := List.cons.inj heq
      exact absurd ⟨_, rfl⟩ h
  · next heq =>
      obtain ⟨-, rfl⟩ := List.cons.inj heq
      rfl
  · next hno => exact absurd rfl (hno text)

/-- A text without characters to be escaped can stand on its lines as it is. -/
lemma isLineChar_of_any_eq_false (h : chars.any needsEscape = false) (hmem : c ∈ chars) :
    c ≠ '\r' ∧ (isLineChar c = true ∨ c = '\n') := by
  have hc : needsEscape c = false := Bool.eq_false_iff.mpr (List.any_eq_false.mp h c hmem)
  constructor
  · rintro rfl
    exact absurd hc (by decide)
  · by_cases hbreak : c = '\n'
    · exact .inr hbreak
    · exact .inl (isLineChar_of_needsEscape hc hbreak)

lemma of_formFor_literal (h : formFor chars = .literal) :
    ∀ c ∈ chars, c ≠ '\'' ∧ isLineChar c = true := by
  simp only [formFor] at h
  split_ifs at h with _ hliteral
  rw [Bool.and_eq_true, Bool.and_eq_true, Bool.not_eq_true', decide_eq_true_iff,
    Bool.not_eq_true'] at hliteral
  obtain ⟨⟨hescapes, hrun⟩, hbreaks⟩ := hliteral
  intro c hc
  refine ⟨?_, (isLineChar_of_any_eq_false hescapes hc).2.resolve_right ?_⟩
  · rintro rfl
    exact not_mem_of_longestRun hrun hc
  · rintro rfl
    exact absurd (List.contains_iff_mem.mpr hc) (Bool.eq_false_iff.mp hbreaks)

lemma of_formFor_literalLines (h : formFor chars = .literalLines) :
    (∀ c ∈ chars, c ≠ '\r' ∧ (isLineChar c = true ∨ c = '\n'))
      ∧ longestRun '\'' 0 0 chars ≤ 2 := by
  simp only [formFor] at h
  split_ifs at h with _ _ _ hliteral
  rw [Bool.and_eq_true, Bool.not_eq_true', decide_eq_true_iff] at hliteral
  exact ⟨fun c hc => isLineChar_of_any_eq_false hliteral.1 hc, hliteral.2⟩

lemma head?_of_front (h : [mark] <+: rest) : rest.head? = some mark := by
  obtain ⟨more, rfl⟩ := h
  rfl

lemma string?_escaped (hrest : EndsString rest) :
    string? ('"' :: (escaped false 0 chars ++ '"' :: rest)) = some (chars, rest) := by
  refine (string?_basic ?_).trans (basicString_escaped chars rest)
  cases chars with
  | nil =>
      rw [escaped, List.nil_append, List.cons_prefix_cons, and_iff_right rfl]
      exact fun hfront => hrest.1 (head?_of_front hfront)
  | cons c chars =>
      obtain ⟨shown, after, hshown, htext⟩ := exists_shown false 0 c chars
      obtain ⟨d, more, rfl, -, hquote, -⟩ := hshown.exists_head
      rw [htext, List.cons_append, List.cons_append, List.cons_prefix_cons]
      exact fun hfront => Bool.false_ne_true (hquote hfront.1.symm)

/-- A text that stands between double quotes as it is: printable ASCII without quotes and
backslashes. -/
def Plain (s : String) : Prop :=
  ∀ c ∈ s.toList, 0x20 ≤ c.toNat ∧ c.toNat ≤ 0x7E ∧ c ≠ '"' ∧ c ≠ '\\'

instance (s : String) : Decidable (Plain s) := List.decidableBAll _ s.toList

lemma escaped_of_plain {s : String} (hs : Plain s) : escaped false 0 s.toList = s.toList := by
  rw [Plain] at hs
  generalize s.toList = chars at hs ⊢
  induction chars with
  | nil => rfl
  | cons c chars ih =>
      obtain ⟨⟨hlow, hhigh, hquote, hbackslash⟩, hchars⟩ := List.forall_mem_cons.mp hs
      have hne : ∀ d : Char, d.toNat < 0x20 ∨ 0x7E < d.toNat → c ≠ d := by
        rintro d hd rfl
        omega
      have hescape : needsEscape c = false := by
        simp [needsEscape, hne '\x7f' (by decide), Nat.not_lt.mpr hlow]
      simp [escaped, hquote, hbackslash, hescape, hne '\x08' (by decide), hne '\t' (by decide),
        hne '\n' (by decide), hne '\x0c' (by decide), hne '\r' (by decide), ih hchars]

lemma string?_plain {s : String} (hs : Plain s) (hrest : EndsString rest) :
    string? ('"' :: (s.toList ++ '"' :: rest)) = some (s.toList, rest) := by
  have hread : string? ('"' :: (escaped false 0 s.toList ++ '"' :: rest)) = some (s.toList, rest) :=
    string?_escaped hrest
  rwa [escaped_of_plain hs] at hread

lemma string?_single (hchars : ∀ c ∈ chars, c ≠ '\'' ∧ isLineChar c = true)
    (hrest : EndsString rest) :
    string? ('\'' :: (chars ++ '\'' :: rest)) = some (chars, rest) := by
  refine (string?_literal ?_).trans (literalString_append hchars)
  cases chars with
  | nil =>
      rw [List.nil_append, List.cons_prefix_cons, and_iff_right rfl]
      exact fun hfront => hrest.2 (head?_of_front hfront)
  | cons c chars =>
      rw [List.cons_append, List.cons_prefix_cons]
      exact fun hfront => (hchars c List.mem_cons_self).1 hfront.1.symm

lemma string?_escapedLines (hrest : EndsString rest) :
    string? ('"' :: '"' :: '"' :: ((if chars.contains '\n' then ['\n'] else [])
      ++ (escaped true 0 chars ++ '"' :: '"' :: '"' :: rest))) = some (chars, rest) := by
  obtain ⟨hreturn, hbreak⟩ := head?_escaped true 0 chars ('"' :: '"' :: rest)
  rw [string?, skipNewline_start hbreak hreturn, basicLines_escaped (Nat.zero_le 2) hrest.1]

lemma string?_singleLines (hchars : ∀ c ∈ chars, c ≠ '\r' ∧ (isLineChar c = true ∨ c = '\n'))
    (hrun : longestRun '\'' 0 0 chars ≤ 2) (hrest : EndsString rest) :
    string? ('\'' :: '\'' :: '\'' :: ((if chars.contains '\n' then ['\n'] else [])
      ++ (chars ++ '\'' :: '\'' :: '\'' :: rest))) = some (chars, rest) := by
  have hhead : (chars ++ '\'' :: '\'' :: '\'' :: rest).head? ≠ some '\r'
      ∧ ('\n' ∉ chars → (chars ++ '\'' :: '\'' :: '\'' :: rest).head? ≠ some '\n') := by
    cases chars with
    | nil => simp
    | cons c chars =>
        rw [List.cons_append, List.head?_cons, Ne, Ne, Option.some.injEq, Option.some.injEq]
        refine ⟨(hchars c List.mem_cons_self).1, fun hmem hc => hmem ?_⟩
        rw [hc]
        exact List.mem_cons_self
  rw [string?, skipNewline_start hhead.2 hhead.1, literalLines_append hchars hrun hrest.2]

/-- **A string is read as what it was written for**, whatever the text is. -/
lemma string?_stringText (s : String) (hrest : EndsString rest) :
    string? (stringText s ++ rest) = some (s.toList, rest) := by
  rw [stringText]
  cases hform : formFor s.toList with
  | basic => simpa using string?_escaped hrest
  | literal => simpa using string?_single (of_formFor_literal hform) hrest
  | basicLines => simpa using string?_escapedLines hrest
  | literalLines =>
      obtain ⟨hchars, hrun⟩ := of_formFor_literalLines hform
      simpa using string?_singleLines hchars hrun hrest

/-- The last quote of this text stands in front of the three that end it. -/
example : stringText "it's \"so\"" = "\"\"\"it's \"so\"\"\"\"".toList := by decide

end TxWire.Toml
