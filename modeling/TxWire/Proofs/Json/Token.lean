import TxWire.Json.Reader
import TxWire.Json.Value
import TxWire.Proofs.Digits

/-!
Strings and numbers of a JSON text are read as they were written.

* `readString_escaped`: a string, whatever its characters are and whatever comes after it.
* `EndsNumeral`: what comes after a number must not belong to it.
* `readNumber_toDigits`: a whole number is read to its end, and `content_numberToken` says what
  it is read as.
-/

namespace TxWire.Json

/-! ### Strings -/

/-- A character is written as an escape of one letter, as a code, or as itself. -/
lemma escapeChar_cases (c : Char) :
    (∃ e, escapeChar c = ['\\', e] ∧ unescape? e = some c)
    ∨ (escapeChar c = '\\' :: 'u' :: controlDigits c ∧ c.toNat < 0x20)
    ∨ (escapeChar c = [c] ∧ c ≠ '"' ∧ c ≠ '\\' ∧ 0x20 ≤ c.toNat) := by
  rw [escapeChar]
  split_ifs with hquote hbackslash h8 ht hn hf hr hcontrol
  · exact .inl ⟨'"', rfl, by rw [hquote]; rfl⟩
  · exact .inl ⟨'\\', rfl, by rw [hbackslash]; rfl⟩
  · exact .inl ⟨'b', rfl, by rw [h8]; rfl⟩
  · exact .inl ⟨'t', rfl, by rw [ht]; rfl⟩
  · exact .inl ⟨'n', rfl, by rw [hn]; rfl⟩
  · exact .inl ⟨'f', rfl, by rw [hf]; rfl⟩
  · exact .inl ⟨'r', rfl, by rw [hr]; rfl⟩
  · exact .inr (.inl ⟨rfl, hcontrol⟩)
  · exact .inr (.inr ⟨rfl, hquote, hbackslash, Nat.le_of_not_lt hcontrol⟩)

/-- The code of a control character has two digits that tell it from the others. -/
lemma hexQuad?_controlDigits {c : Char} (h : c.toNat < 0x20) :
    ∃ high low, controlDigits c = ['0', '0', high, low]
      ∧ hexQuad? '0' '0' high low = some c.toNat := by
  have hall : ∀ n < 0x20,
      hexQuad? '0' '0' (if n < 0x10 then '0' else '1') (Nat.digitChar (n % 16)) = some n := by
    decide
  exact ⟨_, _, rfl, hall c.toNat h⟩

section Steps

variable {rest : List Char}

lemma ne_u_of_unescape? {e c : Char} (h : unescape? e = some c) : e ≠ 'u' := by
  rintro rfl
  have hnone : unescape? 'u' = none := rfl
  rw [hnone] at h
  exact Option.some_ne_none c h.symm

lemma stringContent_letter {e c : Char} (h : unescape? e = some c) :
    stringContent ('\\' :: e :: rest) = (stringContent rest).map (c :: ·) := by
  have hu := ne_u_of_unescape? h
  rw [stringContent.eq_def]
  simp only [Char.reduceEq, Char.reduceToNat, Nat.reduceLT, ↓reduceIte]
  split
  · next heq => exact absurd heq (by simp)
  · next heq => exact absurd (List.cons.inj heq).1 hu
  · next heq => exact absurd (List.cons.inj heq).1 hu
  · next heq =>
      obtain ⟨rfl, rfl⟩ := List.cons.inj heq
      rw [h]

lemma stringContent_code {a b c d : Char} {n : ℕ} (h : hexQuad? a b c d = some n)
    (hn : n < 0xD800) : stringContent ('\\' :: 'u' :: a :: b :: c :: d :: rest)
      = (stringContent rest).map (Char.ofNat n :: ·) := by
  have hlow : isLowSurrogate n = false := by
    rw [isLowSurrogate]
    simp
    omega
  have hhigh : isHighSurrogate n = false := by
    rw [isHighSurrogate]
    simp
    omega
  rw [stringContent]
  simp [h, hlow, hhigh]

lemma stringContent_plain {c : Char} (hquote : c ≠ '"') (hbackslash : c ≠ '\\')
    (hcontrol : 0x20 ≤ c.toNat) :
    stringContent (c :: rest) = (stringContent rest).map (c :: ·) := by
  rw [stringContent.eq_def]
  simp [hquote, hbackslash, Nat.not_lt.mpr hcontrol]

lemma afterString_letter {e c : Char} (h : unescape? e = some c) :
    afterString ('\\' :: e :: rest) = afterString rest := by
  have hu := ne_u_of_unescape? h
  rw [afterString.eq_def]
  simp only [Char.reduceEq, Char.reduceToNat, Nat.reduceLT, ↓reduceIte]
  split
  · next heq => exact absurd heq (by simp)
  · next heq => exact absurd (List.cons.inj heq).1 hu
  · next heq => exact absurd (List.cons.inj heq).1 hu
  · next heq =>
      obtain ⟨rfl, rfl⟩ := List.cons.inj heq
      rw [h]

lemma afterString_code {a b c d : Char} {n : ℕ} (h : hexQuad? a b c d = some n) :
    afterString ('\\' :: 'u' :: a :: b :: c :: d :: rest) = afterString rest := by
  rw [afterString]
  simp [h]

lemma afterString_plain {c : Char} (hquote : c ≠ '"') (hbackslash : c ≠ '\\')
    (hcontrol : 0x20 ≤ c.toNat) : afterString (c :: rest) = afterString rest := by
  rw [afterString.eq_def]
  simp [hquote, hbackslash, Nat.not_lt.mpr hcontrol]

/-- One character is read as it was written. -/
lemma stringContent_escapeChar (c : Char) :
    stringContent (escapeChar c ++ rest) = (stringContent rest).map (c :: ·) := by
  obtain ⟨e, hescape, he⟩ | ⟨hescape, hcontrol⟩ | ⟨hescape, hquote, hbackslash, hcontrol⟩ :=
    escapeChar_cases c
  · rw [hescape]
    exact stringContent_letter he
  · obtain ⟨high, low, hdigits, hquad⟩ := hexQuad?_controlDigits hcontrol
    rw [hescape, hdigits]
    simp only [List.cons_append, List.nil_append]
    rw [stringContent_code hquad (by omega), Char.ofNat_toNat]
  · rw [hescape]
    exact stringContent_plain hquote hbackslash hcontrol

lemma afterString_escapeChar (c : Char) :
    afterString (escapeChar c ++ rest) = afterString rest := by
  obtain ⟨e, hescape, he⟩ | ⟨hescape, hcontrol⟩ | ⟨hescape, hquote, hbackslash, hcontrol⟩ :=
    escapeChar_cases c
  · rw [hescape]
    exact afterString_letter he
  · obtain ⟨high, low, hdigits, hquad⟩ := hexQuad?_controlDigits hcontrol
    rw [hescape, hdigits]
    exact afterString_code hquad
  · rw [hescape]
    exact afterString_plain hquote hbackslash hcontrol

end Steps

/-- The token of a string that was written. -/
def stringToken (s : String) : Token String := { content := .ok s, skipped := .ok () }

/-- A string is read as it was written, up to the quote behind it. -/
lemma readString_escaped (s : String) (rest : List Char) :
    readString (s.toList.flatMap escapeChar ++ '"' :: rest) = (stringToken s, some rest) := by
  have hcontent : ∀ cs : List Char,
      stringContent (cs.flatMap escapeChar ++ '"' :: rest) = .ok cs := by
    intro cs
    induction cs with
    | nil => rw [List.flatMap_nil, List.nil_append, stringContent.eq_def]; rfl
    | cons c cs ih =>
        rw [List.flatMap_cons, List.append_assoc, stringContent_escapeChar, ih]
        rfl
  have hafter : ∀ cs : List Char,
      afterString (cs.flatMap escapeChar ++ '"' :: rest) = .ok rest := by
    intro cs
    induction cs with
    | nil => rw [List.flatMap_nil, List.nil_append, afterString.eq_def]; rfl
    | cons c cs ih =>
        rw [List.flatMap_cons, List.append_assoc, afterString_escapeChar, ih]
  rw [readString, hcontent, hafter]
  show (({ content := .ok (String.ofList s.toList), skipped := .ok () } : Token String), _) = _
  rw [String.ofList_toList, stringToken]

/-! ### Numbers -/

/-- A text that does not go on with anything that belongs to a number. -/
def EndsNumeral (rest : List Char) : Prop :=
  EndsNumber rest ∧ ∀ c ∈ rest.head?, c ≠ '.' ∧ c ≠ 'e' ∧ c ≠ 'E'

lemma endsNumeral_nil : EndsNumeral [] :=
  ⟨endsNumber_nil, fun _ hc => absurd hc (by simp)⟩

lemma endsNumeral_cons {c : Char} {rest : List Char} (hdigit : c.isDigit = false)
    (hletters : c ≠ '.' ∧ c ≠ 'e' ∧ c ≠ 'E') : EndsNumeral (c :: rest) := by
  refine ⟨endsNumber_cons hdigit, fun d hd => ?_⟩
  rw [List.head?_cons, Option.mem_some_iff] at hd
  rwa [← hd]

/-- A whole number that was written, taken apart. -/
def wholeNumeral (n : ℕ) : Numeral :=
  { negative := false, whole := Nat.toDigits 10 n, fraction := [], exponent := none }

/-- The token of a number that was written. -/
def numberToken (n : ℕ) : Token Number := { content := (wholeNumeral n).value, skipped := .ok () }

lemma someDigits_append {digits rest : List Char} (hne : digits ≠ [])
    (hdigits : ∀ c ∈ digits, c.isDigit = true) (hrest : EndsNumber rest) :
    someDigits (digits ++ rest) = .ok (digits, rest) := by
  have htake := takeWhile_isDigit_append hdigits hrest
  obtain ⟨d, more, rfl⟩ := List.exists_cons_of_ne_nil hne
  have hread : someDigits (d :: more ++ rest)
      = .ok (d :: more, (d :: more ++ rest).drop (d :: more).length) := by
    rw [someDigits.eq_def, htake]
  rw [hread, List.drop_left]

lemma wholeDigits_toDigits (n : ℕ) {rest : List Char} (hrest : EndsNumber rest) :
    wholeDigits (Nat.toDigits 10 n ++ rest) = .ok (Nat.toDigits 10 n, rest) := by
  rw [wholeDigits, someDigits_append Nat.toDigits_ne_nil
    (fun _ => Nat.isDigit_of_mem_toDigits (by omega) (by omega)) hrest]
  dsimp only [bind, Except.bind]
  obtain hzero | ⟨d, more, hdigits, hd⟩ := toDigits_eq_zero_or n
  · rw [hzero]
    rfl
  · rw [hdigits]
    split
    · next heq => exact absurd (List.cons.inj heq).1 hd
    · rfl

lemma readNumeral_toDigits (n : ℕ) {rest : List Char} (hrest : EndsNumeral rest) :
    readNumeral false (Nat.toDigits 10 n ++ rest) = .ok (wholeNumeral n, rest) := by
  have hfraction : fractionDigits rest = .ok ([], rest) := by
    rw [fractionDigits.eq_def]
    split
    · next heq => exact absurd rfl (hrest.2 '.' rfl).1
    · rfl
  have hexponent : exponentPart rest = .ok (none, rest) := by
    cases rest with
    | nil => rfl
    | cons c more =>
        obtain ⟨-, he, hE⟩ := hrest.2 c rfl
        rw [exponentPart.eq_def]
        exact if_neg (by simp [he, hE])
  rw [readNumeral, wholeDigits_toDigits n hrest.1]
  show (fractionDigits rest >>= _) = _
  rw [hfraction]
  show (exponentPart rest >>= _) = _
  rw [hexponent]
  rfl

lemma readNumber_toDigits (n : ℕ) {rest : List Char} (hrest : EndsNumeral rest) :
    readNumber false (Nat.toDigits 10 n ++ rest) = (numberToken n, some rest) := by
  rw [readNumber, readNumeral_toDigits n hrest]
  rfl

/-- Digits are taken in as long as 64 bits hold the number. -/
lemma absorb_eq {digits : List Char} {n : ℕ}
    (h : digits.foldl (fun n c => 10 * n + digitValue c) n < UInt64.size) :
    absorb n digits = (digits.foldl (fun n c => 10 * n + digitValue c) n, 0) := by
  induction digits generalizing n with
  | nil => rfl
  | cons d digits ih =>
      have hmono : ∀ (cs : List Char) (m : ℕ),
          m ≤ cs.foldl (fun n c => 10 * n + digitValue c) m := by
        intro cs
        induction cs with
        | nil => exact fun m => le_rfl
        | cons c cs ih => exact fun m => le_trans (by omega) (ih (10 * m + digitValue c))
      rw [List.foldl_cons] at h
      rw [absorb, if_pos (lt_of_le_of_lt (hmono digits _) h), ih h, List.foldl_cons]

/-- Whole numbers of 64 bits are read as such. -/
lemma content_numberToken {n : ℕ} (h : n < UInt64.size) :
    (numberToken n).content = .ok (.whole n) := by
  have hdigits := ofDigits_toDigits n
  rw [ofDigits] at hdigits
  have habsorb : absorb 0 (Nat.toDigits 10 n) = (n, 0) := by
    rw [absorb_eq (by rwa [hdigits]), hdigits]
  show (wholeNumeral n).value = _
  rw [Numeral.value, wholeNumeral]
  dsimp only
  rw [habsorb]
  rfl

end TxWire.Json
