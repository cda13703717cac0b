import TxWire.Proofs.Toml.Numeral
import TxWire.Proofs.Toml.Quotation
import TxWire.Toml.Reader

/-!
Documents in which every line gives one key without quotes its value.

* `value?_stringText`, `value?_plain`, `value?_toString`: strings and numbers as values.
* `Row`: a line with what it says. `Row.Sound` asks for a key without quotes and a value that is
  read to the end of the line, `Row.ofString`, `Row.ofPlain` and `Row.ofInt` provide such lines. A
  row that is `Refused` starts well, with a number that is too large.
* `lines?_sound`: lines in a row add their entries one by one, as long as no key comes twice.
  `lines?_refused`: a line that is refused ends it.
* `IsDocument`, `parse?_rows`: such a document says what its lines say, in their order.
-/

namespace TxWire.Toml

variable {c d : Char} {chars text rest : List Char} {room fuel n : ℕ}

/-! ### Values -/

/-- A value without brackets or braces around it. -/
lemma value?_of_head? (h : ∀ c ∈ text.head?, c ≠ '[' ∧ c ≠ '\x7b') :
    value? room text = scalar? text := by
  rw [value?.eq_def]
  split
  · exact absurd rfl (h '[' rfl).1
  · exact absurd rfl (h '\x7b' rfl).2
  · rfl

lemma exists_stringText_eq_cons (s : String) :
    ∃ c more, stringText s = c :: more ∧ (c = '"' ∨ c = '\'') := by
  rw [stringText]
  cases formFor s.toList with
  | basic => exact ⟨'"', _, rfl, .inl rfl⟩
  | literal => exact ⟨'\'', _, rfl, .inr rfl⟩
  | basicLines => exact ⟨'"', _, rfl, .inl rfl⟩
  | literalLines => exact ⟨'\'', _, rfl, .inr rfl⟩

/-- A string is a value. -/
lemma value?_of_string? {s : String} (hquote : c = '"' ∨ c = '\'')
    (hread : string? (c :: text) = some (s.toList, rest)) :
    value? room (c :: text) = some (.string s, rest) := by
  rw [value?_of_head?, scalar?, if_pos hquote, hread]
  · show some (Item.string (String.ofList s.toList), rest) = _
    rw [String.ofList_toList]
  · rintro d hd
    obtain rfl : c = d := Option.some.inj hd
    obtain rfl | rfl := hquote <;> decide

lemma value?_stringText (s : String) (hrest : EndsString rest) :
    value? room (stringText s ++ rest) = some (.string s, rest) := by
  have hread := string?_stringText s hrest
  obtain ⟨c, more, hcons, hquote⟩ := exists_stringText_eq_cons s
  rw [hcons, List.cons_append] at hread ⊢
  exact value?_of_string? hquote hread

lemma value?_plain {s : String} (hs : Plain s) (hrest : EndsString rest) :
    value? room ('"' :: (s.toList ++ '"' :: rest)) = some (.string s, rest) :=
  value?_of_string? (.inl rfl) (string?_plain hs hrest)

/-- A number is a value if 64 bits with sign hold it. -/
lemma value?_toString (n : ℤ) (hrest : EndsLine rest) :
    value? room ((toString n).toList ++ rest)
      = if Fits64 n then some (.integer n, rest) else none := by
  rw [value?_of_head?, scalar?_toString n hrest]
  obtain ⟨d, more, hcons, hd⟩ := exists_toString_eq_cons n
  rw [hcons]
  rintro c hc
  obtain rfl : d = c := Option.some.inj hc
  obtain rfl | hdigit := hd
  · decide
  · exact ⟨ne_of_isDigit hdigit rfl, ne_of_isDigit hdigit rfl⟩

lemma endsString_of_endsLine (h : EndsLine rest) : EndsString rest := by
  obtain rfl | ⟨more, rfl⟩ := h.cases <;> exact ⟨by simp, by simp⟩

/-! ### Keys -/

/-- A key without quotes. -/
def BareKey (key : String) : Prop := key.toList ≠ [] ∧ key.toList.all isKeyChar = true

instance (key : String) : Decidable (BareKey key) := inferInstanceAs (Decidable (_ ∧ _))

lemma BareKey.exists_cons {key : String} (h : BareKey key) :
    ∃ c more, key.toList = c :: more ∧ isKeyChar c = true := by
  obtain ⟨c, more, hcons⟩ := List.exists_cons_of_ne_nil h.1
  refine ⟨c, more, hcons, List.all_eq_true.mp h.2 c ?_⟩
  rw [hcons]
  exact List.mem_cons_self

lemma ne_of_isKeyChar (hc : isKeyChar c = true) (hd : isKeyChar d = false) : c ≠ d := by
  rintro rfl
  exact Bool.false_ne_true (hd.symm.trans hc)

lemma skipBlanks_cons (h : isBlank c = false) : skipBlanks (c :: text) = c :: text := by
  rw [skipBlanks, List.dropWhile_cons_of_neg (Bool.eq_false_iff.mp h)]

lemma isBlank_of_isKeyChar (h : isKeyChar c = true) : isBlank c = false := by
  rw [isBlank, decide_eq_false (ne_of_isKeyChar h rfl), decide_eq_false (ne_of_isKeyChar h rfl)]
  rfl

/-- A key without quotes is read on to the blank behind it. -/
lemma simpleKey?_bareKey {key : String} (h : BareKey key) :
    simpleKey? (key.toList ++ ' ' :: text) = some (key, ' ' :: text) := by
  have hall : ∀ c ∈ key.toList, isKeyChar c = true := List.all_eq_true.mp h.2
  have htake : (key.toList ++ ' ' :: text).takeWhile isKeyChar = key.toList := by
    rw [List.takeWhile_append_of_pos hall, List.takeWhile_cons_of_neg (by decide), List.append_nil]
  have hdrop : (key.toList ++ ' ' :: text).drop key.toList.length = ' ' :: text := List.drop_left
  obtain ⟨c, more, hcons, hc⟩ := h.exists_cons
  have hquote : ∀ d later, isKeyChar d = false → key.toList ++ ' ' :: text ≠ d :: later := by
    intro d later hd heq
    rw [hcons, List.cons_append] at heq
    exact ne_of_isKeyChar hc hd (List.cons.inj heq).1
  rw [simpleKey?.eq_def]
  split
  · next heq => exact absurd heq (hquote _ _ rfl)
  · next heq => exact absurd heq (hquote _ _ rfl)
  · rw [htake]
    split
    · next hnil => exact absurd hnil h.1
    · rw [hdrop, String.ofList_toList]

/-- There is no dot behind it, so it is all of the key. -/
lemma key?_bareKey {key : String} (h : BareKey key) :
    key? (key.toList ++ ' ' :: '=' :: text) = some ([key], '=' :: text) := by
  obtain ⟨c, more, hcons, hc⟩ := h.exists_cons
  have hskip : skipBlanks (key.toList ++ ' ' :: '=' :: text)
      = key.toList ++ ' ' :: '=' :: text := by
    rw [hcons, List.cons_append, skipBlanks_cons (isBlank_of_isKeyChar hc)]
  rw [key?, keyParts?, hskip, simpleKey?_bareKey h]
  rfl

/-! ### Lines -/

/-- A line that gives a key its value. -/
structure Row where
  key : String
  value : List Char
  item : Item

namespace Row

/-- A line with its break. -/
def line (row : Row) : List Char :=
  row.key.toList ++ [' ', '=', ' '] ++ row.value ++ ['\n']

/-- A line without its break. -/
def content (row : Row) : List Char := row.key.toList ++ [' ', '=', ' '] ++ row.value

/-- What a line adds to a document. -/
def entry (row : Row) : String × Item := (row.key, row.item)

/-- The key needs no quotes, and there is something after the equals sign. -/
structure Started (row : Row) : Prop where
  key : BareKey row.key
  start : ∃ c more, row.value = c :: more ∧ isBlank c = false

/-- The key needs no quotes, and the value is read to the end of the line. -/
structure Sound (row : Row) : Prop extends Started row where
  value (rest : List Char) : EndsLine rest →
    value? nestingRoom (row.value ++ rest) = some (row.item, rest)

/-- The key needs no quotes, but the value is not one that TOML has. -/
structure Refused (row : Row) : Prop extends Started row where
  value (rest : List Char) : EndsLine rest → value? nestingRoom (row.value ++ rest) = none

/-- A line with a string. -/
def ofString (key s : String) : Row := { key, value := stringText s, item := .string s }

/-- A line with a string between double quotes, as it is. -/
def ofPlain (key s : String) : Row :=
  { key, value := '"' :: (s.toList ++ ['"']), item := .string s }

/-- A line with a number. -/
def ofNat (key : String) (n : ℕ) : Row := { key, value := Nat.toDigits 10 n, item := .integer n }

/-- A line with a number of any sign. -/
def ofInt (key : String) (n : ℤ) : Row := { key, value := (toString n).toList, item := .integer n }

variable {key s : String} {n : ℤ}

lemma sound_ofString {key : String} (hkey : BareKey key) (s : String) :
    (ofString key s).Sound where
  key := hkey
  start := by
    obtain ⟨c, more, hcons, hquote⟩ := exists_stringText_eq_cons s
    exact ⟨c, more, hcons, by obtain rfl | rfl := hquote <;> rfl⟩
  value rest hrest := value?_stringText s (endsString_of_endsLine hrest)

lemma sound_ofPlain (hkey : BareKey key) (hs : Plain s) : (ofPlain key s).Sound where
  key := hkey
  start := ⟨'"', s.toList ++ ['"'], rfl, rfl⟩
  value rest hrest := by
    show value? nestingRoom ('"' :: (s.toList ++ ['"'] ++ rest)) = _
    rw [List.append_assoc]
    exact value?_plain hs (endsString_of_endsLine hrest)

lemma started_ofInt (hkey : BareKey key) (n : ℤ) : (ofInt key n).Started where
  key := hkey
  start := by
    obtain ⟨c, more, hcons, rfl | hc⟩ := exists_toString_eq_cons n
    · exact ⟨'-', more, hcons, rfl⟩
    · refine ⟨c, more, hcons, ?_⟩
      rw [isBlank, decide_eq_false (ne_of_isDigit hc rfl), decide_eq_false (ne_of_isDigit hc rfl)]
      rfl

lemma sound_ofInt (hkey : BareKey key) (hn : Fits64 n) : (ofInt key n).Sound where
  toStarted := started_ofInt hkey n
  value _ hrest := (value?_toString n hrest).trans (if_pos hn)

/-- A number that 64 bits with sign do not hold is no value. -/
lemma refused_ofInt (hkey : BareKey key) (hn : ¬ Fits64 n) : (ofInt key n).Refused where
  toStarted := started_ofInt hkey n
  value _ hrest := (value?_toString n hrest).trans (if_neg hn)

lemma Refused.not_sound {row : Row} (h : row.Refused) : ¬ row.Sound := by
  intro hsound
  have hvalue := hsound.value [] (by simp [EndsLine])
  rw [h.value [] (by simp [EndsLine])] at hvalue
  exact Option.some_ne_none _ hvalue.symm

lemma sound_ofNat {key : String} (hkey : BareKey key) {n : ℕ} (hn : (n : ℤ) < integerBound) :
    (ofNat key n).Sound := by
  have hfits : Fits64 n := ⟨by rw [integerBound]; omega, hn⟩
  have hrow : ofNat key n = ofInt key n := by
    rw [ofInt, toList_toString_of_nonneg (Int.natCast_nonneg n)]
    rfl
  rw [hrow]
  exact sound_ofInt hkey hfits

end Row

variable {b : Builder} {row : Row} {rows before later : List Row}

/-- An entry is added behind those that are there. -/
lemma add?_of_lookup {key : String} {item : Item} (h : b.current.lookup key = none) :
    b.add? [] key item = some { b with current := b.current ++ [(key, item)] } := by
  rw [Builder.add?, Entries.addDotted?, Entries.add?, h]
  rfl

lemma content_append (row : Row) (rest : List Char) :
    row.content ++ rest = row.key.toList ++ ' ' :: '=' :: ' ' :: (row.value ++ rest) := by
  simp [Row.content]

/-- Of a line, its value is all that can be refused. -/
lemma entry?_content (hrow : row.Started) (rest : List Char) : entry? b (row.content ++ rest)
    = (value? nestingRoom (row.value ++ rest)).bind fun (item, rest) =>
      (b.add? [] row.key item).bind fun b => (lineEnd? rest).map fun rest => (b, rest) := by
  obtain ⟨c, more, hcons, hblank⟩ := hrow.start
  have hskip : skipBlanks (' ' :: (row.value ++ rest)) = row.value ++ rest := by
    rw [hcons, List.cons_append]
    exact skipBlanks_cons hblank
  rw [content_append, entry?, key?_bareKey hrow.key]
  show (value? nestingRoom (skipBlanks (' ' :: (row.value ++ rest)))).bind _ = _
  rw [hskip]
  cases value? nestingRoom (row.value ++ rest) with
  | none => rfl
  | some read =>
      obtain ⟨item, rest⟩ := read
      show (b.add? [] row.key item).bind _ = (b.add? [] row.key item).bind _
      congr 1
      funext b
      cases lineEnd? rest <;> rfl

/-- A line is no header and no comment. -/
lemma lines?_content (hrow : row.Started) (rest : List Char) :
    lines? (fuel + 1) b (row.content ++ rest)
      = Option.bind ( entry? b (row.content ++ rest)) fun (b, rest) => lines? fuel b rest := by
  obtain ⟨c, more, hcons, hc⟩ := hrow.key.exists_cons
  have hmark : ¬ (c = '#' ∨ c = '\n' ∨ c = '\r') := by
    rintro (h | h | h) <;> exact ne_of_isKeyChar hc rfl h
  rw [content_append, hcons, List.cons_append, lines?, skipBlanks_cons (isBlank_of_isKeyChar hc)]
  dsimp only
  rw [if_neg hmark, if_neg (ne_of_isKeyChar hc rfl)]
  rfl

/-- One line is read, and then those behind it. -/
lemma lines?_sound (hrow : row.Sound) (hnew : b.current.lookup row.key = none)
    (hrest : EndsLine rest) : lines? (fuel + 1) b (row.content ++ rest)
    = (lineEnd? rest).bind (lines? fuel { b with current := b.current ++ [row.entry] }) := by
  rw [lines?_content hrow.toStarted, entry?_content hrow.toStarted, hrow.value rest hrest]
  show (((b.add? [] row.key row.item).bind _).bind _ : Option Builder) = _
  rw [add?_of_lookup hnew]
  cases lineEnd? rest <;> rfl

/-- A line with a value that is refused spoils the document. -/
lemma lines?_refused (hrow : row.Refused) (hrest : EndsLine rest) :
    lines? (fuel + 1) b (row.content ++ rest) = none := by
  rw [lines?_content hrow.toStarted, entry?_content hrow.toStarted, hrow.value rest hrest]
  rfl

/-- Lines whose keys are new, and no two the same, add their entries in a row. -/
lemma lines?_rows (hrows : ∀ row ∈ rows, row.Sound)
    (hnew : ∀ row ∈ rows, b.current.lookup row.key = none) (honce : (rows.map Row.key).Nodup)
    (rest : List Char) : lines? (fuel + rows.length) b (rows.flatMap Row.line ++ rest)
      = lines? fuel { b with current := b.current ++ rows.map Row.entry } rest := by
  induction rows generalizing b with
  | nil =>
      rw [List.map_nil, List.append_nil]
      rfl
  | cons row rows ih =>
      obtain ⟨hrow, hrows⟩ := List.forall_mem_cons.mp hrows
      obtain ⟨hkey, hnew⟩ := List.forall_mem_cons.mp hnew
      obtain ⟨hfirst, honce⟩ := List.nodup_cons.mp honce
      have hline : (row :: rows).flatMap Row.line ++ rest
          = row.content ++ '\n' :: (rows.flatMap Row.line ++ rest) := by
        simp [Row.line, Row.content]
      have hothers : ∀ later ∈ rows, List.lookup later.key (b.current ++ [row.entry]) = none := by
        intro later hlater
        have hother : later.key ≠ row.key := fun h => hfirst (h ▸ List.mem_map_of_mem hlater)
        rw [List.lookup_append, hnew later hlater, Option.none_or]
        show List.lookup later.key [(row.key, row.item)] = none
        rw [List.lookup_cons, beq_eq_false_iff_ne.mpr hother]
        rfl
      rw [hline, List.length_cons, ← Nat.add_assoc, lines?_sound hrow hkey (endsLine_newline _)]
      show lines? (fuel + rows.length) _ (rows.flatMap Row.line ++ rest) = _
      rw [ih hrows hothers honce, List.map_cons, List.append_assoc, List.singleton_append]

/-! ### Documents -/

/-- There are no more lines than characters. -/
lemma length_le_length_flatMap (rows : List Row) :
    rows.length ≤ (rows.flatMap Row.line).length := by
  have hline : ∀ n ∈ rows.map (List.length ∘ Row.line), 1 ≤ n := by
    intro n hn
    obtain ⟨row, -, rfl⟩ := List.mem_map.mp hn
    exact List.length_pos_of_ne_nil (List.append_ne_nil_of_right_ne_nil _ (List.cons_ne_nil _ _))
  rw [List.length_flatMap, ← List.length_map (List.length ∘ Row.line)]
  exact List.length_le_sum_of_one_le _ hline

/-- A document without a byte order mark. -/
lemma parse?_of_ne (h : ∀ more, chars ≠ '\ufeff' :: more) :
    parse? (String.ofList chars) = (lines? (chars.length + 1) {} chars).bind Builder.finish? := by
  rw [parse?, String.toList_ofList]
  split
  · next more => exact absurd rfl (h more)
  · rfl

/-- Unless all of a list is good, there is a first that is not. -/
lemma exists_first_not {α : Type} {Good : α → Prop} {xs : List α} (h : ∃ x ∈ xs, ¬ Good x) :
    ∃ before x later, xs = before ++ x :: later ∧ (∀ y ∈ before, Good y) ∧ ¬ Good x := by
  induction xs with
  | nil => exact absurd h (by simp)
  | cons x xs ih =>
      by_cases hx : Good x
      · obtain ⟨y, hy, hbad⟩ := h
        have hlater : y ∈ xs := by
          cases List.mem_cons.mp hy with
          | inl hyx => exact absurd (hyx ▸ hx) hbad
          | inr hmem => exact hmem
        obtain ⟨before, z, later, rfl, hbefore, hz⟩ := ih ⟨y, hlater, hbad⟩
        exact ⟨x :: before, z, later, rfl, List.forall_mem_cons.mpr ⟨hx, hbefore⟩, hz⟩
      · exact ⟨[], x, xs, rfl, by simp, hx⟩

/-- A text consists of some lines. The last break may be missing. -/
def IsDocument (rows : List Row) (text : List Char) : Prop :=
  text = rows.flatMap Row.line ∨ text ++ ['\n'] = rows.flatMap Row.line

/-- A line within a text is followed by its end, and if it is the last by nothing more. -/
lemma IsDocument.exists_rest (h : IsDocument (before ++ row :: later) text) :
    ∃ rest, text = before.flatMap Row.line ++ (row.content ++ rest) ∧ EndsLine rest
      ∧ (later = [] → lineEnd? rest = some []) := by
  have hlines : (before ++ row :: later).flatMap Row.line
      = before.flatMap Row.line ++ (row.content ++ '\n' :: later.flatMap Row.line) := by
    simp [Row.line, Row.content]
  obtain h | h := h
  · refine ⟨_, h.trans hlines, endsLine_newline _, ?_⟩
    rintro rfl
    rfl
  · rw [hlines] at h
    refine ⟨('\n' :: later.flatMap Row.line).dropLast, ?_, ?_, ?_⟩
    · have hdrop : (text ++ ['\n']).dropLast = text := List.dropLast_concat
      rw [← hdrop, h]
      simp
    · cases later.flatMap Row.line with
      | nil => exact fun c hc => absurd hc (by simp)
      | cons d more => exact endsLine_newline _
    · rintro rfl
      rfl

/-- A text starts with the key of its first line, and so with no byte order mark. -/
lemma IsDocument.ne_mark (h : IsDocument (row :: rows) text) (hrow : row.Started)
    (more : List Char) : text ≠ '\ufeff' :: more := by
  have hstart : IsDocument ([] ++ row :: rows) text := h
  obtain ⟨rest, htext, -⟩ := hstart.exists_rest
  obtain ⟨c, later, hcons, hc⟩ := hrow.key.exists_cons
  rw [htext, List.flatMap_nil, List.nil_append, content_append, hcons, List.cons_append]
  exact fun heq => ne_of_isKeyChar hc (by decide) (List.cons.inj heq).1

/-- Reading gets to a line if it gets through all of the lines in front of it. -/
lemma IsDocument.parse?_eq (h : IsDocument (before ++ row :: later) text) (hrow : row.Started)
    (hbefore : ∀ row ∈ before, row.Sound) (honce : (before.map Row.key).Nodup) :
    ∃ fuel rest, EndsLine rest ∧ (later = [] → lineEnd? rest = some [])
      ∧ parse? (String.ofList text) = (lines? (fuel + 2)
        { current := before.map Row.entry } (row.content ++ rest)).bind Builder.finish? := by
  have hmark : ∀ more, text ≠ '\ufeff' :: more := by
    cases before with
    | nil => exact h.ne_mark hrow
    | cons first before => exact h.ne_mark (hbefore first List.mem_cons_self).toStarted
  obtain ⟨rest, htext, hrest, hlast⟩ := h.exists_rest
  have hlines := length_le_length_flatMap before
  have hcontent : row.content.length = row.key.toList.length + 3 + row.value.length := by
    rw [Row.content, List.length_append, List.length_append]
    rfl
  have hlength :
      text.length = (before.flatMap Row.line).length + (row.content.length + rest.length) := by
    rw [htext, List.length_append, List.length_append]
  obtain ⟨fuel, hfuel⟩ : ∃ fuel, text.length + 1 = fuel + 2 + before.length :=
    ⟨text.length - 1 - before.length, by omega⟩
  refine ⟨fuel, rest, hrest, hlast, ?_⟩
  rw [parse?_of_ne hmark, hfuel, htext, lines?_rows hbefore (fun _ _ => rfl) honce]
  rfl

/-- **A document of lines says what its lines say**, in their order. -/
lemma IsDocument.parse?_of_sound (h : IsDocument rows text) (hrows : ∀ row ∈ rows, row.Sound)
    (honce : (rows.map Row.key).Nodup) :
    parse? (String.ofList text) = some (rows.map Row.entry) := by
  induction rows using List.reverseRecOn with
  | nil =>
      obtain rfl | h := h
      · rfl
      · exact absurd h (by simp)
  | append_singleton before row ih =>
      have hrow : row.Sound := hrows row (by simp)
      have hbefore : ∀ row ∈ before, row.Sound := fun row hmem => hrows row (by simp [hmem])
      rw [List.map_append, List.map_singleton, List.nodup_append'] at honce
      obtain ⟨honce, -, hdisjoint⟩ := honce
      have hnew : (before.map Row.entry).lookup row.key = none := by
        rw [List.lookup_eq_none_iff]
        intro entry hentry
        obtain ⟨earlier, hearlier, rfl⟩ := List.mem_map.mp hentry
        have hkey := hdisjoint (List.mem_map_of_mem hearlier)
        rw [List.mem_singleton] at hkey
        exact bne_iff_ne.mpr (Ne.symm hkey)
      obtain ⟨fuel, rest, hrest, hlast, hparse⟩ := h.parse?_eq hrow.toStarted hbefore honce
      rw [hparse, lines?_sound hrow hnew hrest, hlast rfl, List.map_append]
      rfl

/-- A document with a value that TOML does not have is refused as a whole. -/
lemma IsDocument.parse?_of_refused (h : IsDocument rows text)
    (hrows : ∀ row ∈ rows, row.Sound ∨ row.Refused) (hbad : ∃ row ∈ rows, row.Refused)
    (honce : (rows.map Row.key).Nodup) : parse? (String.ofList text) = none := by
  obtain ⟨bad, hmem, hrefused⟩ := hbad
  obtain ⟨before, row, later, rfl, hbefore, hnot⟩ :=
    exists_first_not ⟨bad, hmem, hrefused.not_sound⟩
  have hrow : row.Refused := (hrows row (by simp)).resolve_left hnot
  rw [List.map_append, List.nodup_append'] at honce
  obtain ⟨fuel, rest, hrest, -, hparse⟩ := h.parse?_eq hrow.toStarted hbefore honce.1
  rw [hparse, lines?_refused hrow hrest]
  rfl

lemma parse?_rows (hrows : ∀ row ∈ rows, row.Sound) (honce : (rows.map Row.key).Nodup) :
    parse? (String.ofList (rows.flatMap Row.line)) = some (rows.map Row.entry) :=
  IsDocument.parse?_of_sound (.inl rfl) hrows honce

end TxWire.Toml
