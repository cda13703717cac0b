import TxWire.Proofs.Layout.Kinds

/-!
What packing a transaction comes to: when it succeeds, what it writes then, and what is left of a
failure.

* `lowBytes`: the bytes of a number, each by its place value. `littleEndian_eq_lowBytes` says that
  they are what a number of a fixed width is written as.
* `PermissionLevel.wire`, `Action.wire`, `Extension.wire`, `Header.wire`, `Transaction.wire`: the
  bytes of a value, written down without a writer. `written_elements` ties them to the layouts.
* `PermissionLevel.texts`, `Action.texts`, `Transaction.texts`: the strings in the order in which
  they are written. `refusal?_elements` says that they and the expiration are all that can be
  refused.
* `pack_transaction_outcome`: the outcome for every transaction, writer and charset.
-/

namespace TxWire

/-! ### The bytes of a value -/

/-- The lowest bytes of a number, least significant first: the byte in place `i` counts how often
`256 ^ i` goes into it. -/
def lowBytes (width value : ℕ) : List UInt8 :=
  (List.range width).map fun i => UInt8.ofNat (value / 256 ^ i % 256)

lemma length_lowBytes (width value : ℕ) : (lowBytes width value).length = width := by
  rw [lowBytes, List.length_map, List.length_range]

lemma littleEndian_eq_lowBytes (width value : ℕ) :
    littleEndian width value = lowBytes width value := by
  induction width generalizing value with
  | zero => rfl
  | succ width ih =>
      -- the bytes above the lowest are those of the number without it
      have hshift (i : ℕ) : value / 256 / 256 ^ i = value / 256 ^ (i + 1) := by
        rw [Nat.div_div_eq_div_mul, ← pow_succ']
      rw [littleEndian, ih, lowBytes, lowBytes, List.range_succ_eq_map, List.map_cons,
        List.map_map, pow_zero, Nat.div_one]
      simp only [hshift, Function.comp_def]

/-- A string in a charset, its length in bytes in front; nothing if the charset lacks it. -/
def Charset.wire (charset : Charset) (text : String) : List UInt8 :=
  match charset.encode text with
  | .ok data => Varint.encode data.length ++ data
  | .error _ => []

/-- The number of elements, then the bytes of each. -/
def countedWire {α : Type} (wire : α → List UInt8) (items : List α) : List UInt8 :=
  Varint.encode items.length ++ items.flatMap wire

/-- The bytes of a permission level. -/
def PermissionLevel.wire (charset : Charset) (level : PermissionLevel) : List UInt8 :=
  charset.wire level.actor ++ charset.wire level.permission

/-- The bytes of an action. -/
def Action.wire (charset : Charset) (action : Action) : List UInt8 :=
  charset.wire action.account ++ charset.wire action.name
    ++ countedWire (PermissionLevel.wire charset) action.authorization
    ++ (Varint.encode action.data.length ++ action.data)

/-- The bytes of an extension. -/
def Extension.wire (extension : Extension) : List UInt8 :=
  Varint.encode extension.kind.toNat ++ (Varint.encode extension.data.length ++ extension.data)

/-- The bytes of a header whose expiration fits. -/
def Header.wire (header : Header) : List UInt8 :=
  lowBytes 4 header.expiration.seconds.toNat
    ++ lowBytes 2 header.refBlockNum.toNat
    ++ lowBytes 4 header.refBlockPrefix.toNat
    ++ Varint.encode header.maxNetUsageWords.toNat
    ++ [header.maxCpuUsageMs]
    ++ Varint.encode header.delaySec.toNat

/-- The bytes of a transaction whose expiration fits. -/
def Transaction.wire (charset : Charset) (t : Transaction) : List UInt8 :=
  t.header.wire
    ++ countedWire (Action.wire charset) t.contextFreeActions
    ++ countedWire (Action.wire charset) t.actions
    ++ countedWire Extension.wire t.extensions

section Wire

variable {charset : Charset}

lemma written_text (text : String) :
    Layout.written charset [.text text] = charset.wire text := by
  rw [Charset.wire]
  cases h : charset.encode text with
  | ok data => rw [Layout.written_text h]
  | error fault => rw [Layout.written_cons_error (Element.text_of_error h)]

/-- A list is refused only where one of its elements is. -/
lemma refusal?_flatMap_eq_none_iff {α : Type} {layoutOf : α → Layout} {items : List α} :
    Layout.refusal? charset (items.flatMap layoutOf) = none
      ↔ ∀ x ∈ items, (layoutOf x).refusal? charset = none := by
  induction items with
  | nil => simp
  | cons x items ih =>
      rw [List.flatMap_cons, Layout.refusal?_append, Option.or_eq_none_iff, ih,
        List.forall_mem_cons]

/-- A list that is written to its end is written element by element. -/
lemma written_flatMap {α : Type} {layoutOf : α → Layout} {wire : α → List UInt8}
    (h : ∀ x, (layoutOf x).refusal? charset = none → (layoutOf x).written charset = wire x)
    {items : List α} (hitems : ∀ x ∈ items, (layoutOf x).refusal? charset = none) :
    Layout.written charset (items.flatMap layoutOf) = items.flatMap wire := by
  induction items with
  | nil => rfl
  | cons x items ih =>
      obtain ⟨hx, hitems⟩ := List.forall_mem_cons.mp hitems
      rw [List.flatMap_cons, Layout.written_append_of_none hx, h x hx, ih hitems,
        List.flatMap_cons]

lemma written_counted {α : Type} {layoutOf : α → Layout} {wire : α → List UInt8}
    (h : ∀ x, (layoutOf x).refusal? charset = none → (layoutOf x).written charset = wire x)
    {items : List α} (hitems : (Layout.counted layoutOf items).refusal? charset = none) :
    (Layout.counted layoutOf items).written charset = countedWire wire items := by
  rw [Layout.counted, Layout.refusal?_bytes_cons] at hitems
  rw [Layout.counted, Layout.written_bytes_cons, countedWire,
    written_flatMap h (refusal?_flatMap_eq_none_iff.mp hitems)]

lemma PermissionLevel.written_elements {level : PermissionLevel}
    (h : level.elements.refusal? charset = none) :
    level.elements.written charset = level.wire charset := by
  have hsplit : level.elements = [.text level.actor] ++ [.text level.permission] := rfl
  rw [hsplit, Layout.refusal?_append, Option.or_eq_none_iff] at h
  rw [hsplit, Layout.written_append_of_none h.1, written_text, written_text, wire]

lemma Action.written_elements {action : Action}
    (h : action.elements.refusal? charset = none) :
    action.elements.written charset = action.wire charset := by
  have hsplit : action.elements = [.text action.account] ++ ([.text action.name]
      ++ (Layout.counted PermissionLevel.elements action.authorization
      ++ [.bytes (Varint.encode action.data.length), .bytes action.data])) := rfl
  rw [hsplit, Layout.refusal?_append, Option.or_eq_none_iff, Layout.refusal?_append,
    Option.or_eq_none_iff, Layout.refusal?_append, Option.or_eq_none_iff] at h
  obtain ⟨haccount, hname, hauthorization, -⟩ := h
  rw [hsplit, Layout.written_append_of_none haccount, Layout.written_append_of_none hname,
    Layout.written_append_of_none hauthorization, written_text, written_text,
    written_counted (fun _ => PermissionLevel.written_elements) hauthorization, wire]
  simp

lemma Extension.written_elements (extension : Extension) :
    extension.elements.written charset = extension.wire := by
  simp [elements, wire]

lemma Header.written_elements {header : Header} (h : header.ExpirationFits) :
    header.elements.written charset = header.wire := by
  rw [elements, Layout.written_cons_ok (expirationElement_of_fits h charset), wire]
  simp [littleEndian_eq_lowBytes]

lemma Transaction.written_elements {t : Transaction} (hfits : t.header.ExpirationFits)
    (h : t.elements.refusal? charset = none) :
    t.elements.written charset = t.wire charset := by
  rw [elements, Layout.refusal?_append, Option.or_eq_none_iff, Layout.refusal?_append,
    Option.or_eq_none_iff, Layout.refusal?_append, Option.or_eq_none_iff] at h
  obtain ⟨⟨⟨hheader, hfree⟩, hactions⟩, hextensions⟩ := h
  have hwithFree : (t.header.elements ++ Layout.counted Action.elements
      t.contextFreeActions).refusal? charset = none := by
    rw [Layout.refusal?_append, hheader, hfree, Option.none_or]
  have hwithActions : (t.header.elements ++ Layout.counted Action.elements t.contextFreeActions
      ++ Layout.counted Action.elements t.actions).refusal? charset = none := by
    rw [Layout.refusal?_append, hwithFree, hactions, Option.none_or]
  rw [elements, Layout.written_append_of_none hwithActions,
    Layout.written_append_of_none hwithFree, Layout.written_append_of_none hheader,
    Header.written_elements hfits, written_counted (fun _ => Action.written_elements) hfree,
    written_counted (fun _ => Action.written_elements) hactions,
    written_counted (fun _ _ => Extension.written_elements _) hextensions, wire]

end Wire

/-! ### The strings of a value -/

/-- The strings of a permission level, in the order in which they are written. -/
def PermissionLevel.texts (level : PermissionLevel) : List String :=
  [level.actor, level.permission]

/-- The strings of an action. -/
def Action.texts (action : Action) : List String :=
  action.account :: action.name :: action.authorization.flatMap PermissionLevel.texts

/-- The strings of a transaction. -/
def Transaction.texts (t : Transaction) : List String :=
  t.contextFreeActions.flatMap Action.texts ++ t.actions.flatMap Action.texts

section Texts

variable {charset : Charset}

/-- A list of parts is refused like their strings if every part is. -/
lemma refusal?_counted {α : Type} {layoutOf : α → Layout} {texts : α → List String}
    (h : ∀ x, (layoutOf x).refusal? charset = Layout.refusal? charset ((texts x).map .text))
    (items : List α) : (Layout.counted layoutOf items).refusal? charset
      = Layout.refusal? charset ((items.flatMap texts).map .text) := by
  rw [Layout.counted, Layout.refusal?_bytes_cons]
  induction items with
  | nil => rfl
  | cons x items ih =>
      rw [List.flatMap_cons, List.flatMap_cons, List.map_append, Layout.refusal?_append,
        Layout.refusal?_append, h, ih]

lemma PermissionLevel.refusal?_elements (level : PermissionLevel) :
    level.elements.refusal? charset = Layout.refusal? charset (level.texts.map .text) := rfl

lemma Action.refusal?_elements (action : Action) : action.elements.refusal? charset
    = Layout.refusal? charset (action.texts.map .text) := by
  have htexts : action.texts.map Element.text = [.text action.account, .text action.name]
      ++ (action.authorization.flatMap PermissionLevel.texts).map .text := rfl
  rw [elements, htexts, Layout.refusal?_append, Layout.refusal?_append, Layout.refusal?_append,
    refusal?_counted PermissionLevel.refusal?_elements]
  simp

lemma Header.refusal?_elements_of_fits {header : Header} (h : header.ExpirationFits) :
    header.elements.refusal? charset = none := by
  rw [elements, Layout.refusal?_cons_ok (expirationElement_of_fits h charset)]
  rfl

lemma Header.refusal?_elements_of_not_fits {header : Header} (h : ¬ header.ExpirationFits) :
    header.elements.refusal? charset
      = some (.unpackable (.expiration header.expiration)) := by
  rw [elements, Layout.refusal?_cons_error (expirationElement_of_not_fits h charset)]

/-- The expiration is written first, so its refusal comes before all others. -/
lemma Transaction.refusal?_elements_of_not_fits {t : Transaction}
    (h : ¬ t.header.ExpirationFits) : t.elements.refusal? charset
      = some (.unpackable (.expiration t.header.expiration)) := by
  rw [elements, Layout.refusal?_append, Layout.refusal?_append, Layout.refusal?_append,
    Header.refusal?_elements_of_not_fits h]
  rfl

/-- Apart from the expiration, nothing but a string is refused. -/
lemma Transaction.refusal?_elements_of_fits {t : Transaction} (h : t.header.ExpirationFits) :
    t.elements.refusal? charset = Layout.refusal? charset (t.texts.map .text) := by
  have hnil : (t.extensions.flatMap fun _ => ([] : List String)) = [] :=
    List.flatMap_eq_nil_iff.mpr fun _ _ => rfl
  have hextensions : (Layout.counted Extension.elements t.extensions).refusal? charset
      = Layout.refusal? charset ((t.extensions.flatMap fun _ => ([] : List String)).map .text) :=
    refusal?_counted (by intro extension; rfl) t.extensions
  rw [elements, Layout.refusal?_append, Layout.refusal?_append, Layout.refusal?_append,
    Header.refusal?_elements_of_fits h, refusal?_counted Action.refusal?_elements,
    refusal?_counted Action.refusal?_elements, hextensions, hnil, texts, List.map_append,
    Layout.refusal?_append]
  simp

/-- A list of strings is written as long as the charset has them all. -/
lemma refusal?_texts_eq_none_iff {texts : List String} :
    Layout.refusal? charset (texts.map .text) = none
      ↔ ∀ text ∈ texts, ∃ data, charset.encode text = .ok data := by
  induction texts with
  | nil => simp
  | cons text texts ih =>
      have hsplit : (text :: texts).map Element.text = [.text text] ++ texts.map .text := rfl
      rw [hsplit, Layout.refusal?_append, Option.or_eq_none_iff,
        Layout.refusal?_text_eq_none_iff, ih, List.forall_mem_cons]

/-- What is refused of a list of strings is the first that the charset lacks. -/
lemma exists_first_of_refusal?_texts {texts : List String} {e : PackError}
    (h : Layout.refusal? charset (texts.map .text) = some e) :
    ∃ before text later fault, texts = before ++ text :: later
      ∧ (∀ earlier ∈ before, ∃ data, charset.encode earlier = .ok data)
      ∧ charset.encode text = .error fault ∧ e = .charset charset fault := by
  induction texts with
  | nil => exact absurd h (by simp)
  | cons text texts ih =>
      rw [List.map_cons] at h
      cases htext : charset.encode text with
      | error fault =>
          rw [Layout.refusal?_cons_error (Element.text_of_error htext), Option.some.injEq] at h
          exact ⟨[], text, texts, fault, rfl, by simp, htext, h.symm⟩
      | ok data =>
          rw [Layout.refusal?_cons_ok (Element.text_of_ok htext)] at h
          obtain ⟨before, first, later, fault, hsplit, hbefore, hfirst, he⟩ := ih h
          refine ⟨text :: before, first, later, fault, by rw [hsplit, List.cons_append], ?_,
            hfirst, he⟩
          exact List.forall_mem_cons.mpr ⟨⟨data, htext⟩, hbefore⟩

end Texts

/-! ### The outcome -/

namespace Transaction

variable {t : Transaction} {w : Writer}

/-- Packing a transaction writes all of its parts or refuses the first that is refused. -/
lemma value_pack (t : Transaction) (w : Writer) : ((pack t).on w).value
    = match t.elements.refusal? w.charset with
      | none => (.ok (), { w with bytes := w.bytes ++ t.elements.written w.charset })
      | some e => (.error e, w) := by
  rw [pack_transaction_lays, Layout.result, Layout.refusal?_block, Layout.written_block]
  cases t.elements.refusal? w.charset with
  | none => rfl
  | some e =>
      show (Except.error e, { w with bytes := w.bytes ++ [] }) = _
      rw [List.append_nil]

/-- Nothing is refused if the expiration fits and the charset has all of the strings. -/
lemma refusal?_elements_eq_none_iff {charset : Charset} :
    t.elements.refusal? charset = none ↔ t.header.ExpirationFits
      ∧ ∀ text ∈ t.texts, ∃ data, charset.encode text = .ok data := by
  by_cases h : t.header.ExpirationFits
  · rw [refusal?_elements_of_fits h, refusal?_texts_eq_none_iff, and_iff_right h]
  · rw [refusal?_elements_of_not_fits h]
    simp [h]

end Transaction

/-- **The outcome of packing a transaction**, whatever the writer holds and whatever its charset
is. Packing succeeds exactly if the expiration fits and the charset has all strings, so in UTF-8
exactly if the expiration fits, and then the bytes of the transaction are appended. Otherwise the
writer is left as it was, and the failure is the expiration's if that does not fit, whatever the
strings are, and else that of the first string which the charset lacks. -/
theorem pack_transaction_outcome (t : Transaction) (w : Writer) :
    let (result, after) := ((pack t).on w).value
    (result = .ok () ↔ t.header.ExpirationFits
      ∧ ∀ text ∈ t.texts, ∃ data, w.charset.encode text = .ok data)
    ∧ (w.charset = .utf8 → (result = .ok () ↔ t.header.ExpirationFits))
    ∧ (result = .ok () → after = { w with bytes := w.bytes ++ t.wire w.charset })
    ∧ ∀ e, result = .error e → after = w
      ∧ (¬ t.header.ExpirationFits → e = .unpackable (.expiration t.header.expiration))
      ∧ (t.header.ExpirationFits → ∃ before text later fault,
        t.texts = before ++ text :: later
          ∧ (∀ earlier ∈ before, ∃ data, w.charset.encode earlier = .ok data)
          ∧ w.charset.encode text = .error fault ∧ e = .charset w.charset fault) := by
  rw [Transaction.value_pack]
  have hnone : t.elements.refusal? w.charset = none ↔ t.header.ExpirationFits
      ∧ ∀ text ∈ t.texts, ∃ data, w.charset.encode text = .ok data :=
    Transaction.refusal?_elements_eq_none_iff
  cases h : t.elements.refusal? w.charset with
  | none =>
      obtain ⟨hfits, htexts⟩ := hnone.mp h
      refine ⟨iff_of_true rfl ⟨hfits, htexts⟩, fun _ => iff_of_true rfl hfits, fun _ => ?_,
        fun e he => absurd he (by simp)⟩
      rw [Transaction.written_elements hfits h]
  | some e =>
      have hnot : ¬ (t.header.ExpirationFits
          ∧ ∀ text ∈ t.texts, ∃ data, w.charset.encode text = .ok data) := by
        rw [← hnone, h]
        exact Option.some_ne_none e
      refine ⟨iff_of_false (by simp) hnot, fun hutf8 => iff_of_false (by simp) fun hfits => ?_,
        fun he => absurd he (by simp), fun e' he => ?_⟩
      · exact hnot ⟨hfits, fun text _ => ⟨utf8Bytes text, by rw [hutf8, Charset.encode_utf8]⟩⟩
      · rw [Except.error.injEq] at he
        rw [he] at h
        refine ⟨rfl, fun hfits => ?_, fun hfits => ?_⟩
        · rw [Transaction.refusal?_elements_of_not_fits hfits, Option.some.injEq] at h
          exact h.symm
        · rw [Transaction.refusal?_elements_of_fits hfits] at h
          exact exists_first_of_refusal?_texts h

/-- A transaction with a number in each place of the layout, none of which has two bytes alike. With
a permission that Shift_JIS lacks inside of its second action, everything in front of it has been
written by the time it is refused, and nothing of that stays in the writer. -/
theorem pack_transaction_outcome_accent :
    let shiftJis : Charset := .multiByte .shiftJis (.asciiOnly _)
    let w : Writer := { bytes := [9], charset := shiftJis }
    let t (permission : String) : Transaction :=
      { header :=
        { expiration := ⟨0x04030201, 0, by decide, by decide, by decide⟩
          refBlockNum := 0x0605, refBlockPrefix := 0x0A090807
          maxNetUsageWords := 300, maxCpuUsageMs := 11, delaySec := 128 }
        actions? := some [{ account := "a", name := "b" },
          { account := "c", name := "d", authorization := [{ actor := "e", permission }] }]
        extensions := [{ kind := 0x0D0C, data := [14] }] }
    let data : List UInt8 := [1, 2, 3, 4, 5, 6, 7, 8, 9, 10, 0xAC, 2, 11, 0x80, 1, 0, 2, 1, 97,
      1, 98, 0, 0, 1, 99, 1, 100, 1, 1, 101, 1, 102, 0, 1, 0x8C, 0x1A, 1, 14]
    ((pack (t "f")).on w).value = (.ok (), { w with bytes := [9] ++ data })
    ∧ ((pack (t "é")).on w).value = (.error (.charset shiftJis (.unmappable "é")), w) := by
  intro shiftJis w t data
  have hdata : (t "f").wire shiftJis = data := by decide +kernel
  have hok : ((pack (t "f")).on w).value.1 = .ok () := rfl
  have hresult : ((pack (t "é")).on w).value.1 = .error (.charset shiftJis (.unmappable "é")) := rfl
  have hwritten := (pack_transaction_outcome (t "f") w).2.2.1 hok
  have hafter := ((pack_transaction_outcome (t "é") w).2.2.2 _ hresult).1
  rw [hdata] at hwritten
  exact ⟨Prod.ext hok hwritten, Prod.ext hresult hafter⟩

end TxWire
