import TxWire.Proofs.Charset.Ascii
import TxWire.Proofs.Layout.Outcome
import TxWire.Proofs.Layout.Program
import TxWire.Proofs.Layout.Size

/-!
What packing owes to the charset of the writer: the strings, and nothing else.

* `PermissionLevel.wire_congr`, `Action.wire_congr`, `Transaction.wire_congr`: two charsets that
  write the strings of a value alike write the value alike.
* `PacksAlike`: packing a value comes to the same on a writer for some charset as on one for UTF-8.
* `WireValue.texts`, `WireValue.ExpirationFits`: all that can be refused of a value of any kind.
* `RefusesStrings`: in a charset for reading, packing fails wherever it comes to a string.
* `ascii_packs_alike`: actions and transactions with plain ASCII strings are packed as in UTF-8 by
  every charset that writes. The charsets for reading refuse whatever has a string.
-/

namespace TxWire

variable {charset c d : Charset}

/-! ### Values whose strings are written alike -/

lemma Charset.wire_of_ok {text : String} {data : List UInt8}
    (h : charset.encode text = .ok data) :
    charset.wire text = Varint.encode data.length ++ data := by
  rw [wire, h]

lemma countedWire_congr {α : Type} {wire wire' : α → List UInt8} {items : List α}
    (h : ∀ x ∈ items, wire x = wire' x) : countedWire wire items = countedWire wire' items := by
  rw [countedWire, countedWire, List.flatMap_congr h]

lemma PermissionLevel.wire_congr {level : PermissionLevel}
    (h : ∀ text ∈ level.texts, c.wire text = d.wire text) : level.wire c = level.wire d := by
  rw [wire, wire, h level.actor (by simp [texts]), h level.permission (by simp [texts])]

lemma Action.wire_congr {action : Action}
    (h : ∀ text ∈ action.texts, c.wire text = d.wire text) : action.wire c = action.wire d := by
  have hlevels : ∀ level ∈ action.authorization, level.wire c = level.wire d := by
    intro level hlevel
    refine PermissionLevel.wire_congr fun text htext => h text ?_
    exact List.mem_cons_of_mem _ (List.mem_cons_of_mem _
      (List.mem_flatMap.mpr ⟨level, hlevel, htext⟩))
  rw [wire, wire, h action.account (by simp [texts]), h action.name (by simp [texts]),
    countedWire_congr hlevels]

lemma Transaction.wire_congr {t : Transaction}
    (h : ∀ text ∈ t.texts, c.wire text = d.wire text) : t.wire c = t.wire d := by
  have hfree : ∀ action ∈ t.contextFreeActions, action.wire c = action.wire d := fun action hmem =>
    Action.wire_congr fun text htext =>
      h text (List.mem_append_left _ (List.mem_flatMap.mpr ⟨action, hmem, htext⟩))
  have hactions : ∀ action ∈ t.actions, action.wire c = action.wire d := fun action hmem =>
    Action.wire_congr fun text htext =>
      h text (List.mem_append_right _ (List.mem_flatMap.mpr ⟨action, hmem, htext⟩))
  rw [wire, wire, countedWire_congr hfree, countedWire_congr hactions]

/-! ### Packing as in UTF-8 -/

/-- Packing a value in a charset comes to the same as packing it in UTF-8, whatever the two writers
hold: the same result and the same bytes, as many as computed if it is a success. -/
def PacksAlike {α : Type} [Packable α] (charset : Charset) (x : α) : Prop :=
  ∀ w u : Writer, w.charset = charset → u.charset = .utf8 → ∃ result data,
    ((pack x).on w).value = (result, { w with bytes := w.bytes ++ data })
      ∧ ((pack x).on u).value = (result, { u with bytes := u.bytes ++ data })
      ∧ (result = .ok () → data.length = packedSize x)

lemma packsAlike_of_layout {α : Type} [Packable α] [HasLayout α] [HasSize α] {x : α}
    (hrefusal : (layoutOf x).refusal? charset = (layoutOf x).refusal? .utf8)
    (hwritten : (layoutOf x).written charset = (layoutOf x).written .utf8) :
    PacksAlike charset x := by
  intro w u hw hu
  refine ⟨(layoutOf x).result .utf8, (layoutOf x).written .utf8, ?_, ?_, fun hok => ?_⟩
  · rw [pack_lays, hw, Layout.result, hrefusal, hwritten, Layout.result]
  · rw [pack_lays, hu]
  · exact measures_layoutOf x (Layout.result_eq_ok_iff.mp hok)

/-- Strings that a charset writes as UTF-8 does it have the same place in the wire format. -/
lemma wire_eq_of_encode {texts : List String}
    (h : ∀ text ∈ texts, charset.encode text = .ok (utf8Bytes text)) :
    ∀ text ∈ texts, charset.wire text = Charset.utf8.wire text := by
  intro text htext
  rw [Charset.wire_of_ok (h text htext), Charset.wire_of_ok (Charset.encode_utf8 text)]

/-- They are not refused either. -/
lemma refusal?_texts_of_encode {texts : List String}
    (h : ∀ text ∈ texts, charset.encode text = .ok (utf8Bytes text)) :
    Layout.refusal? charset (texts.map .text) = none :=
  refusal?_texts_eq_none_iff.mpr fun text htext => ⟨_, h text htext⟩

lemma Action.packsAlike {action : Action}
    (h : ∀ text ∈ action.texts, charset.encode text = .ok (utf8Bytes text)) :
    PacksAlike charset action := by
  have hcharset : action.elements.refusal? charset = none := by
    rw [refusal?_elements, refusal?_texts_of_encode h]
  have hutf8 : action.elements.refusal? .utf8 = none := by
    rw [refusal?_elements, refusal?_texts_of_encode fun text _ => Charset.encode_utf8 text]
  refine packsAlike_of_layout (hcharset.trans hutf8.symm) ?_
  show action.elements.written charset = action.elements.written .utf8
  rw [written_elements hcharset, written_elements hutf8, wire_congr (wire_eq_of_encode h)]

/-- It is enough to look at what is in the block of a transaction. -/
lemma Transaction.packsAlike_of_elements {t : Transaction}
    (hrefusal : t.elements.refusal? charset = t.elements.refusal? .utf8)
    (hwritten : t.elements.refusal? .utf8 = none →
      t.elements.written charset = t.elements.written .utf8) : PacksAlike charset t := by
  refine packsAlike_of_layout ?_ ?_
  · show Layout.refusal? charset [Layout.block t.elements]
      = Layout.refusal? .utf8 [Layout.block t.elements]
    rw [Layout.refusal?_block, Layout.refusal?_block, hrefusal]
  · show Layout.written charset [Layout.block t.elements]
      = Layout.written .utf8 [Layout.block t.elements]
    rw [Layout.written_block, Layout.written_block, hrefusal]
    exact if_ctx_congr Iff.rfl hwritten fun _ => rfl

lemma Transaction.packsAlike {t : Transaction}
    (h : ∀ text ∈ t.texts, charset.encode text = .ok (utf8Bytes text)) :
    PacksAlike charset t := by
  by_cases hfits : t.header.ExpirationFits
  · have hcharset : t.elements.refusal? charset = none := by
      rw [refusal?_elements_of_fits hfits, refusal?_texts_of_encode h]
    have hutf8 : t.elements.refusal? .utf8 = none := by
      rw [refusal?_elements_of_fits hfits,
        refusal?_texts_of_encode fun text _ => Charset.encode_utf8 text]
    refine packsAlike_of_elements (hcharset.trans hutf8.symm) fun _ => ?_
    rw [written_elements hfits hcharset, written_elements hfits hutf8,
      wire_congr (wire_eq_of_encode h)]
  · -- the expiration is refused in front of all strings, whatever the charset is
    have hrefusal (e : Charset) : t.elements.refusal? e
        = some (.unpackable (.expiration t.header.expiration)) :=
      refusal?_elements_of_not_fits hfits
    refine packsAlike_of_elements ((hrefusal charset).trans (hrefusal .utf8).symm) fun hnone => ?_
    exact absurd ((hrefusal .utf8).symm.trans hnone) (by simp)

/-! ### Charsets for reading -/

lemma Charset.isReadOnly_iff :
    charset.isReadOnly = true ↔ charset ∈ [.utf16le, .utf16be, .replacement] := by
  cases charset <;> simp [isReadOnly]

/-- The strings of a value of any kind, in the order in which they are written. -/
def WireValue.texts : WireValue → List String
  | .string x => [x]
  | .level x => x.texts
  | .action x => x.texts
  | .extension _ => []
  | .header _ => []
  | .transaction x => x.texts

/-- The wire format has room for the expiration, if the value has one. -/
def WireValue.ExpirationFits : WireValue → Prop
  | .header x => x.ExpirationFits
  | .transaction x => x.header.ExpirationFits
  | _ => True

/-- Apart from the expiration, nothing but the strings of a value is refused. -/
lemma WireValue.refusal?_elements {x : WireValue} (h : x.ExpirationFits) :
    (layoutOf x).refusal? charset = Layout.refusal? charset (x.texts.map .text) := by
  cases x with
  | string text => rfl
  | level level => exact PermissionLevel.refusal?_elements level
  | action action => exact Action.refusal?_elements action
  | extension extension => rfl
  | header header => exact Header.refusal?_elements_of_fits h
  | transaction t =>
      show Layout.refusal? charset [Layout.block t.elements] = _
      rw [Layout.refusal?_block, Transaction.refusal?_elements_of_fits h]
      rfl

lemma refusal?_texts_of_isReadOnly (h : charset.isReadOnly = true) {texts : List String}
    (hne : texts ≠ []) :
    Layout.refusal? charset (texts.map .text) = some (.charset charset .readOnly) := by
  obtain ⟨text, later, rfl⟩ := List.exists_cons_of_ne_nil hne
  rw [List.map_cons,
    Layout.refusal?_cons_error (Element.text_of_error (Charset.encode_of_isReadOnly h text))]

/-- A value is refused for its strings if it has any, and else it is not refused. -/
lemma WireValue.refusal?_of_isReadOnly (h : charset.isReadOnly = true) {x : WireValue}
    (hfits : x.ExpirationFits) : (layoutOf x).refusal? charset
      = if x.texts = [] then none else some (.charset charset .readOnly) := by
  rw [refusal?_elements hfits]
  split_ifs with hnil
  · rw [hnil]
    rfl
  · exact refusal?_texts_of_isReadOnly h hnil

/-- In a charset for reading, every string is refused, wherever packing comes to it: in a value,
and in a list behind any values whose expirations fit. -/
structure RefusesStrings (charset : Charset) : Prop where
  value (x : WireValue) (w : Writer) : w.charset = charset → x.ExpirationFits → x.texts ≠ [] →
    ((pack x).on w).value.1 = .error (.charset charset .readOnly)
  collection (before : List WireValue) (x : WireValue) (after : List WireValue) (w : Writer) :
    w.charset = charset → (∀ y ∈ before ++ [x], y.ExpirationFits) → x.texts ≠ [] →
    ((Put.collection (some (before ++ x :: after))).on w).value.1
      = .error (.charset charset .readOnly)
  /-- An expiration that does not fit is refused in front of the strings. -/
  expiration (t : Transaction) (w : Writer) : w.charset = charset → ¬ t.header.ExpirationFits →
    ((pack t).on w).value.1 = .error (.unpackable (.expiration t.header.expiration))

/-- Of values whose expirations fit, those in front are packed or refused for their strings, and
the last is refused. -/
lemma refusal?_flatMap_concat (h : charset.isReadOnly = true) {before : List WireValue}
    {x : WireValue} (hfits : ∀ y ∈ before ++ [x], y.ExpirationFits) (hne : x.texts ≠ []) :
    Layout.refusal? charset ((before ++ [x]).flatMap layoutOf)
      = some (.charset charset .readOnly) := by
  induction before with
  | nil =>
      rw [List.nil_append, List.flatMap_singleton,
        WireValue.refusal?_of_isReadOnly h (hfits x (List.mem_singleton_self x)), if_neg hne]
  | cons y before ih =>
      rw [List.cons_append] at hfits
      obtain ⟨hy, hbefore⟩ := List.forall_mem_cons.mp hfits
      rw [List.cons_append, List.flatMap_cons, Layout.refusal?_append, ih hbefore,
        WireValue.refusal?_of_isReadOnly h hy]
      split_ifs <;> rfl

lemma refusesStrings (h : charset.isReadOnly = true) : RefusesStrings charset where
  value x w hw hfits hne := by
    rw [pack_lays, hw, Layout.result, WireValue.refusal?_of_isReadOnly h hfits, if_neg hne]
  collection before x after w hw hfits hne := by
    have hsplit : before ++ x :: after = (before ++ [x]) ++ after := by simp
    have hrefused : (Layout.counted layoutOf (before ++ x :: after)).refusal? charset
        = some (.charset charset .readOnly) := by
      rw [Layout.counted, Layout.refusal?_bytes_cons, hsplit, List.flatMap_append,
        Layout.refusal?_append, refusal?_flatMap_concat h hfits hne, Option.some_or]
    rw [Put.lays_collection, hw, Layout.result, Option.getD_some, hrefused]
  expiration t w hw hfits := by
    rw [Transaction.value_pack, Transaction.refusal?_elements_of_not_fits hfits]

/-- A transaction without actions has no strings. -/
lemma Transaction.texts_eq_nil {t : Transaction} (hfree : t.contextFreeActions = [])
    (hactions : t.actions = []) : t.texts = [] := by
  rw [texts, hfree, hactions]
  rfl

/-- **Charsets and UTF-8.** In a charset for writing, actions and transactions whose strings are
plain ASCII are packed as in UTF-8: with the same result and the same bytes, as many as computed
without packing. The charsets for reading refuse every string, the empty one too, by their own
name, and leave a transaction without actions as it is in UTF-8. -/
theorem ascii_packs_alike (charset : Charset) :
    (charset ∉ [.utf16le, .utf16be, .replacement] →
      (∀ action : Action, (∀ text ∈ action.texts, charset.PlainAscii text) →
        PacksAlike charset action)
      ∧ ∀ t : Transaction, (∀ text ∈ t.texts, charset.PlainAscii text) → PacksAlike charset t)
    ∧ (charset ∈ [.utf16le, .utf16be, .replacement] → RefusesStrings charset
      ∧ ∀ t : Transaction, t.contextFreeActions = [] → t.actions = [] →
        PacksAlike charset t) := by
  rw [← Charset.isReadOnly_iff, Bool.not_eq_true]
  refine ⟨fun hwrite => ⟨fun action h => ?_, fun t h => ?_⟩,
    fun hread => ⟨refusesStrings hread, fun t hfree hactions => ?_⟩⟩
  · exact Action.packsAlike fun text htext => Charset.encode_of_plainAscii hwrite (h text htext)
  · exact Transaction.packsAlike fun text htext =>
      Charset.encode_of_plainAscii hwrite (h text htext)
  · refine Transaction.packsAlike fun text htext => ?_
    rw [Transaction.texts_eq_nil hfree hactions] at htext
    exact absurd htext List.not_mem_nil

/-- ISO-2022-JP keeps state while it writes, and starts with ASCII: a name of such characters is
written as in UTF-8. In UTF-16LE, not even an empty string is packed. -/
theorem ascii_packs_alike_stateful :
    PacksAlike (.multiByte .iso2022Jp (.asciiOnly _))
      ({ account := "cred", name := "issue" } : Action)
    ∧ ((pack (WireValue.string "")).on (Writer.empty .utf16le)).value.1
      = .error (.charset .utf16le .readOnly) := by
  have hplain : ∀ text ∈ ({ account := "cred", name := "issue" } : Action).texts,
      (Charset.multiByte .iso2022Jp (.asciiOnly _)).PlainAscii text := by decide +kernel
  have hrefuses : RefusesStrings .utf16le := ((ascii_packs_alike .utf16le).2 (by simp)).1
  exact ⟨((ascii_packs_alike (.multiByte .iso2022Jp (.asciiOnly _))).1 (by simp)).1 _ hplain,
    hrefuses.value (.string "") _ rfl trivial (by decide)⟩

end TxWire
