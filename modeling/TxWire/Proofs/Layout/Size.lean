import TxWire.Proofs.Layout.Kinds
import TxWire.Proofs.Varint

/-!
The sizes computed without packing.

* `Layout.Measures`: a layout takes a number of bytes in UTF-8, unless it is refused. The lemmas
  `measures_…` follow the recursion of the sizes and that of the layouts at once, and
  `HasSize` collects the kinds whose computed size measures their layout.
* `packedSize_agrees`: packing adds `packedSize` bytes to a writer for UTF-8, and a list
  `collectionSize` bytes, for every kind of value.
-/

namespace TxWire

/-! ### The length of a layout in UTF-8 -/

lemma length_utf8Bytes (text : String) : (utf8Bytes text).length = text.utf8ByteSize := by
  rw [utf8Bytes_eq_data, Array.length_toList]
  rfl

/-- In UTF-8 a layout takes a number of bytes, unless it is refused. -/
def Layout.Measures (layout : Layout) (n : ℕ) : Prop :=
  layout.refusal? .utf8 = none → (layout.written .utf8).length = n

namespace Layout

variable {l m : Layout} {a b : ℕ}

lemma measures_nil : Measures [] 0 := fun _ => rfl

lemma measures_bytes (data : List UInt8) : Measures [.bytes data] data.length := by
  intro _
  rw [written_bytes_cons, written_nil, List.append_nil]

lemma Measures.append (hl : l.Measures a) (hm : m.Measures b) : (l ++ m).Measures (a + b) := by
  intro h
  rw [refusal?_append, Option.or_eq_none_iff] at h
  rw [written_append_of_none h.1, List.length_append, hl h.1, hm h.2]

lemma measures_varint (n : ℕ) : Measures [.bytes (Varint.encode n)] (Varint.encodedLength n) := by
  have h := measures_bytes (Varint.encode n)
  rwa [Varint.length_encode] at h

lemma measures_varBytes (data : List UInt8) :
    Measures [.bytes (Varint.encode data.length), .bytes data] (varBytesSize data) :=
  (measures_varint data.length).append (measures_bytes data)

lemma measures_text (text : String) : Measures [.text text] (stringSize text) := by
  intro _
  rw [written_text (Charset.encode_utf8 text), List.length_append, Varint.length_encode,
    length_utf8Bytes, stringSize]

lemma measures_block (h : l.Measures a) : Measures [block l] a := by
  intro hr
  rw [refusal?_block] at hr
  rw [written_block, if_pos hr, h hr]

end Layout

/-- A kind of values whose computed size is the length of its layout. -/
class HasSize (α : Type) [Packable α] [HasLayout α] : Prop where
  measures_layoutOf (x : α) : (layoutOf x).Measures (packedSize x)

export HasSize (measures_layoutOf)

lemma Layout.measures_counted {α : Type} [Packable α] [HasLayout α] [HasSize α]
    (items : List α) : (counted layoutOf items).Measures (collectionSize (some items)) := by
  have hitems : Layout.Measures (items.flatMap layoutOf) (packedSizes items) := by
    induction items with
    | nil => exact measures_nil
    | cons x items ih => exact (measures_layoutOf x).append ih
  exact (measures_varint items.length).append hitems

/-! ### The kinds of values -/

instance : HasSize String where
  measures_layoutOf := Layout.measures_text

instance : HasSize PermissionLevel where
  measures_layoutOf level :=
    (Layout.measures_text level.actor).append (Layout.measures_text level.permission)

instance : HasSize Action where
  measures_layoutOf action :=
    (((Layout.measures_text action.account).append (Layout.measures_text action.name)).append
      (Layout.measures_counted action.authorization)).append (Layout.measures_varBytes action.data)

instance : HasSize Extension where
  measures_layoutOf extension :=
    (Layout.measures_varint extension.kind.toNat).append (Layout.measures_varBytes extension.data)

/-- An expiration takes four bytes if it fits at all. -/
lemma Header.measures_expiration (header : Header) :
    Layout.Measures [header.expirationElement] 4 := by
  intro h
  rw [written_expirationElement (expirationFits_of_refusal? h), length_littleEndian]

instance : HasSize Header where
  measures_layoutOf header := by
    have hlimits := ((Layout.measures_varint header.maxNetUsageWords.toNat).append
      (Layout.measures_bytes [header.maxCpuUsageMs])).append
        (Layout.measures_varint header.delaySec.toNat)
    have hreference := (Layout.measures_bytes (littleEndian 2 header.refBlockNum.toNat)).append
      (Layout.measures_bytes (littleEndian 4 header.refBlockPrefix.toNat))
    have hall := (header.measures_expiration.append hreference).append hlimits
    rw [length_littleEndian, length_littleEndian, List.length_singleton] at hall
    have hsum : packedSize header = 4 + (2 + 4)
        + (Varint.encodedLength header.maxNetUsageWords.toNat + 1
          + Varint.encodedLength header.delaySec.toNat) := by
      show fixedHeaderSize + _ + _ = _
      rw [fixedHeaderSize]
      omega
    rw [hsum]
    exact hall

instance : HasSize Transaction where
  measures_layoutOf t := by
    refine Layout.measures_block ?_
    exact (((measures_layoutOf t.header).append
      (Layout.measures_counted t.contextFreeActions)).append
        (Layout.measures_counted t.actions)).append (Layout.measures_counted t.extensions)

/-! ### Sizes and writers -/

/-- A measured layout tells by how much a writer for UTF-8 grows. -/
lemma Put.Lays.grows {p : Put Unit} {l : Layout} {n : ℕ} (hp : p.Lays l) (hl : l.Measures n)
    {w : Writer} (hw : w.charset = .utf8) (hok : (p.on w).value.1 = .ok ()) :
    ∃ data, (p.on w).value.2 = { w with bytes := w.bytes ++ data } ∧ data.length = n ∧
      p.output .utf8 = .ok data := by
  rw [hp w, hw] at hok ⊢
  have hr : l.refusal? .utf8 = none := Layout.result_eq_ok_iff.mp hok
  exact ⟨l.written .utf8, rfl, hl hr, hp.output_eq_ok_iff.mpr ⟨hr, rfl⟩⟩

/-- The sizes computed for a kind of values are the sizes that packing comes to in UTF-8: of one
value, which is packed to the same bytes on its own, and of a list or of no list. -/
structure SizesAgree (α : Type) [Packable α] : Prop where
  value (x : α) (w : Writer) : w.charset = .utf8 → ((pack x).on w).value.1 = .ok () →
    ∃ data, ((pack x).on w).value.2 = { w with bytes := w.bytes ++ data } ∧
      data.length = packedSize x ∧ (packedBytes x).value = .ok data
  list (items : Option (List α)) (w : Writer) : w.charset = .utf8 →
    ((Put.collection items).on w).value.1 = .ok () →
    ∃ data, ((Put.collection items).on w).value.2 = { w with bytes := w.bytes ++ data } ∧
      data.length = collectionSize items

lemma sizesAgree (α : Type) [Packable α] [HasLayout α] [HasSize α] : SizesAgree α where
  value x _ hw hok := by
    rw [Put.value_packedBytes]
    exact (pack_lays x).grows (measures_layoutOf x) hw hok
  list items _ hw hok := by
    obtain ⟨data, hdata, hlength, -⟩ :=
      (Put.lays_collection items).grows (Layout.measures_counted (items.getD [])) hw hok
    exact ⟨data, hdata, hlength⟩

/-- **Sizes agree with packing**: for every kind of value, on every writer for UTF-8, a success
adds exactly the computed number of bytes. -/
theorem packedSize_agrees :
    SizesAgree String ∧ SizesAgree PermissionLevel ∧ SizesAgree Action ∧ SizesAgree Extension ∧
      SizesAgree Header ∧ SizesAgree Transaction :=
  ⟨sizesAgree String, sizesAgree PermissionLevel, sizesAgree Action, sizesAgree Extension,
    sizesAgree Header, sizesAgree Transaction⟩

/-- The length of this data takes two bytes, one more than a shorter one would. -/
theorem packedSize_agrees_two_byte_length :
    let t : Transaction :=
      { actions? := some [{ account := "a", name := "b", data := List.replicate 128 0 }] }
    let w : Writer := { bytes := [7], charset := .utf8 }
    ∃ data, ((pack t).on w).value.2 = { w with bytes := 7 :: data } ∧ data.length = 151 := by
  intro t w
  have hok : ((pack t).on w).value.1 = .ok () := rfl
  have hsize : packedSize t = 151 := by decide +kernel
  obtain ⟨data, hdata, hlength, -⟩ := packedSize_agrees.2.2.2.2.2.value t w rfl hok
  exact ⟨data, hdata, hlength.trans hsize⟩

end TxWire
