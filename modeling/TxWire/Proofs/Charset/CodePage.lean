import TxWire.Charset.Encode
import TxWire.Proofs.Hex
import TxWire.Proofs.Layout.Basic
import TxWire.Proofs.Varint

/-!
Code pages write strings without loss.

* `CodePage.codePoint?`: the code point that a byte stands for, read off the table of the code
  page. `CodePage.Has` are the characters that some byte stands for.
* `CodePage.codePoint?_of_byte?`: the byte of a character stands for that character.
* `CodePage.StandFor`: the bytes of a text stand for its characters, one for one.
* `CodePage.value_string`: what writing a string comes to.
* `page_strings_lossless`: strings that a code page has are written, all others are refused.
-/

namespace TxWire

namespace CodePage

variable {page : CodePage} {c : Char} {b : UInt8}

/-! ### The tables -/

/-- A table has an entry for each byte from `0x80` on. -/
lemma length_upperHalf (page : CodePage) : page.upperHalf.length = 128 := by
  cases page <;> decide +kernel

/-- The code point that a byte stands for, if it stands for any. -/
def codePoint? (page : CodePage) (b : UInt8) : Option Nat :=
  if b.toNat < 128 then some b.toNat
  else page.upperHalf[b.toNat - 128]?.filter (· ≠ 0)

/-- The code page has a byte for the character. -/
def Has (page : CodePage) (c : Char) : Prop := ∃ b, page.codePoint? b = some c.toNat

/-- A byte from `0x80` on stands for what is in its place of the table. -/
lemma codePoint?_of_getElem? {i code : Nat} (h : page.upperHalf[i]? = some code)
    (hne : code ≠ 0) : page.codePoint? (UInt8.ofNat (128 + i)) = some code := by
  have hi : i < 128 := by
    rw [← length_upperHalf page]
    exact (List.getElem?_eq_some_iff.mp h).1
  have hbyte : (UInt8.ofNat (128 + i)).toNat = 128 + i := by
    rw [UInt8.toNat_ofNat', Nat.mod_eq_of_lt (by omega)]
  rw [codePoint?, hbyte, if_neg (by omega), Nat.add_sub_cancel_left, h, Option.filter_some,
    if_pos (decide_eq_true hne)]

lemma codePoint?_of_byte? (h : page.byte? c = some b) : page.codePoint? b = some c.toNat := by
  rw [byte?] at h
  split_ifs at h with hc
  · have hbyte : b.toNat = c.toNat := by
      rw [← Option.some.inj h]
      exact toNat_asciiCode hc
    rw [codePoint?, hbyte, if_pos hc]
  · obtain ⟨i, hi, rfl⟩ := Option.map_eq_some_iff.mp h
    obtain ⟨hlt, hplace, -⟩ := List.findIdx?_eq_some_iff_getElem.mp hi
    refine codePoint?_of_getElem? ?_ (by omega)
    rw [List.getElem?_eq_getElem hlt, of_decide_eq_true hplace]

/-- What a byte stands for is ASCII or in the table. -/
lemma mem_upperHalf_of_codePoint? {code : Nat} (h : page.codePoint? b = some code)
    (hcode : ¬ code < 128) : code ∈ page.upperHalf := by
  rw [codePoint?] at h
  split_ifs at h with hb
  · rw [← Option.some.inj h] at hcode
    exact absurd hb hcode
  · exact List.mem_of_getElem? (Option.filter_eq_some_iff.mp h).1

lemma exists_byte?_iff : (∃ b, page.byte? c = some b) ↔ page.Has c := by
  refine ⟨fun ⟨b, h⟩ => ⟨b, codePoint?_of_byte? h⟩, fun ⟨b, h⟩ => ?_⟩
  rw [byte?]
  split_ifs with hc
  · exact ⟨_, rfl⟩
  · have hfound : (page.upperHalf.findIdx? (· = c.toNat)).isSome := by
      rw [List.findIdx?_isSome, List.any_eq_true]
      exact ⟨c.toNat, mem_upperHalf_of_codePoint? h hc, decide_eq_true rfl⟩
    obtain ⟨i, hi⟩ := Option.isSome_iff_exists.mp hfound
    rw [hi]
    exact ⟨_, rfl⟩

/-! ### Texts -/

/-- There is one byte for each character of a text, and it stands for that character. -/
def StandFor (page : CodePage) (data : List UInt8) (text : List Char) : Prop :=
  data.map page.codePoint? = text.map fun c => some c.toNat

lemma StandFor.length_eq {data : List UInt8} {text : List Char} (h : page.StandFor data text) :
    data.length = text.length := by
  have hlength := congrArg List.length h
  rwa [List.length_map, List.length_map] at hlength

/-- Bytes stand for one text only. -/
lemma StandFor.inj {data : List UInt8} {first second : List Char}
    (hfirst : page.StandFor data first) (hsecond : page.StandFor data second) :
    first = second := by
  have hcodes : Function.Injective fun c : Char => some c.toNat := fun _ _ h =>
    Char.toNat_inj.mp (Option.some.inj h)
  exact List.map_injective_iff.mpr hcodes (hfirst.symm.trans hsecond)

lemma mapM_cons_eq_some_iff {α β : Type} {f : α → Option β} {x : α} {xs : List α} {ys : List β} :
    (x :: xs).mapM f = some ys ↔ ∃ y zs, f x = some y ∧ xs.mapM f = some zs ∧ ys = y :: zs := by
  rw [List.mapM_cons]
  show ((f x).bind fun y => (xs.mapM f).bind fun zs => some (y :: zs)) = some ys ↔ _
  simp only [Option.bind_eq_some_iff, Option.some.injEq]
  exact ⟨fun ⟨y, hy, zs, hzs, h⟩ => ⟨y, zs, hy, hzs, h.symm⟩,
    fun ⟨y, zs, hy, hzs, h⟩ => ⟨y, hy, zs, hzs, h.symm⟩⟩

/-- A text is written if the code page has all of its characters. -/
lemma exists_mapM_byte?_iff {text : List Char} :
    (∃ data, text.mapM page.byte? = some data) ↔ ∀ c ∈ text, page.Has c := by
  induction text with
  | nil => simp
  | cons c text ih =>
      rw [List.forall_mem_cons, ← ih, ← exists_byte?_iff]
      constructor
      · rintro ⟨data, h⟩
        obtain ⟨b, later, hb, hlater, -⟩ := mapM_cons_eq_some_iff.mp h
        exact ⟨⟨b, hb⟩, later, hlater⟩
      · rintro ⟨⟨b, hb⟩, later, hlater⟩
        exact ⟨b :: later, mapM_cons_eq_some_iff.mpr ⟨b, later, hb, hlater, rfl⟩⟩

lemma standFor_of_mapM {text : List Char} {data : List UInt8}
    (h : text.mapM page.byte? = some data) : page.StandFor data text := by
  induction text generalizing data with
  | nil =>
      rw [← Option.some.inj h]
      rfl
  | cons c text ih =>
      obtain ⟨b, later, hb, hlater, rfl⟩ := mapM_cons_eq_some_iff.mp h
      rw [StandFor, List.map_cons, List.map_cons, codePoint?_of_byte? hb, ih hlater]

/-- A string is written as its bytes with the number of characters in front, or not at all. -/
lemma value_string (text : String) {w : Writer} (hw : w.charset = .page page) :
    ((Put.string text).on w).value = match text.toList.mapM page.byte? with
      | some data => (.ok (), { w with bytes := w.bytes ++ (Varint.encode text.length ++ data) })
      | none => (.error (.charset (.page page) (.unmappable text)), w) := by
  have hencode : Charset.encode (.page page) text = match text.toList.mapM page.byte? with
      | some data => .ok data
      | none => .error (.unmappable text) := rfl
  obtain ⟨bytes, charset⟩ := w
  cases hw
  rw [Put.lays_string, Layout.result]
  cases h : text.toList.mapM page.byte? with
  | some data =>
      rw [h] at hencode
      have hlength : data.length = text.length := (standFor_of_mapM h).length_eq
      rw [Layout.refusal?_cons_ok (Element.text_of_ok hencode), Layout.written_text hencode,
        hlength]
      rfl
  | none =>
      rw [h] at hencode
      rw [Layout.refusal?_cons_error (Element.text_of_error hencode),
        Layout.written_cons_error (Element.text_of_error hencode), List.append_nil]

/-- What a successful string has appended. -/
lemma exists_of_value_string {text : String} {w : Writer} {data : List UInt8}
    (hw : w.charset = .page page)
    (h : ((Put.string text).on w).value = (.ok (), { w with bytes := w.bytes ++ data })) :
    ∃ codes, page.StandFor codes text.toList ∧ data = Varint.encode text.length ++ codes := by
  rw [value_string text hw] at h
  cases hcodes : text.toList.mapM page.byte? with
  | some codes =>
      rw [hcodes] at h
      have hbytes := congrArg (fun after => after.2.bytes) h
      exact ⟨codes, standFor_of_mapM hcodes, (List.append_cancel_left hbytes).symm⟩
  | none =>
      rw [hcodes] at h
      exact absurd (congrArg Prod.fst h) (by simp)

/-- The bytes tell the number of characters and then each of them. -/
lemma string_inj {s t : String} {v w : Writer} {data : List UInt8} (hv : v.charset = .page page)
    (hw : w.charset = .page page)
    (hs : ((Put.string s).on v).value = (.ok (), { v with bytes := v.bytes ++ data }))
    (ht : ((Put.string t).on w).value = (.ok (), { w with bytes := w.bytes ++ data })) :
    s = t := by
  obtain ⟨codes, hcodes, hdata⟩ := exists_of_value_string hv hs
  obtain ⟨codes', hcodes', hdata'⟩ := exists_of_value_string hw ht
  obtain ⟨-, rfl⟩ := Varint.encode_append_inj (hdata.symm.trans hdata')
  exact String.toList_inj.mp (hcodes.inj hcodes')

end CodePage

/-- **Code pages write without loss.** A string is written on a writer for a code page, whatever the
writer holds, exactly if the code page has all characters of the string. Then the number of
characters is appended, and behind it the byte of each character in its place, so that the bytes
determine the string. Otherwise the code page refuses the string by name, and the writer stays as
it was. -/
theorem page_strings_lossless (page : CodePage) :
    (∀ (text : String) (w : Writer), w.charset = .page page →
      let (result, after) := ((Put.string text).on w).value
      (result = .ok () ↔ ∀ c ∈ text.toList, page.Has c)
      ∧ (result = .ok () → ∃ data, page.StandFor data text.toList
        ∧ after = { w with bytes := w.bytes ++ (Varint.encode text.length ++ data) })
      ∧ (result ≠ .ok () →
        result = .error (.charset (.page page) (.unmappable text)) ∧ after = w))
    ∧ ∀ (s t : String) (v w : Writer) (data : List UInt8),
      v.charset = .page page → w.charset = .page page →
      ((Put.string s).on v).value = (.ok (), { v with bytes := v.bytes ++ data }) →
      ((Put.string t).on w).value = (.ok (), { w with bytes := w.bytes ++ data }) → s = t := by
  refine ⟨fun text w hw => ?_, fun s t v w data hv hw hs ht => CodePage.string_inj hv hw hs ht⟩
  have hhas : (∃ data, text.toList.mapM page.byte? = some data) ↔ ∀ c ∈ text.toList, page.Has c :=
    CodePage.exists_mapM_byte?_iff
  rw [CodePage.value_string text hw]
  cases h : text.toList.mapM page.byte? with
  | some data =>
      refine ⟨iff_of_true rfl (hhas.mp ⟨data, h⟩), fun _ => ?_, fun hne => absurd rfl hne⟩
      exact ⟨data, CodePage.standFor_of_mapM h, rfl⟩
  | none =>
      refine ⟨iff_of_false (by simp) fun hall => ?_, fun hok => absurd hok (by simp),
        fun _ => ⟨rfl, rfl⟩⟩
      obtain ⟨data, hdata⟩ := hhas.mpr hall
      exact absurd (h.symm.trans hdata) (by simp)

/-- In windows-1252 the euro sign is one byte. In ISO-8859-5 there is none, and no reference is
written in its place. -/
theorem page_strings_lossless_euro :
    (∃ data, CodePage.windows1252.StandFor data "5 €".toList
      ∧ ((Put.string "5 €").on { bytes := [9], charset := .page .windows1252 }).value.2
        = { bytes := [9] ++ (Varint.encode 3 ++ data), charset := .page .windows1252 })
    ∧ ((Put.string "5 €").on { bytes := [9], charset := .page .iso5 }).value
      = (.error (.charset (.page .iso5) (.unmappable "5 €")),
        { bytes := [9], charset := .page .iso5 }) := by
  have hok : ((Put.string "5 €").on { bytes := [9], charset := .page .windows1252 }).value.1
      = .ok () := rfl
  have hfault : ((Put.string "5 €").on { bytes := [9], charset := .page .iso5 }).value.1
      ≠ .ok () := nofun
  obtain ⟨hresult, hafter⟩ := ((page_strings_lossless .iso5).1 "5 €" _ rfl).2.2 hfault
  exact ⟨((page_strings_lossless .windows1252).1 "5 €" _ rfl).2.1 hok, Prod.ext hresult hafter⟩

end TxWire
