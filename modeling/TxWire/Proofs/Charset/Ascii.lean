import TxWire.Charset.Encode
import TxWire.Proofs.Hex

/-!
ASCII texts are written alike in every charset that strings can be written in.

* `Charset.PlainAscii`: the texts in question. ISO-2022-JP keeps three control characters for its
  own use, so there they do not count as plain.
* `Charset.encode_of_plainAscii`: they are written as UTF-8 does it. Code pages have each character
  in the place of its code, and of the conversions for other charsets this is what is known.
-/

namespace TxWire

/-- A list whose elements all have an image. -/
lemma mapM_eq_some_map {α β : Type} {f : α → Option β} {g : α → β} {xs : List α}
    (h : ∀ x ∈ xs, f x = some (g x)) : xs.mapM f = some (xs.map g) := by
  induction xs with
  | nil => rfl
  | cons x xs ih =>
      obtain ⟨hx, hxs⟩ := List.forall_mem_cons.mp h
      rw [List.mapM_cons, hx, ih hxs]
      rfl

lemma CodePage.byte?_of_lt {page : CodePage} {c : Char} (h : c.toNat < 128) :
    page.byte? c = some (asciiCode c) := if_pos h

namespace Charset

/-- A text of ASCII characters, in ISO-2022-JP without the shifts and the escape. -/
def PlainAscii (charset : Charset) (text : String) : Prop := IsPlain charset.reserved text

instance (charset : Charset) (text : String) : Decidable (charset.PlainAscii text) :=
  inferInstanceAs (Decidable (IsPlain charset.reserved text))

lemma encode?_of_plainAscii {charset : Charset} {text : String}
    (hwritable : charset.isReadOnly = false) (h : charset.PlainAscii text) :
    charset.encode? text = some (utf8Bytes text) := by
  cases charset with
  | utf8 => rfl
  | page page =>
      have hlt : ∀ c ∈ text.toList, c.toNat < 128 := fun c hc => (h c hc).1
      rw [utf8Bytes_of_ascii hlt]
      exact mapM_eq_some_map fun c hc => CodePage.byte?_of_lt (hlt c hc)
  | multiByte _ conversion => exact conversion.encode?_plain text h
  | utf16le | utf16be | replacement => exact absurd hwritable (by decide)

/-- Plain ASCII is written as in UTF-8. -/
lemma encode_of_plainAscii {charset : Charset} {text : String}
    (hwritable : charset.isReadOnly = false) (h : charset.PlainAscii text) :
    charset.encode text = .ok (utf8Bytes text) := by
  rw [encode, hwritable, if_neg Bool.false_ne_true, encode?_of_plainAscii hwritable h]

/-- A charset for reading refuses every text. -/
lemma encode_of_isReadOnly {charset : Charset} (h : charset.isReadOnly = true) (text : String) :
    charset.encode text = .error .readOnly := if_pos h

end Charset

end TxWire
