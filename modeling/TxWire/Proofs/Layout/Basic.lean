import Mathlib.Tactic
import TxWire.Pack.Packable

/-!
Layouts: what a computation appends to a writer, part by part.

A layout is a list of elements, and an element either takes some bytes in a charset or is refused
there. A computation that lays out a list of elements appends them in order up to the first that
is refused, whatever the writer holds, and fails exactly with that refusal.

* `Element`, `Layout`: the parts and their order, as data that no writer is needed for.
* `Layout.refusal?`, `Layout.written`: the first refusal, and the bytes in front of it;
  `refusal?_append` and `written_append` split both where two layouts meet.
* `Put.Lays`: a computation does to every writer what a layout says. `Put.Lays.bind`,
  `Put.lays_collection` and `Put.lays_atomic` give the layouts of compound computations.
* `Put.output`: what a computation writes on its own; `Put.Lays.output_eq_ok_iff` reads it off
  the layout.
* `HasLayout`: the kinds of values whose layout is known.
-/

namespace TxWire

/-- UTF-8 writes every string. -/
lemma Charset.encode_utf8 (text : String) : utf8.encode text = .ok (utf8Bytes text) := rfl

/-! ### Elements and layouts -/

/-- A part of a layout: the bytes it takes in a charset, or why it is refused there. -/
abbrev Element := Charset → Except PackError (List UInt8)

namespace Element

/-- Bytes that are the same in all charsets. -/
def bytes (data : List UInt8) : Element := fun _ => .ok data

/-- A string in the charset, its length in bytes in front. -/
def text (string : String) : Element := fun charset =>
  match charset.encode string with
  | .ok data => .ok (Varint.encode data.length ++ data)
  | .error fault => .error (.charset charset fault)

/-- Why an element is refused, if it is. -/
def refusal? (charset : Charset) (element : Element) : Option PackError :=
  match element charset with
  | .ok _ => none
  | .error e => some e

lemma text_of_ok {charset : Charset} {string : String} {data : List UInt8}
    (h : charset.encode string = .ok data) :
    text string charset = .ok (Varint.encode data.length ++ data) := by
  rw [text, h]

lemma text_of_error {charset : Charset} {string : String} {fault : Charset.Fault}
    (h : charset.encode string = .error fault) :
    text string charset = .error (.charset charset fault) := by
  rw [text, h]

end Element

/-- What is written, part by part. -/
abbrev Layout := List Element

namespace Layout

variable {charset : Charset} {l m : Layout}

/-- The first refusal of a layout, if there is any. -/
def refusal? (charset : Charset) (layout : Layout) : Option PackError :=
  layout.findSome? (Element.refusal? charset)

/-- The bytes of the elements in front of the first that is refused. -/
def written (charset : Charset) : Layout → List UInt8
  | [] => []
  | element :: rest => match element charset with
    | .ok data => data ++ written charset rest
    | .error _ => []

/-- How writing a layout ends. -/
def result (charset : Charset) (layout : Layout) : Except PackError Unit :=
  match layout.refusal? charset with
  | none => .ok ()
  | some e => .error e

/-- A number of parts, then each of them. -/
def counted {α : Type} (layoutOf : α → Layout) (items : List α) : Layout :=
  .bytes (Varint.encode items.length) :: items.flatMap layoutOf

/-- A layout as one element: all of it or nothing. -/
def block (layout : Layout) : Element := fun charset =>
  match layout.refusal? charset with
  | none => .ok (layout.written charset)
  | some e => .error e

@[simp] lemma refusal?_nil : refusal? charset [] = none := rfl

@[simp] lemma written_nil : written charset [] = [] := rfl

/-- The first refusal in a row of two layouts is one of the first, or else of the second. -/
@[simp] lemma refusal?_append :
    refusal? charset (l ++ m) = (refusal? charset l).or (refusal? charset m) := by
  rw [refusal?, List.findSome?_append]
  rfl

lemma refusal?_cons_ok {element : Element} {data : List UInt8} (h : element charset = .ok data) :
    refusal? charset (element :: l) = refusal? charset l := by
  rw [refusal?, List.findSome?_cons, Element.refusal?, h]
  rfl

lemma refusal?_cons_error {element : Element} {e : PackError} (h : element charset = .error e) :
    refusal? charset (element :: l) = some e := by
  rw [refusal?, List.findSome?_cons, Element.refusal?, h]

lemma written_cons_ok {element : Element} {data : List UInt8} (h : element charset = .ok data) :
    written charset (element :: l) = data ++ written charset l := by
  rw [written, h]

lemma written_cons_error {element : Element} {e : PackError} (h : element charset = .error e) :
    written charset (element :: l) = [] := by
  rw [written, h]

@[simp] lemma refusal?_bytes_cons (data : List UInt8) :
    refusal? charset (Element.bytes data :: l) = refusal? charset l := rfl

@[simp] lemma written_bytes_cons (data : List UInt8) :
    written charset (Element.bytes data :: l) = data ++ written charset l := rfl

/-- A string is refused only where the charset cannot write it. -/
lemma refusal?_text_eq_none_iff {text : String} :
    refusal? charset [.text text] = none ↔ ∃ data, charset.encode text = .ok data := by
  cases h : charset.encode text with
  | ok data => rw [refusal?_cons_ok (Element.text_of_ok h)]; simp
  | error fault => rw [refusal?_cons_error (Element.text_of_error h)]; simp

lemma written_text {text : String} {data : List UInt8} (h : charset.encode text = .ok data) :
    written charset [.text text] = Varint.encode data.length ++ data := by
  rw [written_cons_ok (Element.text_of_ok h), written_nil, List.append_nil]

/-- Nothing follows a refusal. -/
lemma written_append : written charset (l ++ m) =
    written charset l ++ if refusal? charset l = none then written charset m else [] := by
  induction l with
  | nil => simp
  | cons element l ih =>
      rw [List.cons_append]
      cases h : element charset with
      | ok data => rw [written_cons_ok h, written_cons_ok h, refusal?_cons_ok h, ih,
          List.append_assoc]
      | error e => rw [written_cons_error h, written_cons_error h, refusal?_cons_error h,
          if_neg (by simp), List.append_nil]

/-- A layout without refusals is written to its end. -/
lemma written_append_of_none (h : refusal? charset l = none) :
    written charset (l ++ m) = written charset l ++ written charset m := by
  rw [written_append, if_pos h]

@[simp] lemma refusal?_block (layout : Layout) :
    refusal? charset [block layout] = refusal? charset layout := by
  cases h : layout.refusal? charset with
  | none => rw [refusal?_cons_ok (by rw [block, h]), refusal?_nil]
  | some e => rw [refusal?_cons_error (by rw [block, h])]

lemma written_block (layout : Layout) : written charset [block layout] =
    if refusal? charset layout = none then written charset layout else [] := by
  cases h : layout.refusal? charset with
  | none => rw [written_cons_ok (by rw [block, h]), if_pos rfl, written_nil, List.append_nil]
  | some e => rw [written_cons_error (by rw [block, h]), if_neg (by simp)]

lemma result_eq_ok_iff : result charset l = .ok () ↔ refusal? charset l = none := by
  rw [result]
  cases refusal? charset l <;> simp

end Layout

/-! ### Computations on a writer, one at a time -/

namespace Put

variable {α β : Type}

/-- Two computations in a row: the second starts where the first one stops. -/
lemma value_on_bind (p : Put α) (f : α → Put β) (w : Writer) :
    ((p >>= f).on w).value = match (p.on w).value with
      | (.ok a, next) => ((f a).on next).value
      | (.error e, next) => (.error e, next) := by
  simp only [on, ExceptT.run_bind, StateT.run_bind, Logged.value_bind]
  rcases ((ExceptT.run p).run w).value with ⟨a | e, next⟩ <;> rfl

lemma value_on_bytes (data : List UInt8) (w : Writer) :
    ((bytes data).on w).value = (.ok (), { w with bytes := w.bytes ++ data }) := rfl

lemma value_on_length (w : Writer) : (length.on w).value = (.ok w.bytes.length, w) := rfl

lemma value_on_charset (w : Writer) : (charset.on w).value = (.ok w.charset, w) := rfl

lemma value_on_lift (x : Except PackError α) (w : Writer) :
    ((liftM x : Put α).on w).value = (x, w) := by
  cases x <;> rfl

/-- The scratch writer is appended if the computation succeeds on it, and dropped otherwise. -/
lemma value_on_atomic (p : Put Unit) (w : Writer) :
    ((atomic p).on w).value = match (p.on (Writer.empty w.charset)).value with
      | (.ok (), scratch) => (.ok (), { w with bytes := w.bytes ++ scratch.bytes })
      | (.error e, _) => (.error e, w) := by
  rw [atomic, on, of, ExceptT.run_mk]
  show (Logged.value (_ >>= _)) = _
  rw [Logged.value_bind]
  rcases (p.on (Writer.empty w.charset)).value with ⟨a | e, next⟩ <;> rfl

end Put

/-! ### What a computation lays out -/

/-- A computation does to every writer what a layout says. -/
def Put.Lays (put : Put Unit) (layout : Layout) : Prop :=
  ∀ w : Writer, (put.on w).value =
    (layout.result w.charset, { w with bytes := w.bytes ++ layout.written w.charset })

namespace Put

variable {α : Type} {p q : Put Unit} {l m : Layout}

lemma lays_pure : (pure () : Put Unit).Lays [] := by
  intro w
  show (Except.ok (), w) = (Except.ok (), { w with bytes := w.bytes ++ [] })
  rw [List.append_nil]

lemma lays_report (event : Event) : (report event).Lays [] :=
  lays_pure

/-- A computation that appends some bytes or fails without a trace lays out one element. -/
lemma lays_element {element : Element}
    (h : ∀ w : Writer, (p.on w).value = match element w.charset with
      | .ok data => (.ok (), { w with bytes := w.bytes ++ data })
      | .error e => (.error e, w)) : p.Lays [element] := by
  intro w
  rw [h w, Layout.result]
  cases he : element w.charset with
  | ok data =>
      rw [Layout.refusal?_cons_ok he, Layout.written_cons_ok he, Layout.written_nil,
        List.append_nil]
      rfl
  | error e =>
      rw [Layout.refusal?_cons_error he, Layout.written_cons_error he, List.append_nil]

lemma lays_bytes (data : List UInt8) : (bytes data).Lays [.bytes data] :=
  lays_element fun w => value_on_bytes data w

/-- Layouts follow each other like computations do: a failure of the first keeps what it has
written, and the second is never reached. -/
lemma Lays.bind (hp : p.Lays l) (hq : q.Lays m) : (p >>= fun _ => q).Lays (l ++ m) := by
  intro w
  rw [value_on_bind, hp w, Layout.result, Layout.result, Layout.refusal?_append,
    Layout.written_append]
  cases h : l.refusal? w.charset with
  | none =>
      show (q.on { w with bytes := w.bytes ++ l.written w.charset }).value = _
      rw [hq, Layout.result, if_pos rfl, Option.none_or, List.append_assoc]
  | some e =>
      show (Except.error e, _) = (Except.error e, _)
      rw [if_neg (by simp), List.append_nil]

/-- The number of bytes written so far may be looked at in between. -/
lemma lays_length_bind {f : Nat → Put Unit} (h : ∀ n, (f n).Lays l) :
    (length >>= f).Lays l := by
  intro w
  rw [value_on_bind, value_on_length]
  exact h w.bytes.length w

/-- Bytes that depend on a value which there may be none of. -/
lemma lays_lift_bind {x : Except PackError α} {f : α → Put Unit} {g : α → List UInt8}
    (h : ∀ a, (f a).Lays (.bytes (g a) :: m)) :
    ((liftM x : Put α) >>= f).Lays ((fun _ => x.map g) :: m) := by
  intro w
  rw [value_on_bind, value_on_lift]
  cases x with
  | ok a => exact h a w
  | error e =>
      show (Except.error e, w) = (Except.error e, { w with bytes := w.bytes ++ [] })
      rw [List.append_nil]

lemma lays_varBytes (data : List UInt8) :
    (varBytes data).Lays [.bytes (Varint.encode data.length), .bytes data] :=
  (lays_bytes _).bind (lays_bytes data)

lemma lays_string (text : String) : (string text).Lays [.text text] := by
  refine lays_element fun w => ?_
  rw [string, value_on_bind, value_on_charset, Element.text]
  dsimp only
  cases w.charset.encode text with
  | ok data =>
      show (Except.ok (), { w with bytes := w.bytes ++ Varint.encode data.length ++ data }) = _
      rw [List.append_assoc]
  | error fault => rfl

/-- An all-or-nothing computation writes its whole layout as one element. -/
lemma lays_atomic (hp : p.Lays l) : (atomic p).Lays [Layout.block l] := by
  refine lays_element fun w => ?_
  rw [value_on_atomic, hp, Layout.block, Layout.result, Writer.empty]
  cases l.refusal? w.charset <;> rfl

lemma lays_forM {f : α → Put Unit} {layoutOf : α → Layout} (h : ∀ x, (f x).Lays (layoutOf x))
    (items : List α) : (items.forM f).Lays (items.flatMap layoutOf) := by
  induction items with
  | nil => exact lays_pure
  | cons x items ih => exact (h x).bind ih

/-- What a computation writes in a charset, if it succeeds. -/
def output (charset : Charset) (put : Put Unit) : Except PackError (List UInt8) :=
  let (result, writer) := (put.on (Writer.empty charset)).value
  result.map fun () => writer.bytes

lemma value_packedBytes {α : Type} [Packable α] (x : α) :
    (packedBytes x).value = (pack x).output .utf8 := rfl

/-- There is an output if the computation succeeds. -/
lemma exists_output_iff {charset : Charset} : (∃ data, p.output charset = .ok data)
    ↔ (p.on (Writer.empty charset)).value.1 = .ok () := by
  rw [output]
  rcases (p.on (Writer.empty charset)).value with ⟨e | ⟨⟩, next⟩
  · exact iff_of_false (by simp [Except.map]) (by simp)
  · exact iff_of_true ⟨next.bytes, rfl⟩ rfl

/-- The output is the layout, as long as nothing of it is refused. -/
lemma Lays.output_eq_ok_iff (hp : p.Lays l) {charset : Charset} {data : List UInt8} :
    p.output charset = .ok data ↔ l.refusal? charset = none ∧ l.written charset = data := by
  rw [output, hp, Layout.result, Writer.empty]
  cases l.refusal? charset with
  | none =>
      show Except.ok ([] ++ l.written charset) = .ok data ↔ _
      rw [List.nil_append, Except.ok.injEq]
      exact ⟨fun h => ⟨rfl, h⟩, fun h => h.2⟩
  | some e =>
      show Except.error e = .ok data ↔ _
      simp

end Put

/-- A kind of values whose layout is known. -/
class HasLayout (α : Type) [Packable α] where
  layoutOf : α → Layout
  pack_lays (x : α) : (pack x).Lays (layoutOf x)

export HasLayout (layoutOf pack_lays)

/-- A list is laid out as the number of its elements and their layouts. -/
lemma Put.lays_collection {α : Type} [Packable α] [HasLayout α] (items : Option (List α)) :
    (Put.collection items).Lays (Layout.counted layoutOf (items.getD [])) :=
  (lays_bytes _).bind (lays_forM pack_lays _)

end TxWire
