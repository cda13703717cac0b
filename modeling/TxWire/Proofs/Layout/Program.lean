import TxWire.Pack.Program
import TxWire.Proofs.Layout.Kinds

/-!
Programs for a writer only append, and what they append does not depend on what the writer holds.

* `Operation.elements`, `rowElements`: the layouts of operations and of rows of them.
  `Operation.put_lays` says that operations do what these layouts say.
* `Put.Translates`: a computation does behind what a writer holds what it does on an empty writer
  of the same charset. Every layout gives that (`Put.Lays.translates`), and so does every
  all-or-nothing block, whatever is done inside (`Put.translates_atomic`).
* `Script`: a program that may go on after failures and choose its next step by the results so
  far, with blocks around any computation. `Script.trace` shows a run of it step by step.
* `AppendOnly`: the law for what a run shows; `AppendOnly.step` adds one step to a run.
* `programs_append_only`: the law for all rows of operations and all scripts.
-/

namespace TxWire

/-! ### The layouts of operations -/

/-- An element that no charset has room for. -/
def Element.refused (e : PackError) : Element := fun _ => .error e

lemma Put.lays_throw (e : PackError) : (throw e : Put Unit).Lays [.refused e] :=
  lays_element fun _ => rfl

/-- The parts of a value of any kind. -/
def WireValue.elements : WireValue → Layout
  | .string x => layoutOf x
  | .level x => layoutOf x
  | .action x => layoutOf x
  | .extension x => layoutOf x
  | .header x => layoutOf x
  | .transaction x => layoutOf x

instance : HasLayout WireValue where
  layoutOf := WireValue.elements
  pack_lays value := by
    cases value with
    | string x => exact pack_lays x
    | level x => exact pack_lays x
    | action x => exact pack_lays x
    | extension x => exact pack_lays x
    | header x => exact pack_lays x
    | transaction x => exact pack_lays x

mutual

/-- The parts that an operation writes. -/
def Operation.elements : Operation → Layout
  | .byte b => [.bytes [b]]
  | .bool b => [.bytes [if b then 1 else 0]]
  | .u16 n => [.bytes (littleEndian 2 n.toNat)]
  | .u32 n => [.bytes (littleEndian 4 n.toNat)]
  | .u64 n => [.bytes (littleEndian 8 n.toNat)]
  | .varint n => [.bytes (Varint.encode n.toNat)]
  | .bytes data => [.bytes data]
  | .varBytes data => [.bytes (Varint.encode data.length), .bytes data]
  | .string text => [.text text]
  | .value value => layoutOf value
  | .collection items => Layout.counted layoutOf (items.getD [])
  | .widen data => match Varint.decode data with
    | .ok (n, _) => [.bytes (littleEndian 8 n.toNat)]
    | .error fault => [.refused (.varint fault)]
  | .fail error => [.refused error]
  | .atomic steps => [Layout.block (rowElements steps)]

/-- The parts that operations in a row write. -/
def rowElements : List Operation → Layout
  | [] => []
  | step :: steps => step.elements ++ rowElements steps

end

mutual

/-- An operation lays its parts out, a block the row inside of it as one part. -/
lemma Operation.put_lays (operation : Operation) : operation.put.Lays operation.elements := by
  cases operation with
  | byte b => exact Put.lays_bytes [b]
  | bool b => exact Put.lays_bytes [if b then 1 else 0]
  | u16 n => exact Put.lays_bytes (littleEndian 2 n.toNat)
  | u32 n => exact Put.lays_bytes (littleEndian 4 n.toNat)
  | u64 n => exact Put.lays_bytes (littleEndian 8 n.toNat)
  | varint n => exact Put.lays_bytes (Varint.encode n.toNat)
  | bytes data => exact Put.lays_bytes data
  | varBytes data => exact Put.lays_varBytes data
  | string text => exact Put.lays_string text
  | value value => exact pack_lays value
  | collection items => exact Put.lays_collection items
  | widen data =>
      rw [Operation.put, Operation.elements]
      rcases Varint.decode data with fault | ⟨n, used⟩
      · exact Put.lays_throw (.varint fault)
      · exact Put.lays_bytes (littleEndian 8 n.toNat)
  | fail error => exact Put.lays_throw error
  | atomic steps => exact Put.lays_atomic (putAll_lays steps)

lemma putAll_lays (steps : List Operation) : (putAll steps).Lays (rowElements steps) := by
  cases steps with
  | nil => exact Put.lays_pure
  | cons step steps => exact step.put_lays.bind (putAll_lays steps)

end

/-! ### Computations behind what a writer holds -/

/-- A writer with some bytes in front of those that it holds. -/
def Writer.behind (held : List UInt8) (w : Writer) : Writer := { w with bytes := held ++ w.bytes }

lemma Writer.behind_behind (first second : List UInt8) (w : Writer) :
    (w.behind second).behind first = w.behind (first ++ second) := by
  rw [behind, behind, behind, List.append_assoc]

namespace Put

/-- A computation does behind what a writer holds what it does on an empty writer. -/
def Translates (p : Put Unit) : Prop :=
  ∀ w : Writer, (p.on w).value
    = ((p.on (Writer.empty w.charset)).value.1,
        (p.on (Writer.empty w.charset)).value.2.behind w.bytes)
    ∧ (p.on (Writer.empty w.charset)).value.2.charset = w.charset

lemma Lays.translates {p : Put Unit} {l : Layout} (hp : p.Lays l) : p.Translates := by
  intro w
  rw [hp w, hp (Writer.empty w.charset)]
  exact ⟨rfl, rfl⟩

/-- What happens in a block happens on a writer of its own, so it may be anything. -/
lemma translates_atomic (p : Put Unit) : (atomic p).Translates := by
  intro w
  have hw := value_on_atomic p w
  have hempty := value_on_atomic p (Writer.empty w.charset)
  rw [show (Writer.empty w.charset).charset = w.charset from rfl] at hempty
  rcases hscratch : (p.on (Writer.empty w.charset)).value with ⟨e | a, scratch⟩
  · rw [hscratch] at hw hempty
    rw [hw, hempty]
    refine ⟨?_, rfl⟩
    show (Except.error e, w) = (Except.error e, { w with bytes := w.bytes ++ [] })
    rw [List.append_nil]
  · rw [hscratch] at hw hempty
    rw [hw, hempty]
    exact ⟨rfl, rfl⟩

end Put

/-! ### Programs -/

/-- A program for a writer. How it goes on may depend on the results so far. -/
inductive Script
  | done
  | perform (operation : Operation) (next : Except PackError Unit → Script)
  /-- Any computation of which either all or nothing leaves its mark. -/
  | atomic (body : Put Unit) (next : Except PackError Unit → Script)

/-- What a run shows: the result of each step and the writer after it. -/
abbrev Trace := List (Except PackError Unit × Writer)

/-- The run of a program, step by step. -/
def Script.trace : Script → Writer → Trace
  | .done, _ => []
  | .perform operation next, w =>
    let step := (operation.put.on w).value
    step :: (next step.1).trace step.2
  | .atomic body next, w =>
    let step := ((Put.atomic body).on w).value
    step :: (next step.1).trace step.2

/-- A run with some bytes in front of what the writer holds. -/
def Trace.behind (held : List UInt8) (trace : Trace) : Trace :=
  trace.map fun step => (step.1, step.2.behind held)

/-- Runs come to the same on all writers of a charset, behind what these hold; they keep the
charset; and step by step they keep all bytes that are there. -/
structure AppendOnly (run : Writer → Trace) : Prop where
  behind_empty (held : List UInt8) (charset : Charset) :
    run { bytes := held, charset } = (run (Writer.empty charset)).behind held
  charset_eq (w : Writer) : ∀ step ∈ run w, step.2.charset = w.charset
  grows (w : Writer) :
    List.IsChain (fun before after : Writer => before.bytes <+: after.bytes)
      (w :: (run w).map Prod.snd)

/-- The bytes in front need not be all that the writer holds. -/
lemma AppendOnly.behind {run : Writer → Trace} (h : AppendOnly run) (held : List UInt8)
    (w : Writer) : run (w.behind held) = (run w).behind held := by
  have hwhole := h.behind_empty (held ++ w.bytes) w.charset
  have hown := h.behind_empty w.bytes w.charset
  rw [show w.behind held = { bytes := held ++ w.bytes, charset := w.charset } from rfl, hwhole,
    show run w = run { bytes := w.bytes, charset := w.charset } from rfl, hown, Trace.behind,
    Trace.behind, Trace.behind, List.map_map]
  refine List.map_congr_left fun step _ => ?_
  rw [Function.comp_apply, Writer.behind_behind]

lemma appendOnly_nil : AppendOnly fun _ => [] where
  behind_empty _ _ := rfl
  charset_eq _ := by simp
  grows w := List.isChain_singleton w

/-- One step in front of runs that only append. The step chooses the run that follows, the same
one on every writer because its result is the same. -/
lemma AppendOnly.step {p : Put Unit} (hp : p.Translates)
    {next : Except PackError Unit → Writer → Trace}
    (hnext : ∀ result, AppendOnly (next result)) :
    AppendOnly fun w => (p.on w).value :: next (p.on w).value.1 (p.on w).value.2 where
  behind_empty held charset := by
    obtain ⟨hstep, -⟩ := hp { bytes := held, charset }
    rw [hstep, (hnext _).behind]
    rfl
  charset_eq w := by
    obtain ⟨hstep, hcharset⟩ := hp w
    have hafter : (p.on w).value.2.charset = w.charset := by rw [hstep]; exact hcharset
    refine List.forall_mem_cons.mpr ⟨hafter, fun step hmem => ?_⟩
    rw [(hnext _).charset_eq _ step hmem, hafter]
  grows w := by
    obtain ⟨hstep, -⟩ := hp w
    refine List.IsChain.cons_cons ?_ ((hnext _).grows _)
    rw [hstep]
    exact List.prefix_append _ _

lemma Script.appendOnly (script : Script) : AppendOnly script.trace := by
  induction script with
  | done => exact appendOnly_nil
  | perform operation next ih => exact AppendOnly.step operation.put_lays.translates ih
  | atomic body next ih => exact AppendOnly.step (Put.translates_atomic body) ih

lemma runEach_appendOnly (steps : List Operation) :
    AppendOnly fun w => (runEach w steps).value := by
  induction steps with
  | nil => exact appendOnly_nil
  | cons step steps ih => exact AppendOnly.step step.put_lays.translates fun _ => ih

/-- **Writers only append, and regardless of what they hold.** Take any row of operations, of which
those after a failure are run too, or any program that chooses its steps by the results so far,
with blocks around any computation. Its steps have the same results on all writers of a charset;
after each step the writer holds what it held at first and then what an empty writer would hold;
the charset stays, and no byte that is there is ever removed, changed or moved. -/
theorem programs_append_only :
    (∀ steps : List Operation, AppendOnly fun w => (runEach w steps).value)
      ∧ ∀ script : Script, AppendOnly script.trace :=
  ⟨runEach_appendOnly, Script.appendOnly⟩

end TxWire
