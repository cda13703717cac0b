import TxWire.Proofs.Layout.Program

/-!
All-or-nothing blocks: they change nothing about what succeeds, and leave nothing of what fails.

* `Put.Translates.value_atomic`: a block around a computation that does not depend on what the
  writer holds. It ends like the computation itself, and a failure leaves the writer as it was.
* `Operation.inline`, `inlineAll`: programs without their blocks, the steps of a block standing
  in its place.
* `Layout.Agree`: two layouts are refused alike, and if they are not, written alike. A block
  agrees with what is inside (`Layout.Agree.block`), and by induction over the nesting a program
  agrees with itself without blocks (`agree_inlineAll`).
* `atomic_transparent`: the law for all programs.
-/

namespace TxWire

/-! ### One block -/

/-- What happens on the scratch writer of a block is what would happen on the writer itself, so
the block ends alike, and only a failure is undone. -/
lemma Put.Translates.value_atomic {p : Put Unit} (hp : p.Translates) (w : Writer) :
    ((Put.atomic p).on w).value = match (p.on w).value with
      | (.ok (), after) => (.ok (), after)
      | (.error e, _) => (.error e, w) := by
  obtain ⟨hdirect, hcharset⟩ := hp w
  rw [Put.value_on_atomic, hdirect]
  rcases hrun : (p.on (Writer.empty w.charset)).value with ⟨e | ⟨⟩, scratch⟩
  · rfl
  · have hscratch : scratch.charset = w.charset := by rwa [hrun] at hcharset
    show (Except.ok (), { w with bytes := w.bytes ++ scratch.bytes }) = _
    rw [← hscratch]
    rfl

/-! ### Layouts with and without blocks -/

namespace Layout

variable {charset : Charset} {l l' m m' : Layout}

/-- Two layouts are refused alike in a charset, and written alike if they are not refused. What
is left of a failure may differ. -/
structure Agree (charset : Charset) (l m : Layout) : Prop where
  refusal?_eq : l.refusal? charset = m.refusal? charset
  written_eq : l.refusal? charset = none → l.written charset = m.written charset

lemma Agree.refl (charset : Charset) (l : Layout) : Agree charset l l := ⟨rfl, fun _ => rfl⟩

lemma Agree.symm (h : Agree charset l m) : Agree charset m l where
  refusal?_eq := h.refusal?_eq.symm
  written_eq hm := (h.written_eq (h.refusal?_eq.trans hm)).symm

lemma Agree.trans (h : Agree charset l m) (h' : Agree charset m m') : Agree charset l m' where
  refusal?_eq := h.refusal?_eq.trans h'.refusal?_eq
  written_eq hl := (h.written_eq hl).trans (h'.written_eq (h.refusal?_eq.symm.trans hl))

lemma Agree.append (h : Agree charset l m) (h' : Agree charset l' m') :
    Agree charset (l ++ l') (m ++ m') where
  refusal?_eq := by
    rw [refusal?_append, refusal?_append, h.refusal?_eq, h'.refusal?_eq]
  written_eq hl := by
    rw [refusal?_append, Option.or_eq_none_iff] at hl
    rw [written_append_of_none hl.1, written_append_of_none (h.refusal?_eq.symm.trans hl.1),
      h.written_eq hl.1, h'.written_eq hl.2]

/-- A block agrees with what is inside. -/
lemma Agree.block (h : Agree charset l m) : Agree charset [block l] m where
  refusal?_eq := by rw [refusal?_block, h.refusal?_eq]
  written_eq hl := by
    rw [refusal?_block] at hl
    rw [written_block, if_pos hl, h.written_eq hl]

/-- Computations whose layouts agree end alike on every writer, and do the same if they succeed. -/
lemma Agree.value_on {p q : Put Unit} {w : Writer} (h : Agree w.charset l m) (hp : p.Lays l)
    (hq : q.Lays m) : (p.on w).value.1 = (q.on w).value.1
      ∧ ((p.on w).value.1 = .ok () → (p.on w).value = (q.on w).value) := by
  rw [hp, hq, result, result, h.refusal?_eq]
  refine ⟨rfl, fun hok => ?_⟩
  have hnone : m.refusal? w.charset = none := by
    rw [← result_eq_ok_iff, result]
    exact hok
  rw [h.written_eq (h.refusal?_eq.trans hnone)]

end Layout

/-! ### Programs without their blocks -/

mutual

/-- An operation without its blocks. -/
def Operation.inline : Operation → List Operation
  | .atomic steps => inlineAll steps
  | operation => [operation]

/-- Operations in a row without their blocks. -/
def inlineAll : List Operation → List Operation
  | [] => []
  | step :: steps => step.inline ++ inlineAll steps

end

lemma rowElements_append (first second : List Operation) :
    rowElements (first ++ second) = rowElements first ++ rowElements second := by
  induction first with
  | nil => rfl
  | cons step steps ih => rw [List.cons_append, rowElements, rowElements, ih, List.append_assoc]

lemma inlineAll_append (first second : List Operation) :
    inlineAll (first ++ second) = inlineAll first ++ inlineAll second := by
  induction first with
  | nil => rfl
  | cons step steps ih => rw [List.cons_append, inlineAll, inlineAll, ih, List.append_assoc]

/-- A block around any part of a program goes away without its blocks. -/
lemma inlineAll_block (before part after : List Operation) :
    inlineAll (before ++ .atomic part :: after) = inlineAll (before ++ part ++ after) := by
  rw [inlineAll_append, inlineAll_append, inlineAll_append, inlineAll, Operation.inline,
    List.append_assoc]

mutual

lemma Operation.agree_inline (charset : Charset) (operation : Operation) :
    Layout.Agree charset operation.elements (rowElements operation.inline) := by
  cases operation with
  | atomic steps =>
      rw [Operation.elements, Operation.inline]
      exact (agree_inlineAll charset steps).block
  | _ =>
      rw [Operation.inline, rowElements, rowElements, List.append_nil]
      · exact .refl charset _
      · simp

lemma agree_inlineAll (charset : Charset) (steps : List Operation) :
    Layout.Agree charset (rowElements steps) (rowElements (inlineAll steps)) := by
  cases steps with
  | nil => exact .refl charset _
  | cons step steps =>
      rw [rowElements, inlineAll, rowElements_append]
      exact (step.agree_inline charset).append (agree_inlineAll charset steps)

end

/-- Programs that are the same without their blocks end alike on every writer, and do the same if
they succeed. -/
lemma value_on_putAll_of_inlineAll_eq {first second : List Operation}
    (h : inlineAll first = inlineAll second) (w : Writer) :
    ((putAll first).on w).value.1 = ((putAll second).on w).value.1
      ∧ (((putAll first).on w).value.1 = .ok () →
        ((putAll first).on w).value = ((putAll second).on w).value) := by
  have hinlined := agree_inlineAll w.charset first
  rw [h] at hinlined
  have hagree := hinlined.trans (agree_inlineAll w.charset second).symm
  exact hagree.value_on (putAll_lays first) (putAll_lays second)

/-- **Blocks are transparent to success and undo failure.** A program that succeeds on a writer
succeeds as a block and leaves the same; one that fails there fails as a block in the same way and
leaves the writer, its bytes and its charset, as it was. Programs that differ in their blocks only
end alike, and do the same if they succeed; so it is with a block more around any part. -/
theorem atomic_transparent (steps : List Operation) (w : Writer) :
    (∀ after, ((putAll steps).on w).value = (.ok (), after) →
      ((Put.atomic (putAll steps)).on w).value = (.ok (), after))
    ∧ (∀ e after, ((putAll steps).on w).value = (.error e, after) →
      ((Put.atomic (putAll steps)).on w).value = (.error e, w))
    ∧ (∀ other, inlineAll steps = inlineAll other →
      ((putAll steps).on w).value.1 = ((putAll other).on w).value.1
      ∧ (((putAll steps).on w).value.1 = .ok () →
        ((putAll steps).on w).value = ((putAll other).on w).value))
    ∧ ∀ first part last after, steps = first ++ part ++ last →
      ((putAll steps).on w).value = (.ok (), after) →
      ((putAll (first ++ .atomic part :: last)).on w).value = (.ok (), after) := by
  have hblock := (putAll_lays steps).translates.value_atomic w
  refine ⟨fun after hok => by rw [hblock, hok], fun e after herror => by rw [hblock, herror],
    fun other hother => value_on_putAll_of_inlineAll_eq hother w,
    fun first part last after hsteps hok => ?_⟩
  have hinline : inlineAll steps = inlineAll (first ++ .atomic part :: last) := by
    rw [inlineAll_block, hsteps]
  rw [← hok]
  exact ((value_on_putAll_of_inlineAll_eq hinline w).2 (by rw [hok])).symm

/-- Blocks in blocks, of which the innermost has been written when a string follows that
Shift_JIS lacks: nothing is left. Up to there they are as good as no blocks. -/
theorem atomic_transparent_nested :
    let shiftJis : Charset := .multiByte .shiftJis (.asciiOnly _)
    let w : Writer := { bytes := [9], charset := shiftJis }
    let flat : List Operation := [.byte 1, .u16 2, .byte 3]
    let nested : List Operation := [.byte 1, .atomic [.u16 2, .atomic [.byte 3]]]
    let failing : List Operation := nested ++ [.string "é"]
    let e : PackError := .charset shiftJis (.unmappable "é")
    ((Put.atomic (putAll flat)).on w).value = (.ok (), { w with bytes := [9, 1, 2, 0, 3] })
      ∧ ((putAll nested).on w).value = ((putAll flat).on w).value
      ∧ ((putAll failing).on w).value = (.error e, { w with bytes := [9, 1, 2, 0, 3] })
      ∧ ((Put.atomic (putAll failing)).on w).value = (.error e, w)
      ∧ ((putAll ([.byte 1] ++ .atomic [.u16 2] :: [.byte 3])).on w).value
        = (.ok (), { w with bytes := [9, 1, 2, 0, 3] }) := by
  intro shiftJis w flat nested failing e
  have hflat : ((putAll flat).on w).value = (.ok (), { w with bytes := [9, 1, 2, 0, 3] }) := rfl
  have hfailing : ((putAll failing).on w).value
      = (.error e, { w with bytes := [9, 1, 2, 0, 3] }) := rfl
  obtain ⟨hsuccess, -, hblocks, hpart⟩ := atomic_transparent flat w
  obtain ⟨-, hfailure, -, -⟩ := atomic_transparent failing w
  exact ⟨hsuccess _ hflat, ((hblocks nested rfl).2 (by rw [hflat])).symm, hfailing,
    hfailure e _ hfailing, hpart [.byte 1] [.u16 2] [.byte 3] _ rfl hflat⟩

end TxWire
