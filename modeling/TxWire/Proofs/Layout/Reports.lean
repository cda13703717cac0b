import TxWire.Proofs.Layout.Size

/-!
What packing a transaction reports, and that nothing else on the way reports anything.

* `Put.Silent`: a computation reports nothing, whatever the writer. Computations in a row are
  silent if each of them is (`Put.Silent.bind`), so strings, lists and all parts of a transaction
  are packed in silence.
* `Transaction.events_pack`: the reports of packing a transaction, with the number of bytes by
  which the writer has grown.
* `Transaction.PackingTold`: what reports of packing have to say, level by level;
  `Transaction.packingTold_pack` says that they do.
-/

namespace TxWire

/-! ### Silence -/

namespace Put

variable {α β : Type} {w : Writer}

/-- A computation reports nothing. -/
def Silent (put : Put α) : Prop := ∀ w : Writer, (put.on w).events = []

/-- Two computations in a row: what the second reports comes last, if it is reached. -/
lemma events_on_bind (p : Put α) (f : α → Put β) (w : Writer) :
    ((p >>= f).on w).events = (p.on w).events ++ match (p.on w).value with
      | (.ok a, next) => ((f a).on next).events
      | (.error _, _) => [] := by
  simp only [on, ExceptT.run_bind, StateT.run_bind, Logged.events_bind]
  rcases ((ExceptT.run p).run w).value with ⟨a | e, next⟩ <;> rfl

lemma Silent.bind {p : Put α} {f : α → Put β} (hp : p.Silent) (hf : ∀ a, (f a).Silent) :
    (p >>= f).Silent := by
  intro w
  rw [events_on_bind, hp w, List.nil_append]
  rcases (p.on w).value with ⟨e | a, next⟩
  · rfl
  · exact hf a next

lemma silent_pure (a : α) : (pure a : Put α).Silent := fun _ => rfl

lemma silent_throw (e : PackError) : (throw e : Put α).Silent := fun _ => rfl

lemma silent_bytes (data : List UInt8) : (bytes data).Silent := fun _ => rfl

lemma silent_charset : charset.Silent := fun _ => rfl

lemma silent_length : length.Silent := fun _ => rfl

lemma silent_lift (x : Except PackError α) : (liftM x : Put α).Silent := by
  intro w
  cases x <;> rfl

lemma silent_varBytes (data : List UInt8) : (varBytes data).Silent :=
  (silent_bytes _).bind fun _ => silent_bytes data

lemma silent_string (text : String) : (string text).Silent := by
  refine silent_charset.bind fun charset => ?_
  cases charset.encode text with
  | ok data => exact silent_varBytes data
  | error fault => exact silent_throw _

/-- The scratch writer of a silent computation is as silent. -/
lemma Silent.atomic {p : Put Unit} (hp : p.Silent) : (atomic p).Silent := by
  intro w
  rw [Put.atomic, on, of, ExceptT.run_mk]
  show (Logged.events (_ >>= _)) = _
  rw [Logged.events_bind, hp]
  rcases (p.on (Writer.empty w.charset)).value with ⟨e | a, next⟩ <;> rfl

lemma silent_forM {f : α → Put Unit} (hf : ∀ x, (f x).Silent) (items : List α) :
    (items.forM f).Silent := by
  induction items with
  | nil => exact silent_pure ()
  | cons x items ih => exact (hf x).bind fun _ => ih

/-- A list is packed in silence if its elements are. -/
lemma silent_collection [Packable α] (h : ∀ x : α, (pack x).Silent) (items : Option (List α)) :
    (collection items).Silent :=
  (silent_bytes _).bind fun _ => silent_forM h _

end Put

/-! ### The parts of a transaction -/

lemma PermissionLevel.silent_pack (level : PermissionLevel) : (pack level).Silent :=
  (Put.silent_string level.actor).bind fun _ => Put.silent_string level.permission

lemma Action.silent_pack (action : Action) : (pack action).Silent :=
  (Put.silent_string action.account).bind fun _ =>
    (Put.silent_string action.name).bind fun _ =>
      (Put.silent_collection PermissionLevel.silent_pack _).bind fun _ =>
        Put.silent_varBytes action.data

lemma Extension.silent_pack (extension : Extension) : (pack extension).Silent :=
  (Put.silent_bytes _).bind fun _ => Put.silent_varBytes extension.data

lemma Header.silent_pack (header : Header) : (pack header).Silent :=
  (Put.silent_lift header.expirationTimestamp).bind fun _ =>
    (Put.silent_bytes _).bind fun _ => (Put.silent_bytes _).bind fun _ =>
      (Put.silent_bytes _).bind fun _ => (Put.silent_bytes _).bind fun _ =>
        (Put.silent_bytes _).bind fun _ => Put.silent_bytes _

lemma Transaction.silent_layout (t : Transaction) : t.layout.Silent :=
  t.header.silent_pack.bind fun _ =>
    (Put.silent_collection Action.silent_pack _).bind fun _ =>
      (Put.silent_collection Action.silent_pack _).bind fun _ =>
        Put.silent_collection Extension.silent_pack _

/-! ### Transactions -/

/-- The events of one level. -/
def Event.ofLevel (level : Level) (events : List Event) : List Event :=
  events.filter fun event => event.level = level

namespace Event

variable {level : Level} {events more : List Event}

lemma ofLevel_append :
    ofLevel level (events ++ more) = ofLevel level events ++ ofLevel level more :=
  List.filter_append ..

/-- Events that are all of one level are all there is of that level, and of no other. -/
lemma ofLevel_of_forall (h : ∀ event ∈ events, event.level = level) (other : Level) :
    ofLevel other events = if level = other then events else [] := by
  split_ifs with hother
  · exact List.filter_eq_self.mpr fun event hevent => by simp [h event hevent, hother]
  · exact List.filter_eq_nil_iff.mpr fun event hevent => by simp [h event hevent, hother]

/-- Events of two levels in a row, level by level. -/
lemma ofLevel_warn_trace {warnings traces : List Event}
    (hwarn : ∀ event ∈ warnings, event.level = .warn)
    (htrace : ∀ event ∈ traces, event.level = .trace) :
    ofLevel .warn (warnings ++ traces) = warnings ∧ ofLevel .trace (warnings ++ traces) = traces
      ∧ ofLevel .debug (warnings ++ traces) = [] := by
  simp [ofLevel_append, ofLevel_of_forall hwarn, ofLevel_of_forall htrace]

end Event

namespace Transaction

/-- Events that tell what it came to when a transaction was packed into a writer: a warning if the
transaction has extensions, in any case, and behind it the number of bytes that were added, if it
was packed. -/
structure PackingTold (t : Transaction) (writer : Writer) (events : List Event) : Prop where
  inOrder : events = Event.ofLevel .warn events ++ Event.ofLevel .trace events
    ++ Event.ofLevel .debug events
  warned : Event.ofLevel .warn events
    = if t.extensions = [] then [] else [.reservedExtensions t.extensions.length]
  packed : ∀ after, ((pack t).on writer).value = (.ok (), after) → ∃ data,
    after = { writer with bytes := writer.bytes ++ data }
      ∧ (writer.charset = .utf8 → data.length = packedSize t)
      ∧ Event.ofLevel .trace events
        = [.packed t.contextFreeActions.length t.actions.length data.length]
  failed : ∀ e after, ((pack t).on writer).value = (.error e, after) →
    Event.ofLevel .trace events = []

/-- The warning that packing begins with. -/
def warnings (t : Transaction) : List Event :=
  if t.extensions = [] then [] else [.reservedExtensions t.extensions.length]

/-- What is reported behind the warning, by what packing into a writer came to. -/
def outcomeReports (t : Transaction) (w : Writer) : Except PackError Unit × Writer → List Event
  | (.ok (), after) =>
    [.packed t.contextFreeActions.length t.actions.length (after.bytes.length - w.bytes.length)]
  | (.error _, _) => []

/-- Packing but for the warning. -/
def packUnwarned (t : Transaction) : Put Unit := do
  let start ← Put.length
  Put.atomic t.layout
  Put.report (.packed t.contextFreeActions.length t.actions.length ((← Put.length) - start))

lemma pack_eq (t : Transaction) : pack t = if t.extensions.isEmpty then t.packUnwarned
    else Put.report (.reservedExtensions t.extensions.length) >>= fun _ => t.packUnwarned := rfl

lemma level_of_mem_warnings (t : Transaction) : ∀ event ∈ t.warnings, event.level = .warn := by
  rw [warnings]
  split <;> simp [Event.level]

lemma level_of_mem_outcomeReports (t : Transaction) (w : Writer) :
    ∀ outcome, ∀ event ∈ t.outcomeReports w outcome, event.level = .trace
  | (.ok (), _) => by simp [outcomeReports, Event.level]
  | (.error _, _) => by simp [outcomeReports]

/-- The layout is silent, so the growth of the writer is all there is to report. -/
lemma events_packUnwarned (t : Transaction) (w : Writer) :
    (t.packUnwarned.on w).events = t.outcomeReports w (t.packUnwarned.on w).value := by
  rw [packUnwarned, Put.events_on_bind, Put.silent_length, Put.value_on_bind, Put.value_on_length]
  dsimp only
  rw [Put.events_on_bind, t.silent_layout.atomic, Put.value_on_bind]
  rcases ((Put.atomic t.layout).on w).value with ⟨e | ⟨⟩, after⟩ <;> rfl

/-- Packing a transaction warns of its extensions before anything else, and reports a success with
the growth of the writer. -/
lemma events_pack (t : Transaction) (w : Writer) : ((pack t).on w).events
    = t.warnings ++ t.outcomeReports w ((pack t).on w).value := by
  rw [pack_eq, warnings]
  by_cases hnone : t.extensions = []
  · rw [if_pos (List.isEmpty_iff.mpr hnone), if_pos hnone, events_packUnwarned, List.nil_append]
  · -- the warning neither changes the writer nor ends anything
    have hafter (event : Event) : ((Put.report event >>= fun _ => t.packUnwarned).on w).value
        = (t.packUnwarned.on w).value := rfl
    rw [if_neg (by rwa [List.isEmpty_iff]), if_neg hnone, Put.events_on_bind, hafter,
      ← events_packUnwarned]
    rfl

/-- The reports of packing a transaction tell what it came to, and no signature is among them. -/
lemma packingTold_pack (t : Transaction) (w : Writer) :
    t.PackingTold w ((pack t).on w).events ∧ Event.ofLevel .debug ((pack t).on w).events = [] := by
  obtain ⟨hwarn, htrace, hdebug⟩ := Event.ofLevel_warn_trace t.level_of_mem_warnings
    (t.level_of_mem_outcomeReports w ((pack t).on w).value)
  rw [t.events_pack w]
  refine ⟨⟨?inOrder, hwarn, fun after hvalue => ?packed, fun e after hvalue => ?failed⟩, hdebug⟩
  case inOrder => rw [hwarn, htrace, hdebug, List.append_nil]
  case packed =>
    have hlays := t.pack_transaction_lays w
    rw [hvalue, Prod.mk.injEq] at hlays
    obtain ⟨hresult, hafter⟩ := hlays
    have hrefusal := Layout.result_eq_ok_iff.mp hresult.symm
    refine ⟨_, hafter, fun hutf8 => ?_, ?_⟩
    · rw [hutf8] at hrefusal ⊢
      exact measures_layoutOf t hrefusal
    · rw [htrace, hvalue, hafter, outcomeReports, List.length_append, Nat.add_sub_cancel_left]
  case failed => rw [htrace, hvalue, outcomeReports]

end Transaction

end TxWire
