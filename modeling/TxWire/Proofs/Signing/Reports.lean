import TxWire.Proofs.Layout.Reports
import TxWire.Proofs.Signing.Requests

/-!
The log tells what happened.

* `SignedTransaction.events_signWith`: a call for a signature reports the packing, and behind it
  the signature if it comes to one. `SignedTransaction.SigningTold` says what there is to report.
* `SignedTransaction.Deed`, `SignedTransaction.carryOutAll`: whatever is done with a signed
  transaction, packing it into any writer and making the body to push included.
* `SignedTransaction.Told`, `SignedTransaction.LogTold`: the reports of a single deed and the log of
  a run. What is told of a deed leaves no choice (`Told.unique`), so neither does a log.
* `log_tells_what_happened`: a log tells the truth about a run if and only if it is the log of that
  run.
-/

namespace TxWire

open Event (ofLevel)

namespace Transaction.PackingTold

variable {t : Transaction} {w : Writer} {events other reports : List Event}

/-- What is told of packing leaves no choice but in what is told of signatures. -/
lemma eq_of_debug_eq (h : t.PackingTold w events) (hother : t.PackingTold w other)
    (hdebug : ofLevel .debug events = ofLevel .debug other) : events = other := by
  have htrace : ofLevel .trace events = ofLevel .trace other := by
    rcases hvalue : ((pack t).on w).value with ⟨e | ⟨⟩, after⟩
    · rw [h.failed e after hvalue, hother.failed e after hvalue]
    · obtain ⟨data, hafter, -, hdata⟩ := h.packed after hvalue
      obtain ⟨data', hafter', -, hdata'⟩ := hother.packed after hvalue
      have hsame : data = data' := by
        have hbytes := congrArg Writer.bytes (hafter.symm.trans hafter')
        exact List.append_cancel_left hbytes
      rw [hdata, hdata', hsame]
  rw [h.inOrder, hother.inOrder, h.warned, hother.warned, htrace, hdebug]

/-- Packing goes on to tell the truth when reports of signatures come behind. -/
lemma append (h : t.PackingTold w events) (hnone : ofLevel .debug events = [])
    (hreports : ∀ event ∈ reports, event.level = .debug) : t.PackingTold w (events ++ reports)
      ∧ ofLevel .trace (events ++ reports) = ofLevel .trace events
      ∧ ofLevel .debug (events ++ reports) = reports := by
  have hof := Event.ofLevel_of_forall hreports
  have htrace : ofLevel .trace (events ++ reports) = ofLevel .trace events := by
    rw [Event.ofLevel_append, hof, if_neg (by decide), List.append_nil]
  have hwarn : ofLevel .warn (events ++ reports) = ofLevel .warn events := by
    rw [Event.ofLevel_append, hof, if_neg (by decide), List.append_nil]
  have hdebug : ofLevel .debug (events ++ reports) = reports := by
    rw [Event.ofLevel_append, hof, if_pos rfl, hnone, List.nil_append]
  refine ⟨⟨?_, hwarn.trans h.warned, ?_, ?_⟩, htrace, hdebug⟩
  · have hinOrder := h.inOrder
    rw [hnone, List.append_nil] at hinOrder
    rw [hwarn, htrace, hdebug, ← hinOrder]
  · rw [htrace]
    exact h.packed
  · rw [htrace]
    exact h.failed

/-- On its own, a transaction is reported to take as many bytes as it is packed to. -/
lemma ofLevel_trace_of_packedBytes (h : t.PackingTold (Writer.empty .utf8) events)
    {data : List UInt8} (hpack : (packedBytes t).value = .ok data) : ofLevel .trace events
      = [.packed t.contextFreeActions.length t.actions.length data.length] := by
  rw [Put.value_packedBytes, Put.output] at hpack
  rcases hvalue : ((pack t).on (Writer.empty .utf8)).value with ⟨e | ⟨⟩, after⟩
  · rw [hvalue] at hpack
    exact absurd hpack (by simp [Except.map])
  · rw [hvalue] at hpack
    obtain ⟨added, hafter, -, htrace⟩ := h.packed after hvalue
    have hdata : added = data := by
      rw [hafter] at hpack
      exact Except.ok.inj hpack
    rw [htrace, hdata]

end Transaction.PackingTold

lemma events_packedBytes {α : Type} [Packable α] (x : α) :
    (packedBytes x).events = ((pack x).on (Writer.empty .utf8)).events := by
  rw [packedBytes, Logged.events_bind]
  exact List.append_nil _

namespace SignedTransaction

variable {s : SignedTransaction} {events other : List Event}

/-! ### One call for a signature -/

/-- The signer is shown the bytes that the transaction is packed to. -/
lemma packedBytes_of_question {chainId : ChainId} {request : SigningRequest}
    (h : s.question chainId = .ok request) :
    (packedBytes s.transaction).value = .ok request.packedTransaction := by
  rw [question] at h
  cases hpack : (packedBytes s.transaction).value with
  | error e =>
      rw [hpack] at h
      exact absurd h (by simp [Except.map])
  | ok data =>
      rw [hpack] at h
      rw [← Except.ok.inj h]

/-- A call reports the packing, and then the signature that it comes to. -/
lemma events_signWith (s : SignedTransaction) (signer : Signer) (chainId : ChainId) :
    (s.signWith signer chainId).events = (packedBytes s.transaction).events
      ++ match s.question chainId with
        | .error _ => []
        | .ok request => match signer request with
          | .error _ => []
          | .ok _ =>
            [.signed chainId request.packedTransaction.length (s.signatures.length + 1)] := by
  rw [signWith, Logged.events_bind]
  cases hpack : (packedBytes s.transaction).value with
  | error e => rw [question_of_error hpack]; rfl
  | ok data =>
      rw [question_of_ok hpack]
      dsimp only
      cases signer _ <;> rfl

/-- Events that tell what a call for a signature came to: those of packing the transaction, and
behind them the signature if the signer gives one, with the same number of bytes and with the
number of signatures there are then. -/
structure SigningTold (s : SignedTransaction) (ask : Ask) (events : List Event) : Prop
    extends s.transaction.PackingTold (Writer.empty .utf8) events where
  signed : ∀ request ∈ (s.signWith ask.signer ask.chainId).value.requests, ∀ signature,
    ask.signer request = .ok signature →
      ofLevel .trace events = [.packed s.transaction.contextFreeActions.length
        s.transaction.actions.length request.packedTransaction.length]
      ∧ ofLevel .debug events = [.signed ask.chainId request.packedTransaction.length
        (s.signWith ask.signer ask.chainId).value.signed.signatures.length]
  unsigned : (∀ request ∈ (s.signWith ask.signer ask.chainId).value.requests, ∀ signature,
    ask.signer request ≠ .ok signature) → ofLevel .debug events = []
  refused : ∀ e, (s.signWith ask.signer ask.chainId).value.result = .error e →
    ofLevel .debug events = []

/-- Where the signer gives no signature, there is only the packing to tell of. -/
lemma signingTold_of_unsigned {ask : Ask}
    (htold : s.transaction.PackingTold (Writer.empty .utf8) events)
    (hnone : ofLevel .debug events = [])
    (hunsigned : ∀ request ∈ (s.signWith ask.signer ask.chainId).value.requests, ∀ signature,
      ask.signer request ≠ .ok signature) : s.SigningTold ask events where
  toPackingTold := htold
  signed request hrequest signature hsignature :=
    absurd hsignature (hunsigned request hrequest signature)
  unsigned _ := hnone
  refused _ _ := hnone

/-- Where the signer gives a signature, it is reported behind the packing. -/
lemma signingTold_of_signature {ask : Ask} {request : SigningRequest} {signature : String}
    (htold : s.transaction.PackingTold (Writer.empty .utf8) events)
    (hnone : ofLevel .debug events = []) (hquestion : s.question ask.chainId = .ok request)
    (hsigner : ask.signer request = .ok signature) :
    s.SigningTold ask (events ++ [.signed ask.chainId request.packedTransaction.length
      (s.signatures.length + 1)]) := by
  have hdebug : ∀ event ∈ [Event.signed ask.chainId request.packedTransaction.length
      (s.signatures.length + 1)], event.level = .debug := by
    simp [Event.level]
  obtain ⟨hall, htrace, hreport⟩ := htold.append hnone hdebug
  have hbytes := htold.ofLevel_trace_of_packedBytes (packedBytes_of_question hquestion)
  refine { hall with signed := ?_, unsigned := ?_, refused := ?_ }
  · rw [signWith_of_signature hquestion hsigner]
    intro asked hasked given hgiven
    rw [List.mem_singleton.mp hasked]
    refine ⟨htrace.trans hbytes, hreport.trans ?_⟩
    rw [List.length_append, List.length_singleton]
  · rw [signWith_of_signature hquestion hsigner]
    intro hnobody
    exact absurd hsigner (hnobody request (List.mem_singleton_self request) signature)
  · rw [signWith_of_signature hquestion hsigner]
    intro e hresult
    exact absurd hresult (by simp)

/-- The log of a call tells what it came to. -/
lemma signingTold_signWith (s : SignedTransaction) (ask : Ask) :
    s.SigningTold ask (s.signWith ask.signer ask.chainId).events := by
  obtain ⟨htold, hnone⟩ := s.transaction.packingTold_pack (Writer.empty .utf8)
  rw [← events_packedBytes] at htold hnone
  rw [events_signWith]
  cases hquestion : s.question ask.chainId with
  | error e =>
      dsimp only
      rw [List.append_nil]
      refine signingTold_of_unsigned htold hnone ?_
      rw [signWith_of_error hquestion]
      intro request hrequest
      exact absurd hrequest List.not_mem_nil
  | ok request =>
      dsimp only
      cases hsigner : ask.signer request with
      | error e =>
          dsimp only
          rw [List.append_nil]
          refine signingTold_of_unsigned htold hnone ?_
          rw [signWith_of_refusal hquestion hsigner]
          intro asked hasked signature hsignature
          rw [List.mem_singleton.mp hasked, hsigner] at hsignature
          exact absurd hsignature (by simp)
      | ok signature => exact signingTold_of_signature htold hnone hquestion hsigner

/-- What is told of a call leaves no choice. -/
lemma SigningTold.unique {ask : Ask} (h : s.SigningTold ask events)
    (hother : s.SigningTold ask other) : events = other := by
  refine h.eq_of_debug_eq hother.toPackingTold ?_
  by_cases hgiven : ∃ request ∈ (s.signWith ask.signer ask.chainId).value.requests, ∃ signature,
      ask.signer request = .ok signature
  · obtain ⟨request, hrequest, signature, hsignature⟩ := hgiven
    rw [(h.signed request hrequest signature hsignature).2,
      (hother.signed request hrequest signature hsignature).2]
  · push Not at hgiven
    rw [h.unsigned hgiven, hother.unsigned hgiven]

/-! ### Runs -/

/-- Something done with a signed transaction. -/
inductive Deed
  /-- An edit or any other change, more context-free data, or a call for a signature. -/
  | operate (operation : Operation)
  /-- The transaction is packed into a writer for any charset, behind whatever it holds. -/
  | pack (writer : Writer)
  /-- The body to push is made. -/
  | push

/-- Does something with a signed transaction. -/
def carryOut (s : SignedTransaction) : Deed → Logged SignedTransaction
  | .operate (.sign signer chainId) => return (← s.signWith signer chainId).signed
  | .operate operation => return (s.perform operation).1
  | .pack writer => do
    let _ ← (TxWire.pack s.transaction).on writer
    return s
  | .push => do
    let _ ← s.pushBody
    return s

/-- Does one thing after the other. -/
def carryOutAll (s : SignedTransaction) (deeds : List Deed) : Logged SignedTransaction :=
  deeds.foldlM carryOut s

/-- Events that tell what a deed came to. A change is not worth an event. -/
def Told (s : SignedTransaction) : Deed → List Event → Prop
  | .operate (.sign signer chainId), events => s.SigningTold ⟨signer, chainId⟩ events
  | .operate _, events => events = []
  | .pack writer, events =>
    s.transaction.PackingTold writer events ∧ ofLevel .debug events = []
  | .push, events =>
    s.transaction.PackingTold (Writer.empty .utf8) events ∧ ofLevel .debug events = []

/-- A log that tells what each deed of a run came to, in order. -/
inductive LogTold : SignedTransaction → List Deed → List Event → Prop
  | nil (s : SignedTransaction) : LogTold s [] []
  | cons {s : SignedTransaction} {deed : Deed} {deeds : List Deed} {events later : List Event}
      (first : s.Told deed events) (rest : LogTold (s.carryOut deed).value deeds later) :
      LogTold s (deed :: deeds) (events ++ later)

lemma events_pushBody (s : SignedTransaction) :
    s.pushBody.events = (packedBytes s.transaction).events := by
  rw [pushBody, Logged.events_bind]
  cases (packedBytes s.transaction).value <;> exact List.append_nil _

/-- What a deed reports tells what it came to. -/
lemma told_carryOut (s : SignedTransaction) (deed : Deed) :
    s.Told deed (s.carryOut deed).events := by
  cases deed with
  | operate operation =>
      cases operation with
      | edit e => rfl
      | change f => rfl
      | addContextFreeData data => rfl
      | sign signer chainId =>
          rw [carryOut, Logged.events_bind, Logged.events_pure, List.append_nil]
          exact s.signingTold_signWith ⟨signer, chainId⟩
  | pack writer =>
      rw [carryOut, Logged.events_bind, Logged.events_pure, List.append_nil]
      exact s.transaction.packingTold_pack writer
  | push =>
      rw [carryOut, Logged.events_bind, Logged.events_pure, List.append_nil, events_pushBody,
        events_packedBytes]
      exact s.transaction.packingTold_pack (Writer.empty .utf8)

/-- There is one way only to tell what a deed came to. -/
lemma Told.unique {deed : Deed} (h : s.Told deed events) (hother : s.Told deed other) :
    events = other := by
  cases deed with
  | operate operation =>
      cases operation with
      | edit e => exact h.trans hother.symm
      | change f => exact h.trans hother.symm
      | addContextFreeData data => exact h.trans hother.symm
      | sign signer chainId => exact SigningTold.unique h hother
  | pack writer => exact h.1.eq_of_debug_eq hother.1 (h.2.trans hother.2.symm)
  | push => exact h.1.eq_of_debug_eq hother.1 (h.2.trans hother.2.symm)

lemma events_carryOutAll_cons (s : SignedTransaction) (deed : Deed) (deeds : List Deed) :
    (s.carryOutAll (deed :: deeds)).events
      = (s.carryOut deed).events ++ ((s.carryOut deed).value.carryOutAll deeds).events := rfl

end SignedTransaction

/-- **The log tells what happened.** In every run of changes, packings into writers for any charset
behind any bytes, bodies made to push and calls for signatures, the log has for each of these in
turn what it came to, and nothing else. Packing a transaction warns if there are extensions, with
their number, and then, if it succeeds, reports the lengths of the two lists of actions and the
number of bytes by which the writer has grown, which is `packedSize` for UTF-8. A call for a
signature reports the packing, and behind it, if the signer gives a signature, the same number of
bytes and the number of signatures there are from then on. Whatever else a log may have or lack, it
does not tell the truth about the run. -/
theorem log_tells_what_happened (s : SignedTransaction) (deeds : List SignedTransaction.Deed)
    (log : List Event) : s.LogTold deeds log ↔ log = (s.carryOutAll deeds).events := by
  constructor
  · intro h
    induction h with
    | nil s => rfl
    | @cons s deed deeds events later first _ ih =>
        rw [SignedTransaction.events_carryOutAll_cons, ih, first.unique (s.told_carryOut deed)]
  · rintro rfl
    induction deeds generalizing s with
    | nil => exact .nil s
    | cons deed deeds ih =>
        rw [SignedTransaction.events_carryOutAll_cons]
        exact .cons (s.told_carryOut deed) (ih _)

/-- A transaction with an extension is signed, and then it is packed into a charset that cannot
write its one action: that draws a second warning and is not reported to be packed. -/
example :
    let chainId : ChainId := ⟨List.replicate digestSize 0, rfl⟩
    let start : SignedTransaction := { transaction := { extensions := [⟨1, [9]⟩] } }
    (start.carryOutAll [.pack ⟨[7], .utf16le⟩, .operate (.sign (fun _ => .ok "alice") chainId),
      .operate (.edit (.addAction { account := "a", name := "b" })), .pack ⟨[], .utf16le⟩]).events
    = [.reservedExtensions 1, .packed 0 0 19, .reservedExtensions 1, .packed 0 0 19,
      .signed chainId 19 1, .reservedExtensions 1] := by decide +kernel

end TxWire
