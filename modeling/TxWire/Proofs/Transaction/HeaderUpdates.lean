import TxWire.Proofs.Settings.Building
import TxWire.Transaction.Edit

/-!
A header that is told again and again which block to refer to and when to expire, be it that this
succeeds or not.

Both are assignments to a header in place, one field after the other. `Header.Call.body` says so
step by step, with whatever was assigned before a failure left behind, and `Header.Call.perform_eq`
that nothing is: the outcome is that of `Header.Edit.apply`, which makes a new header or none.

* `Header.Call.reference?`, `Header.Call.expiration?`: what a call that succeeds assigns. Neither
  depends on the header, and `Header.update` is all that a call does (`Header.Call.perform_snd`).
* `Header.performAll_eq`: what many calls do, by induction, since updates add up.
* `header_updates_from_last_success`: what this comes to.
-/

namespace TxWire

/-- Elements that give nothing can be left out. -/
lemma filterMap_filter_of_isSome {α β : Type} {f : α → Option β} {keep : α → Bool}
    (h : ∀ x, (f x).isSome = true → keep x = true) (xs : List α) :
    (xs.filter keep).filterMap f = xs.filterMap f := by
  rw [List.filterMap_filter]
  refine List.filterMap_congr fun x _ => ?_
  have hx := h x
  cases hf : f x with
  | none => simp
  | some b =>
      rw [hf] at hx
      exact if_pos (hx rfl)

/-- The low half of the number of a block and the prefix, as a header refers to them. -/
def Digest.reference (id : Digest) : UInt16 × UInt32 :=
  (UInt16.ofNat (ofBigEndian (id.bytes.take 4)),
    UInt32.ofNat (ofLittleEndian ((id.bytes.drop 8).take 4)))

namespace Header

/-! ### Calls -/

/-- A computation on a header in place. What it assigns before it fails stays assigned. -/
abbrev InPlace := ExceptT TransactionError (StateM Header)

/-- A call that updates a header. -/
inductive Call
  | referTo (blockId : String)
  | expireAfter (head : Instant) (seconds : UInt32)

namespace Call

/-- The change that a call makes. -/
def edit : Call → Header.Edit
  | referTo blockId => .referenceBlock blockId
  | expireAfter head seconds => .expirationFrom head seconds

/-- What a call does, one check and one assignment after the other. -/
def body : Call → InPlace Unit
  | referTo blockId => do
    let bytes ← match Hex.decode blockId with
      | .ok bytes => pure bytes
      | .error fault => throw (.blockId blockId (.notHex fault))
    if bytes.length ≠ digestSize then
      throw (.blockId blockId (.wrongSize bytes.length))
    modify fun header =>
      { header with refBlockNum := UInt16.ofNat (ofBigEndian (bytes.take 4)) }
    modify fun header =>
      { header with refBlockPrefix := UInt32.ofNat (ofLittleEndian ((bytes.drop 8).take 4)) }
  | expireAfter head seconds => do
    let expiration ← match head.add? seconds.toNat with
      | some expiration => pure expiration
      | none => throw (.pack (.unpackable (.expirationAfter head seconds.toNat)))
    modify fun header => { header with expiration := expiration.truncate }

/-- What a call comes to, and the header that it leaves. -/
def perform (call : Call) (header : Header) : Except TransactionError Unit × Header :=
  call.body.run.run header

/-- A call assigns all it has to or nothing. -/
lemma perform_eq (call : Call) (header : Header) :
    call.perform header = match call.edit.apply header with
      | .ok next => (.ok (), next)
      | .error e => (.error e, header) := by
  cases call with
  | referTo blockId =>
      rw [edit, Edit.apply, setReferenceBlock, Digest.parse, perform, body]
      cases Hex.decode blockId with
      | error fault => rfl
      | ok bytes =>
          by_cases hsize : bytes.length = digestSize
          · -- both checks are passed before the first assignment
            have hif : ¬ bytes.length ≠ digestSize := fun hne => hne hsize
            dsimp only
            rw [dif_pos hsize, pure_bind, if_neg hif]
            rfl
          · dsimp only
            rw [dif_neg hsize, pure_bind, if_pos hsize]
            rfl
  | expireAfter head seconds =>
      rw [edit, Edit.apply, setExpirationFrom, perform, body]
      cases head.add? seconds.toNat <;> rfl

/-! ### What calls assign -/

/-- A call is one that refers to a block. -/
def isReference : Call → Bool
  | referTo _ => true
  | expireAfter _ _ => false

/-- What a call has a header refer to, if it succeeds. -/
def reference? : Call → Option (UInt16 × UInt32)
  | referTo blockId => (Digest.parse blockId).toOption.map Digest.reference
  | expireAfter _ _ => none

/-- When a call has a header expire, if it succeeds. -/
def expiration? : Call → Option Instant
  | referTo _ => none
  | expireAfter head seconds => (head.add? seconds.toNat).map Instant.truncate

/-- A call succeeds: a block is referred to by two digits for each byte of its id, and there is an
instant when the header can expire. -/
def Succeeds : Call → Prop
  | referTo blockId => Digest.IsText blockId
  | expireAfter head seconds => head.seconds + seconds.toNat ≤ maxSeconds

instance : DecidablePred Succeeds
  | referTo blockId => inferInstanceAs (Decidable (Digest.IsText blockId))
  | expireAfter head seconds => inferInstanceAs (Decidable (head.seconds + seconds.toNat ≤ _))

end Call

/-- A header with a new reference and a new expiration, as far as there are any. -/
def update (header : Header) (reference? : Option (UInt16 × UInt32))
    (expiration? : Option Instant) : Header :=
  { header with
    refBlockNum := (reference?.getD (header.refBlockNum, header.refBlockPrefix)).1
    refBlockPrefix := (reference?.getD (header.refBlockNum, header.refBlockPrefix)).2
    expiration := expiration?.getD header.expiration }

/-- Of two updates the later one counts. -/
lemma update_update (header : Header) (r r' : Option (UInt16 × UInt32))
    (e e' : Option Instant) :
    (header.update r e).update r' e' = header.update (r'.or r) (e'.or e) := by
  cases r' <;> cases e' <;> rfl

namespace Call

variable {call : Call}

/-- The outcome of a call depends on the call alone. -/
lemma perform_fst_eq_ok_iff (call : Call) (header : Header) :
    (call.perform header).1 = .ok () ↔ call.Succeeds := by
  rw [perform_eq]
  cases call with
  | referTo blockId =>
      rw [edit, Edit.apply, setReferenceBlock, Succeeds, ← Digest.exists_parse_iff_isText]
      cases Digest.parse blockId <;> simp
  | expireAfter head seconds =>
      rw [edit, Edit.apply, setExpirationFrom, Succeeds]
      by_cases hle : head.seconds + seconds.toNat ≤ maxSeconds
      · obtain ⟨expiration, hadd, -⟩ := Instant.exists_add? hle
        simp [hadd, hle]
      · simp [Instant.add?_eq_none (Int.not_le.mp hle), hle]

/-- A call updates the header and does nothing else to it. -/
lemma perform_snd (call : Call) (header : Header) :
    (call.perform header).2 = header.update call.reference? call.expiration? := by
  rw [perform_eq]
  cases call with
  | referTo blockId =>
      rw [edit, Edit.apply, setReferenceBlock, reference?, expiration?]
      cases Digest.parse blockId <;> rfl
  | expireAfter head seconds =>
      rw [edit, Edit.apply, setExpirationFrom, reference?, expiration?]
      cases head.add? seconds.toNat <;> rfl

/-- A call that fails leaves the header as it is. -/
lemma perform_snd_of_not_succeeds (h : ¬ call.Succeeds) (header : Header) :
    (call.perform header).2 = header := by
  have hnot := mt (perform_fst_eq_ok_iff call header).mp h
  rw [perform_eq] at hnot ⊢
  cases hedit : call.edit.apply header with
  | error e => rfl
  | ok next =>
      rw [hedit] at hnot
      exact absurd rfl hnot

/-- The calls that give a reference are those for one that succeed. -/
lemma isSome_reference?_iff :
    call.reference?.isSome = true ↔ call.isReference = true ∧ call.Succeeds := by
  cases call with
  | referTo blockId =>
      rw [Succeeds, ← Digest.exists_parse_iff_isText, reference?]
      cases Digest.parse blockId <;> simp [isReference, Except.toOption]
  | expireAfter head seconds => simp [reference?, isReference]

/-- The calls that give an expiration are those for one that succeed. -/
lemma isSome_expiration?_iff :
    call.expiration?.isSome = true ↔ call.isReference = false ∧ call.Succeeds := by
  cases call with
  | referTo blockId => simp [expiration?, isReference]
  | expireAfter head seconds =>
      rw [Succeeds, expiration?]
      by_cases hle : head.seconds + seconds.toNat ≤ maxSeconds
      · obtain ⟨expiration, hadd, -⟩ := Instant.exists_add? hle
        simp [hadd, hle, isReference]
      · simp [Instant.add?_eq_none (Int.not_le.mp hle), hle]

end Call

/-! ### Many calls -/

/-- Performs calls one after the other, going on when one fails. -/
def performAll (header : Header) (calls : List Call) : Header :=
  calls.foldl (fun header call => (call.perform header).2) header

/-- What the last call that succeeds has a header refer to. -/
def lastReference? (calls : List Call) : Option (UInt16 × UInt32) :=
  (calls.filterMap Call.reference?).getLast?

/-- When the last call that succeeds has a header expire. -/
def lastExpiration? (calls : List Call) : Option Instant :=
  (calls.filterMap Call.expiration?).getLast?

/-- Many calls are one update. -/
lemma performAll_eq (header : Header) (calls : List Call) :
    header.performAll calls = header.update (lastReference? calls) (lastExpiration? calls) := by
  induction calls using List.reverseRecOn with
  | nil => rfl
  | append_singleton calls call ih =>
      have hlast {β : Type} (f : Call → Option β) :
          ((calls ++ [call]).filterMap f).getLast? = (f call).or (calls.filterMap f).getLast? := by
        rw [List.filterMap_append, List.getLast?_append, List.filterMap_cons]
        cases f call <;> rfl
      calc header.performAll (calls ++ [call])
          = (call.perform (header.performAll calls)).2 := by
            rw [performAll, List.foldl_append]
            rfl
        _ = (header.update (lastReference? calls) (lastExpiration? calls)).update
              call.reference? call.expiration? := by rw [Call.perform_snd, ih]
        _ = header.update (lastReference? (calls ++ [call]))
              (lastExpiration? (calls ++ [call])) := by
            rw [update_update, lastReference?, lastReference?, lastExpiration?, lastExpiration?,
              hlast, hlast]

/-- Calls that fail can be left out. -/
lemma performAll_filter_succeeds (header : Header) (calls : List Call) :
    header.performAll (calls.filter fun call => call.Succeeds) = header.performAll calls := by
  rw [performAll_eq, performAll_eq, lastReference?, lastExpiration?,
    filterMap_filter_of_isSome fun call hsome =>
      decide_eq_true (Call.isSome_reference?_iff.mp hsome).2,
    filterMap_filter_of_isSome fun call hsome =>
      decide_eq_true (Call.isSome_expiration?_iff.mp hsome).2]
  rfl

/-- What matters of some calls are those of each kind, in their order. -/
lemma performAll_congr {calls other : List Call} (header : Header)
    (hreferences : other.filter Call.isReference = calls.filter Call.isReference)
    (hexpirations : (other.filter fun call => !call.isReference)
      = calls.filter fun call => !call.isReference) :
    header.performAll other = header.performAll calls := by
  have hreference (calls : List Call) :
      lastReference? (calls.filter Call.isReference) = lastReference? calls := by
    rw [lastReference?, filterMap_filter_of_isSome fun call hsome =>
      (Call.isSome_reference?_iff.mp hsome).1]
    rfl
  have hexpiration (calls : List Call) :
      lastExpiration? (calls.filter fun call => !call.isReference) = lastExpiration? calls := by
    rw [lastExpiration?, filterMap_filter_of_isSome fun call hsome => by
      rw [(Call.isSome_expiration?_iff.mp hsome).1]
      rfl]
    rfl
  rw [performAll_eq, performAll_eq, ← hreference other, ← hexpiration other, hreferences,
    hexpirations, hreference, hexpiration]

/-- Changes to the header of a transaction are such calls. -/
lemma edit_calls (t : Transaction) (calls : List Call) :
    t.edit (calls.map fun call => .header call.edit)
      = { t with header := t.header.performAll calls } := by
  induction calls generalizing t with
  | nil => rfl
  | cons call calls ih =>
      have hstep : (Transaction.Edit.apply t (.header call.edit)).1
          = { t with header := (call.perform t.header).2 } := by
        rw [Call.perform_eq, Transaction.Edit.apply]
        cases call.edit.apply t.header <;> rfl
      rw [List.map_cons, Transaction.edit, List.foldl_cons, hstep]
      exact ih _

end Header

/-- **Failed updates leave no trace, and the two kinds of updates do not interfere.** Whatever the
header and the calls, in the end both parts of the reference are those that the last successful
call for a reference gives, and the expiration is that of the last successful call for an
expiration; what no call gives is as it was at first. Whether a call succeeds depends on the call
alone, and one that fails leaves the header as it is, so that failing calls can be left out. How
the two kinds of calls are interleaved does not matter. -/
theorem header_updates_from_last_success (header : Header) (calls : List Header.Call) :
    let final := header.performAll calls
    (final.refBlockNum, final.refBlockPrefix)
        = (calls.filterMap Header.Call.reference?).getLast?.getD
            (header.refBlockNum, header.refBlockPrefix)
    ∧ final.expiration
        = (calls.filterMap Header.Call.expiration?).getLast?.getD header.expiration
    ∧ final.maxNetUsageWords = header.maxNetUsageWords
    ∧ final.maxCpuUsageMs = header.maxCpuUsageMs ∧ final.delaySec = header.delaySec
    ∧ (∀ call : Header.Call,
      (call.reference?.isSome = true ↔ call.isReference = true ∧ call.Succeeds)
      ∧ (call.expiration?.isSome = true ↔ call.isReference = false ∧ call.Succeeds)
      ∧ ∀ before : Header, ((call.perform before).1 = .ok () ↔ call.Succeeds)
        ∧ (¬ call.Succeeds → (call.perform before).2 = before))
    ∧ header.performAll (calls.filter fun call => call.Succeeds) = final
    ∧ (∀ other : List Header.Call,
      other.filter Header.Call.isReference = calls.filter Header.Call.isReference →
      ((other.filter fun call => !call.isReference) = calls.filter fun call => !call.isReference) →
      header.performAll other = final)
    ∧ ∀ t : Transaction, t.header = header →
      t.edit (calls.map fun call => .header call.edit) = { t with header := final } := by
  intro final
  have hfinal : final
      = header.update (Header.lastReference? calls) (Header.lastExpiration? calls) :=
    header.performAll_eq calls
  refine ⟨by rw [hfinal]; rfl, by rw [hfinal]; rfl, by rw [hfinal]; rfl, by rw [hfinal]; rfl,
    by rw [hfinal]; rfl, fun call => ⟨Header.Call.isSome_reference?_iff,
      Header.Call.isSome_expiration?_iff, fun before => ⟨call.perform_fst_eq_ok_iff before, ?_⟩⟩,
    header.performAll_filter_succeeds calls, fun other => header.performAll_congr, ?_⟩
  · intro hfails
    exact call.perform_snd_of_not_succeeds hfails before
  · rintro t rfl
    exact Header.edit_calls t calls

/-- A reference and an expiration that a call of either kind fails to replace, and the same calls in
another order. -/
theorem header_updates_from_last_success_interleaved :
    let id := "00070064ffffffff39300000abababababababababababababababababababab"
    let head : Instant := ⟨1, 500000000, by decide, by decide, by decide⟩
    let last : Instant := ⟨maxSeconds, 0, by decide, by decide, by decide⟩
    let calls : List Header.Call :=
      [.referTo id, .expireAfter head 30, .referTo "é", .expireAfter last 1]
    let other : List Header.Call :=
      [.expireAfter head 30, .expireAfter last 1, .referTo id, .referTo "é"]
    let final := Header.performAll { delaySec := 7 } calls
    (final.refBlockNum, final.refBlockPrefix) = (100, 12345) ∧ final.expiration.seconds = 31
    ∧ final.expiration.nanos = 0 ∧ final.delaySec = 7
    ∧ Header.performAll { delaySec := 7 } other = final
    ∧ (Header.Call.perform (.referTo "é") final).2 = final := by
  intro id head last calls other final
  obtain ⟨hreference, hexpiration, -, -, hdelay, hcall, -, hother, -⟩ :=
    header_updates_from_last_success { delaySec := 7 } calls
  have hreferences : calls.filterMap Header.Call.reference? = [(100, 12345)] := by decide +kernel
  have hexpirations : (calls.filterMap Header.Call.expiration?).getLast?
      = some (Instant.truncate ⟨31, 500000000, by decide, by decide, by decide⟩) := by
    decide +kernel
  have hbad : ¬ (Header.Call.referTo "é").Succeeds := by decide
  rw [hreferences] at hreference
  rw [hexpirations] at hexpiration
  refine ⟨hreference, by rw [hexpiration]; rfl, by rw [hexpiration]; rfl, hdelay,
    hother other rfl rfl, ((hcall (.referTo "é")).2.2 final).2 hbad⟩

end TxWire
