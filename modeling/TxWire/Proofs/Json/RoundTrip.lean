import TxWire.Proofs.Json.Decode
import TxWire.Proofs.Layout.Outcome
import TxWire.Proofs.Layout.PrefixFree
import TxWire.Signing.Json
import TxWire.Transaction.Json

/-!
Documents are read back as they were written.

* `PermissionLevel.reads_toJson`, `Action.reads_toJson`, `Extension.reads_toJson`,
  `PushBody.reads_toJson`: these come back unchanged.
* `Header.asShown`, `Transaction.normalize`: what headers and transactions come back as. The
  expiration is the second that it is shown in, and there is a list of actions.
* `Put.SameEffect`: two computations leave every writer alike. `Header.sameEffect_asShown_iff` and
  `Transaction.sameEffect_normalize_iff` say when packing sees nothing of what was lost.
* `json_round_trip`: all of it.
-/

namespace TxWire

open Json (Value Record Passes reads_string reads_hex reads_list)

/-! ### Records that come back unchanged -/

lemma PermissionLevel.reads_toJson (level : PermissionLevel) :
    record.decode.Reads level.toJson level :=
  Record.reads_object
    (Record.passes_field rfl (reads_string _) <|
      Record.passes_field rfl (reads_string _) .nil) rfl

lemma Action.reads_toJson (action : Action) : record.decode.Reads action.toJson action :=
  Record.reads_object
    (Record.passes_field rfl (reads_string _) <|
      Record.passes_field rfl (reads_string _) <|
      Record.passes_field rfl (reads_list PermissionLevel.reads_toJson _) <|
      Record.passes_field rfl (reads_hex _) .nil) rfl

lemma Extension.reads_toJson (extension : Extension) :
    record.decode.Reads extension.toJson extension :=
  Record.reads_object
    (Record.passes_field rfl (Json.reads_u16 _) <|
      Record.passes_field rfl (reads_hex _) .nil) rfl

lemma Compression.reads_toJson (compression : Compression) :
    decode.Reads compression.toJson compression := by
  cases compression
  exact Json.reads_named rfl

lemma PushBody.reads_toJson (body : PushBody) : record.decode.Reads body.toJson body :=
  Record.reads_object
    (Record.passes_field rfl (reads_list reads_string _) <|
      Record.passes_field rfl (Compression.reads_toJson _) <|
      Record.passes_field rfl (reads_string _) <|
      Record.passes_field rfl (reads_string _) .nil) rfl

/-! ### Headers -/

namespace Header

/-- A header that expires in the second that its expiration is shown in. -/
def asShown (header : Header) : Header :=
  { header with expiration := header.expiration.asShown }

/-- The draft that a header has when all of its fields have been met. -/
def Draft.full (header : Header) : Draft :=
  { expiration := some header.expiration
    refBlockNum := some header.refBlockNum
    refBlockPrefix := some header.refBlockPrefix
    maxNetUsageWords := some header.maxNetUsageWords
    maxCpuUsageMs := some header.maxCpuUsageMs
    delaySec := some header.delaySec }

lemma passes_members (header : Header) :
    Passes record.members {} header.members (Draft.full header.asShown) :=
  Record.passes_field rfl (Json.reads_instant _) <|
    Record.passes_field rfl (Json.reads_u16 _) <|
    Record.passes_field rfl (Json.reads_u32 _) <|
    Record.passes_field rfl (Json.reads_u32 _) <|
    Record.passes_field rfl (Json.reads_u8 _) <|
    Record.passes_field rfl (Json.reads_u32 _) .nil

lemma reads_toJson (header : Header) : record.decode.Reads header.toJson header.asShown :=
  Record.reads_object header.passes_members rfl

end Header

/-! ### Transactions -/

namespace Transaction

/-- What a transaction comes back as: its expiration is the second that it is shown in, and its list
of actions is there even if it is empty. -/
def normalize (t : Transaction) : Transaction :=
  { t with header := t.header.asShown, actions? := some t.actions }

/-- The members of the three lists. -/
def listMembers (t : Transaction) : List (String × Value) :=
  [ ("context_free_actions", .array (t.contextFreeActions.map Action.toJson)),
    ("actions", .array (t.actions.map Action.toJson)),
    ("transaction_extensions", .array (t.extensions.map Extension.toJson))]

namespace Lists

variable {lists final : Lists} {members : List (String × Value)} {key : String} {value : Value}

lemma passes_field {α : Type} {decoder : Json.Decoder α} {put : α → Lists} {x : α}
    (hfield : lists.field? key = some (Json.field key none decoder put))
    (hread : decoder.Reads value x) (hmembers : Passes takeIn (put x) members final) :
    Passes takeIn lists ((key, value) :: members) final := by
  intro rest
  rw [Json.memberNodes, List.cons_append, takeIn, ← hmembers rest]
  dsimp only [Json.stringToken, Json.ofText, Except.mapError, bind, Except.bind]
  rw [hfield]
  dsimp only
  rw [Json.reads_field hread]

/-- A member that is none of the lists is looked at and left for the header. -/
lemma passes_keep (hfield : lists.field? key = none)
    (hvalue : value.node.takeIn nestingRoom = .ok ())
    (hmembers : Passes takeIn lists members final) :
    Passes takeIn lists ((key, value) :: members) final := by
  intro rest
  rw [Json.memberNodes, List.cons_append, takeIn, ← hmembers rest]
  dsimp only [Json.stringToken, Json.ofText, Except.mapError, bind, Except.bind]
  rw [hfield, hvalue]

lemma takeIn_string (s : String) : (Value.string s).node.takeIn nestingRoom = .ok () := by
  rw [Value.node, Json.Node.takeIn]
  rfl

lemma takeIn_number {n : ℕ} (h : n < UInt64.size) :
    (Value.number n).node.takeIn nestingRoom = .ok () := by
  rw [Value.node, Json.Node.takeIn, Json.content_numberToken h]
  rfl

/-- The first pass keeps the members of a header for the second. -/
lemma passes_header (header : Header) : Passes takeIn {} header.members {} :=
  passes_keep rfl (takeIn_string _) <|
    passes_keep rfl (takeIn_number (header.refBlockNum.toNat_lt.trans (by decide))) <|
    passes_keep rfl (takeIn_number (header.refBlockPrefix.toNat_lt.trans (by decide))) <|
    passes_keep rfl (takeIn_number (header.maxNetUsageWords.toNat_lt.trans (by decide))) <|
    passes_keep rfl (takeIn_number (header.maxCpuUsageMs.toNat_lt.trans (by decide))) <|
    passes_keep rfl (takeIn_number (header.delaySec.toNat_lt.trans (by decide))) .nil

lemma passes_lists (t : Transaction) : Passes takeIn {} t.listMembers
    { contextFreeActions := some t.contextFreeActions, actions? := some (some t.actions),
      extensions := some t.extensions } :=
  passes_field rfl (reads_list Action.reads_toJson _) <|
    passes_field rfl (Json.reads_optional_list Action.reads_toJson _) <|
    passes_field rfl (reads_list Extension.reads_toJson _) .nil

end Lists

/-- The second pass skips the lists. -/
lemma passes_members (t : Transaction) :
    Passes Header.record.members {} (t.header.members ++ t.listMembers)
      (Header.Draft.full t.header.asShown) :=
  t.header.passes_members.append
    (Record.passes_skip rfl (Record.passes_skip rfl (Record.passes_skip rfl .nil)))

lemma reads_toJson (t : Transaction) : decode.Reads t.toJson t.normalize := by
  have hlists := (Lists.passes_header t.header).append (Lists.passes_lists t) []
  have hheader : Header.record.decode.Reads (.object (t.header.members ++ t.listMembers))
      t.header.asShown :=
    Record.reads_object t.passes_members rfl
  rw [List.append_nil] at hlists
  rw [Json.Decoder.Reads, Value.node] at hheader
  show decode (Value.object (t.header.members ++ t.listMembers)).node = _
  rw [Value.node, decode, hlists]
  dsimp only [Lists.takeIn, Json.ofText, Except.mapError, bind, Except.bind]
  rw [hheader]
  rfl

end Transaction

/-! ### Packing what was read back -/

/-- Two computations leave every writer in the same state, and one succeeds where the other
does. -/
def Put.SameEffect (p q : Put Unit) : Prop :=
  ∀ w : Writer, (p.on w).value.2 = (q.on w).value.2
    ∧ ((p.on w).value.1 = .ok () ↔ (q.on w).value.1 = .ok ())

/-- It depends on the layouts what effect computations have. -/
lemma Put.sameEffect_iff {p q : Put Unit} {l m : Layout} (hp : p.Lays l) (hq : q.Lays m) :
    p.SameEffect q ↔ ∀ charset, l.written charset = m.written charset
      ∧ (l.refusal? charset = none ↔ m.refusal? charset = none) := by
  constructor
  · intro h charset
    obtain ⟨hwriter, hresult⟩ := h (Writer.empty charset)
    rw [hp, hq, Layout.result_eq_ok_iff, Layout.result_eq_ok_iff] at hresult
    rw [hp, hq, Writer.mk.injEq] at hwriter
    exact ⟨hwriter.1, hresult⟩
  · intro h w
    obtain ⟨hwritten, hrefusal⟩ := h w.charset
    rw [hp, hq, Layout.result_eq_ok_iff, Layout.result_eq_ok_iff, hwritten]
    exact ⟨rfl, hrefusal⟩

namespace Header

variable {header : Header}

lemma seconds_asShown : header.asShown.expiration.seconds
    = if header.expiration.IsStray then header.expiration.seconds + 1
      else header.expiration.seconds := header.expiration.seconds_asShown

/-- The wire format has the expiration in seconds, so that it has no room for what is lost. -/
lemma elements_asShown (hfits : header.ExpirationFits) (hstray : ¬ header.expiration.IsStray) :
    header.asShown.elements = header.elements := by
  have hseconds : header.asShown.expiration.seconds = header.expiration.seconds := by
    rw [seconds_asShown, if_neg hstray]
  have hshown : header.asShown.ExpirationFits := by
    rwa [ExpirationFits, hseconds]
  have hexpiration : header.asShown.expirationElement = header.expirationElement := by
    funext charset
    rw [expirationElement_of_fits hfits, expirationElement_of_fits hshown, hseconds]
  rw [elements, hexpiration]
  rfl

/-- The second behind one that does not fit does not fit either, unless that is the last second
before 1970, which is the last of a minute. -/
lemma not_expirationFits_asShown (h : ¬ header.ExpirationFits) :
    ¬ header.asShown.ExpirationFits := by
  rw [ExpirationFits] at h ⊢
  rw [seconds_asShown]
  split_ifs with hstray
  · have hmod := hstray.2
    omega
  · exact h

lemma seconds_asShown_ne (hstray : header.expiration.IsStray) :
    header.asShown.expiration.seconds ≠ header.expiration.seconds := by
  rw [seconds_asShown, if_pos hstray]
  omega

/-- A header that went through its text is packed as before, unless its expiration is in a stray
leap second and fits. -/
lemma sameEffect_asShown_iff : (pack header.asShown).SameEffect (pack header)
    ↔ ¬ (header.expiration.IsStray ∧ header.ExpirationFits) := by
  rw [Put.sameEffect_iff (pack_lays header.asShown) (pack_lays header)]
  show (∀ charset, header.asShown.elements.written charset = header.elements.written charset
    ∧ (header.asShown.elements.refusal? charset = none
      ↔ header.elements.refusal? charset = none)) ↔ _
  by_cases hfits : header.ExpirationFits
  · rw [and_iff_left hfits]
    refine ⟨fun h hstray => ?_, fun hstray charset => ?_⟩
    · -- both are packed, and the bytes tell the seconds
      obtain ⟨hwritten, hrefusal⟩ := h .utf8
      have hnone : header.elements.refusal? .utf8 = none := refusal?_elements_of_fits hfits
      have hsame := ((prefixFree .utf8).written_eq_iff (hrefusal.mpr hnone) hnone).mp hwritten
      exact seconds_asShown_ne hstray hsame.1
    · rw [elements_asShown hfits hstray]
      exact ⟨rfl, Iff.rfl⟩
  · refine iff_of_true (fun charset => ?_) fun h => hfits h.2
    -- both fail before anything is written, though each names its own expiration
    have hnot := not_expirationFits_asShown hfits
    rw [refusal?_elements_of_not_fits hfits, refusal?_elements_of_not_fits hnot, elements, elements,
      Layout.written_cons_error (expirationElement_of_not_fits hfits _),
      Layout.written_cons_error (expirationElement_of_not_fits hnot _)]
    exact ⟨rfl, by simp⟩

end Header

namespace Transaction

variable {t : Transaction}

lemma elements_normalize (hfits : t.header.ExpirationFits)
    (hstray : ¬ t.header.expiration.IsStray) : t.normalize.elements = t.elements := by
  rw [elements, elements, normalize, Header.elements_asShown hfits hstray]
  rfl

/-- The same holds of transactions. -/
lemma sameEffect_normalize_iff : (pack t.normalize).SameEffect (pack t)
    ↔ ¬ (t.header.expiration.IsStray ∧ t.header.ExpirationFits) := by
  rw [Put.sameEffect_iff (pack_transaction_lays t.normalize) (pack_transaction_lays t)]
  simp only [Layout.refusal?_block, Layout.written_block]
  by_cases hfits : t.header.ExpirationFits
  · rw [and_iff_left hfits]
    refine ⟨fun h hstray => ?_, fun hstray charset => ?_⟩
    · obtain ⟨hwritten, hrefusal⟩ := h .utf8
      have hnone : t.elements.refusal? .utf8 = none :=
        refusal?_elements_eq_none_iff.mpr ⟨hfits, fun text _ => ⟨_, Charset.encode_utf8 text⟩⟩
      have hnormal := hrefusal.mpr hnone
      rw [if_pos hnone, if_pos hnormal] at hwritten
      have hsame := ((prefixFree .utf8).written_eq_iff hnormal hnone).mp hwritten
      exact Header.seconds_asShown_ne hstray hsame.1.1
    · rw [elements_normalize hfits hstray]
      exact ⟨rfl, Iff.rfl⟩
  · refine iff_of_true (fun charset => ?_) fun h => hfits h.2
    have hnot : ¬ t.normalize.header.ExpirationFits := Header.not_expirationFits_asShown hfits
    rw [refusal?_elements_of_not_fits hfits, refusal?_elements_of_not_fits hnot]
    simp

end Transaction

/-! ### The round trip -/

/-- **Documents are read back as they were written**, whatever strings, data and instants they
hold. Permission levels, actions, extensions and push bodies come back unchanged; headers and
transactions come back with the expiration cut to its second, and transactions with a list of
actions. A leap second at the end of a minute stays one, and is what a document shows as second
`60`; a leap second anywhere else is shown as the start of the second behind it, and comes back as
that. Only where there is such an expiration and it fits does packing make a difference, in every
charset and behind all that a writer holds. -/
theorem json_round_trip :
    (∀ level : PermissionLevel,
      Json.decode PermissionLevel.record.decode level.toJson.text = .ok level)
    ∧ (∀ action : Action, Json.decode Action.record.decode action.toJson.text = .ok action)
    ∧ (∀ extension : Extension,
      Json.decode Extension.record.decode extension.toJson.text = .ok extension)
    ∧ (∀ body : PushBody, Json.decode PushBody.record.decode body.toJson.text = .ok body)
    ∧ (∀ header : Header,
      Json.decode Header.record.decode header.toJson.text = .ok header.asShown
        ∧ ((pack header.asShown).SameEffect (pack header)
          ↔ ¬ (header.expiration.IsStray ∧ header.ExpirationFits)))
    ∧ (∀ t : Transaction, Json.decode Transaction.decode t.toJson.text = .ok t.normalize
      ∧ ((pack t.normalize).SameEffect (pack t)
        ↔ ¬ (t.header.expiration.IsStray ∧ t.header.ExpirationFits)))
    ∧ ∀ t : Instant,
      (¬ t.IsStray → t.asShown.seconds = t.seconds ∧ t.asShown.nanos % nanosPerSecond = 0
        ∧ t.asShown.inLeapSecond = t.inLeapSecond)
      ∧ (t.IsStray → t.asShown.seconds = t.seconds + 1 ∧ t.asShown.nanos = 0)
      ∧ (t.inLeapSecond = true ∧ ¬ t.IsStray
        ↔ ∃ minutes : String, t.timePoint = minutes ++ ":60") := by
  refine ⟨fun level => ?_, fun action => ?_, fun extension => ?_, fun body => ?_,
    fun header => ⟨?_, Header.sameEffect_asShown_iff⟩,
    fun t => ⟨?_, Transaction.sameEffect_normalize_iff⟩,
    fun t => ⟨fun hstray => ?_, t.asShown_of_isStray, Instant.isLeapSecond_iff_timePoint⟩⟩
  · rw [Json.decode_text, level.reads_toJson]
  · rw [Json.decode_text, action.reads_toJson]
  · rw [Json.decode_text, extension.reads_toJson]
  · rw [Json.decode_text, body.reads_toJson]
  · rw [Json.decode_text, header.reads_toJson]
  · rw [Json.decode_text, t.reads_toJson]
  · rw [t.asShown_of_not_isStray hstray]
    exact ⟨rfl, t.nanos_truncate_mod, t.inLeapSecond_truncate⟩

/-- The middle of the leap second at the end of the first minute of 1970 comes back as the start of
that leap second, which is packed alike. -/
theorem json_round_trip_leap_second :
    let inLeap : Instant := ⟨59, 1500000000, by decide, by decide, by decide⟩
    let header : Header := { expiration := inLeap }
    let shown : Header := { expiration := ⟨59, 1000000000, by decide, by decide, by decide⟩ }
    Json.decode Header.record.decode header.toJson.text = .ok shown
      ∧ (pack shown).SameEffect (pack header)
      ∧ ∃ minutes : String, inLeap.timePoint = minutes ++ ":60" := by
  intro inLeap header shown
  have hstray : ¬ inLeap.IsStray := by decide
  obtain ⟨-, -, -, -, hheader, -, hinstant⟩ := json_round_trip
  exact ⟨(hheader header).1, (hheader header).2.mpr fun h => hstray h.1,
    (hinstant inLeap).2.2.mp ⟨rfl, hstray⟩⟩

/-- The third part of a leap second behind second `4` shows as second `5` and comes back as that,
not as its own second; and the two are packed into different bytes. -/
theorem stray_leap_second_reads_as_next :
    let stray : Instant := ⟨4, 1333333333, by decide, by decide, by decide⟩
    let header : Header := { expiration := stray }
    let next : Header := { expiration := ⟨5, 0, by decide, by decide, by decide⟩ }
    stray.timePoint = "1970-01-01T00:00:05"
      ∧ Json.decode Header.record.decode header.toJson.text = .ok next
      ∧ next ≠ { header with expiration := stray.truncate }
      ∧ (packedBytes header).value = .ok [4, 0, 0, 0, 0, 0, 0, 0, 0, 0, 0, 0, 0]
      ∧ (packedBytes next).value = .ok [5, 0, 0, 0, 0, 0, 0, 0, 0, 0, 0, 0, 0] := by
  intro stray header next
  refine ⟨by decide +kernel, ?_, by decide, ?_, ?_⟩
  · rw [Json.decode_text, header.reads_toJson]
    rfl
  · exact (pack_lays header).output_eq_ok_iff.mpr (by decide +kernel)
  · exact (pack_lays next).output_eq_ok_iff.mpr (by decide +kernel)

end TxWire
