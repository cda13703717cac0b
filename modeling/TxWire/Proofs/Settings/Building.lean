import TxWire.Proofs.Layout.Outcome
import TxWire.Proofs.Settings.Validation

/-!
Building a transaction from settings and the head of the chain.

Three ranges meet here. The id of the head block has to be a text of 64 digits, the expiration has
to be an instant, and for packing it has to fit into 32 bits. The id is looked at first, and an
expiration that does not fit is no obstacle to building.

* `Digest.exists_parse_iff_isText`: the texts that an identifier is read from, by their characters.
* `Instant.exists_add?`, `Instant.add?_eq_none`: a number of seconds later, up to the last second
  of all; only with no seconds at all does a leap second last.
* `Transaction.BuiltFrom`: what is built.
* `ofSettings_outcome`: when building and packing succeed, and what comes of them.
-/

namespace TxWire

/-! ### Numbers read from bytes -/

lemma ofBigEndian_concat (bytes : List UInt8) (b : UInt8) :
    ofBigEndian (bytes ++ [b]) = 256 * ofBigEndian bytes + b.toNat := by
  rw [ofBigEndian, List.foldl_append]
  rfl

/-- The bytes at the end make up the remainder, the ones before them the quotient. -/
lemma ofBigEndian_append (high low : List UInt8) :
    ofBigEndian (high ++ low) = 256 ^ low.length * ofBigEndian high + ofBigEndian low := by
  induction low using List.reverseRecOn with
  | nil => simp [ofBigEndian]
  | append_singleton low b ih =>
      rw [← List.append_assoc, ofBigEndian_concat, ih, ofBigEndian_concat, List.length_append,
        List.length_singleton]
      ring

lemma ofBigEndian_lt (bytes : List UInt8) : ofBigEndian bytes < 256 ^ bytes.length := by
  induction bytes using List.reverseRecOn with
  | nil => decide
  | append_singleton bytes b ih =>
      have hb := b.toNat_lt
      rw [ofBigEndian_concat, List.length_append, List.length_singleton, pow_succ]
      omega

lemma ofBigEndian_append_mod (high low : List UInt8) :
    ofBigEndian (high ++ low) % 256 ^ low.length = ofBigEndian low := by
  rw [ofBigEndian_append, Nat.mul_add_mod, Nat.mod_eq_of_lt (ofBigEndian_lt low)]

lemma ofLittleEndian_lt (bytes : List UInt8) : ofLittleEndian bytes < 256 ^ bytes.length := by
  induction bytes with
  | nil => decide
  | cons b bytes ih =>
      have hb := b.toNat_lt
      rw [ofLittleEndian, List.length_cons, pow_succ]
      omega

/-! ### Identifiers -/

namespace Digest

/-- A text consists of two digits for each byte of an identifier, and nothing else. -/
def IsText (text : String) : Prop :=
  text.length = 2 * digestSize ∧ ∀ c ∈ text.toList, Hex.IsDigit c

instance (text : String) : Decidable (IsText text) := inferInstanceAs (Decidable (_ ∧ _))

lemma exists_parse_iff_isText {text : String} :
    (∃ id, Digest.parse text = .ok id) ↔ IsText text := by
  rw [exists_parse_iff_codes, Hex.forall_isDigitCode_iff, IsText]
  exact and_congr_left fun hdigits => by rw [Hex.length_utf8Bytes_of_isDigit hdigits]

variable (id : Digest)

lemma length_take_drop {start width : ℕ} (h : start + width ≤ 32) :
    ((id.bytes.drop start).take width).length = width := by
  have hsize : id.bytes.length = 32 := id.size_eq
  rw [List.length_take, List.length_drop, hsize]
  omega

/-- The low half of the number that an id starts with is what the second pair of bytes says. -/
lemma toNat_lowHalf : (UInt16.ofNat (ofBigEndian (id.bytes.take 4))).toNat
    = ofBigEndian ((id.bytes.drop 2).take 2) := by
  have hmod := ofBigEndian_append_mod (id.bytes.take 2) ((id.bytes.drop 2).take 2)
  rw [id.length_take_drop (by norm_num), ← List.take_add] at hmod
  rw [UInt16.toNat_ofNat', ← hmod]
  rfl

/-- Four bytes of an id fit in 32 bits. -/
lemma toNat_fourBytes : (UInt32.ofNat (ofLittleEndian ((id.bytes.drop 8).take 4))).toNat
    = ofLittleEndian ((id.bytes.drop 8).take 4) := by
  have hlt := ofLittleEndian_lt ((id.bytes.drop 8).take 4)
  rw [id.length_take_drop (by norm_num)] at hlt
  rw [UInt32.toNat_ofNat', Nat.mod_eq_of_lt (lt_of_lt_of_eq hlt (by norm_num))]

end Digest

/-! ### Later instants -/

namespace Instant

/-- Any number of seconds can pass up to the last second. A leap second lasts if none does. -/
lemma exists_add? {t : Instant} {n : ℕ} (h : t.seconds + n ≤ maxSeconds) :
    ∃ u, t.add? n = some u ∧ u.seconds = t.seconds + n
      ∧ (u.inLeapSecond = true ↔ t.inLeapSecond = true ∧ n = 0) := by
  rw [add?]
  by_cases hzero : n = 0
  · exact ⟨t, if_pos hzero, by omega, by simp [hzero]⟩
  · have hmod : t.nanos % nanosPerSecond < nanosPerSecond := Nat.mod_lt _ (by decide)
    have hmin := t.minSeconds_le
    have hbounds : minSeconds ≤ t.seconds + n ∧ t.seconds + n ≤ maxSeconds
        ∧ t.nanos % nanosPerSecond < 2 * nanosPerSecond := ⟨by omega, h, by omega⟩
    refine ⟨_, by rw [if_neg hzero, of?, dif_pos hbounds], rfl, ?_⟩
    rw [inLeapSecond, decide_eq_true_eq]
    exact iff_of_false (Nat.not_le_of_lt hmod) fun hn => hzero hn.2

lemma add?_eq_none {t : Instant} {n : ℕ} (h : maxSeconds < t.seconds + n) : t.add? n = none := by
  have hmax := t.seconds_le
  rw [add?, if_neg (by omega), of?, dif_neg fun hbounds => absurd hbounds.2.1 (by omega)]

end Instant

/-! ### What is built -/

/-- When a transaction built from the settings expires, in seconds since the start of 1970, whether
or not there is an instant then. -/
def Settings.expiry (s : Settings) (headTime : Instant) : ℤ :=
  headTime.seconds + s.expirationSeconds.toNat

namespace Transaction

/-- What a transaction built from settings is like. -/
structure BuiltFrom (s : Settings) (headId : String) (headTime : Instant) (t : Transaction) :
    Prop where
  seconds : t.header.expiration.seconds = s.expiry headTime
  /-- It expires to the second, be it a leap second. -/
  nanos : t.header.expiration.nanos
    = if headTime.inLeapSecond ∧ s.expirationSeconds = 0 then nanosPerSecond else 0
  block : ∃ bytes, Hex.decode headId = .ok bytes ∧ bytes.length = digestSize
    ∧ t.header.refBlockNum.toNat = ofBigEndian ((bytes.drop 2).take 2)
    ∧ t.header.refBlockPrefix.toNat = ofLittleEndian ((bytes.drop 8).take 4)
  maxNetUsageWords : t.header.maxNetUsageWords = s.maxNetUsageWords
  maxCpuUsageMs : t.header.maxCpuUsageMs = s.maxCpuUsageMs
  delaySec : t.header.delaySec = s.delaySec
  noActions : t.actions? = none
  noContextFreeActions : t.contextFreeActions = []
  noExtensions : t.extensions = []

variable {s : Settings} {headId : String} {headTime : Instant}

/-- The transaction built for a block, to expire in the second of an instant. -/
def expiringAt (s : Settings) (id : Digest) (expiration : Instant) : Transaction :=
  { header :=
    { expiration := expiration.truncate
      refBlockNum := UInt16.ofNat (ofBigEndian (id.bytes.take 4))
      refBlockPrefix := UInt32.ofNat (ofLittleEndian ((id.bytes.drop 8).take 4))
      maxNetUsageWords := s.maxNetUsageWords
      maxCpuUsageMs := s.maxCpuUsageMs
      delaySec := s.delaySec } }

/-- The id is looked at before the time. -/
lemma ofSettings_eq (s : Settings) (headId : String) (headTime : Instant) :
    ofSettings s headId headTime = match Digest.parse headId with
      | .error fault => .error (.blockId headId fault)
      | .ok id => match headTime.add? s.expirationSeconds.toNat with
        | none => .error (.pack (.unpackable (.expirationAfter headTime s.expirationSeconds.toNat)))
        | some expiration => .ok (expiringAt s id expiration) := by
  rw [ofSettings]
  simp only [Header.setReferenceBlock, Header.setExpirationFrom]
  cases Digest.parse headId with
  | error fault => rfl
  | ok id => cases headTime.add? s.expirationSeconds.toNat <;> rfl

lemma ofSettings_of_not_isText (h : ¬ Digest.IsText headId) :
    ∃ fault, ofSettings s headId headTime = .error (.blockId headId fault) := by
  rw [ofSettings_eq]
  cases hparse : Digest.parse headId with
  | error fault => exact ⟨fault, rfl⟩
  | ok id => exact absurd (Digest.exists_parse_iff_isText.mp ⟨id, hparse⟩) h

lemma ofSettings_of_lt (hid : Digest.IsText headId) (h : maxSeconds < s.expiry headTime) :
    ofSettings s headId headTime
      = .error (.pack (.unpackable (.expirationAfter headTime s.expirationSeconds.toNat))) := by
  obtain ⟨id, hparse⟩ := Digest.exists_parse_iff_isText.mpr hid
  rw [ofSettings_eq, hparse, Instant.add?_eq_none h]

lemma ofSettings_of_le (hid : Digest.IsText headId) (h : s.expiry headTime ≤ maxSeconds) :
    ∃ t, ofSettings s headId headTime = .ok t ∧ t.BuiltFrom s headId headTime := by
  obtain ⟨id, hparse⟩ := Digest.exists_parse_iff_isText.mpr hid
  obtain ⟨expiration, hadd, hseconds, hleap⟩ := Instant.exists_add? h
  have hzero : s.expirationSeconds.toNat = 0 ↔ s.expirationSeconds = 0 := by
    rw [← UInt32.toNat_inj]
    rfl
  refine ⟨expiringAt s id expiration, by rw [ofSettings_eq, hparse, hadd], ?_⟩
  exact
    { seconds := hseconds
      nanos := if_congr (hleap.trans (and_congr_right fun _ => hzero)) rfl rfl
      block := ⟨id.bytes, Digest.decode_of_parse hparse, id.size_eq, id.toNat_lowHalf,
        id.toNat_fourBytes⟩
      maxNetUsageWords := rfl
      maxCpuUsageMs := rfl
      delaySec := rfl
      noActions := rfl
      noContextFreeActions := rfl
      noExtensions := rfl }

lemma exists_ofSettings_iff : (∃ t, ofSettings s headId headTime = .ok t)
    ↔ Digest.IsText headId ∧ s.expiry headTime ≤ maxSeconds := by
  by_cases hid : Digest.IsText headId
  · rw [and_iff_right hid]
    by_cases hle : s.expiry headTime ≤ maxSeconds
    · obtain ⟨t, ht, -⟩ := ofSettings_of_le hid hle
      exact iff_of_true ⟨t, ht⟩ hle
    · rw [ofSettings_of_lt hid (Int.not_le.mp hle)]
      exact iff_of_false (by simp) hle
  · obtain ⟨fault, hfault⟩ : ∃ fault, ofSettings s headId headTime
        = .error (.blockId headId fault) := ofSettings_of_not_isText hid
    rw [hfault]
    exact iff_of_false (by simp) fun h => hid h.1

lemma builtFrom_of_ofSettings {t : Transaction} (h : ofSettings s headId headTime = .ok t) :
    t.BuiltFrom s headId headTime := by
  obtain ⟨hid, hle⟩ := exists_ofSettings_iff.mp ⟨t, h⟩
  obtain ⟨u, hu, hbuilt⟩ := ofSettings_of_le hid hle
  rw [h, Except.ok.injEq] at hu
  rwa [hu]

/-! ### Packing what is built -/

namespace BuiltFrom

variable {t : Transaction} (h : t.BuiltFrom s headId headTime)

include h

lemma expirationFits_iff :
    t.header.ExpirationFits ↔ 0 ≤ s.expiry headTime ∧ s.expiry headTime < UInt32.size := by
  rw [Header.ExpirationFits, h.seconds]

/-- There are no strings, so only the expiration can be refused. -/
lemma refusal?_eq_none_iff {charset : Charset} : t.elements.refusal? charset = none
    ↔ 0 ≤ s.expiry headTime ∧ s.expiry headTime < UInt32.size := by
  have htexts : t.texts = [] := by
    rw [texts, actions, h.noActions, h.noContextFreeActions]
    rfl
  rw [refusal?_elements_eq_none_iff, htexts, h.expirationFits_iff]
  simp

/-- The expiration comes first in the bytes. -/
lemma exists_written {charset : Charset} (hnone : t.elements.refusal? charset = none) :
    ∃ rest, t.elements.written charset = lowBytes 4 (s.expiry headTime).toNat ++ rest := by
  have hfits := h.expirationFits_iff.mpr (h.refusal?_eq_none_iff.mp hnone)
  rw [written_elements hfits hnone, wire, Header.wire, h.seconds]
  simp only [List.append_assoc]
  exact ⟨_, rfl⟩

lemma pack_eq_ok_iff (w : Writer) : ((pack t).on w).value.1 = .ok ()
    ↔ 0 ≤ s.expiry headTime ∧ s.expiry headTime < UInt32.size := by
  rw [← h.refusal?_eq_none_iff, value_pack]
  cases t.elements.refusal? w.charset <;> simp

lemma exists_bytes_of_pack {w : Writer} (hpack : ((pack t).on w).value.1 = .ok ()) :
    ∃ rest, ((pack t).on w).value.2.bytes
      = w.bytes ++ (lowBytes 4 (s.expiry headTime).toNat ++ rest) := by
  have hnone : t.elements.refusal? w.charset = none :=
    h.refusal?_eq_none_iff.mpr ((h.pack_eq_ok_iff w).mp hpack)
  obtain ⟨rest, hrest⟩ := h.exists_written hnone
  exact ⟨rest, by rw [value_pack, hnone, ← hrest]⟩

lemma take_packedBytes {data : List UInt8} (hdata : (packedBytes t).value = .ok data) :
    data.take 4 = lowBytes 4 (s.expiry headTime).toNat := by
  rw [Put.value_packedBytes] at hdata
  obtain ⟨hnone, hwritten⟩ := (pack_transaction_lays t).output_eq_ok_iff.mp hdata
  rw [Layout.refusal?_block] at hnone
  obtain ⟨rest, hrest⟩ := h.exists_written hnone
  rw [← hwritten, Layout.written_block, if_pos hnone, hrest]
  exact List.take_left' (length_lowBytes 4 _)

end BuiltFrom

end Transaction

/-- **Building a transaction from settings, up to its bytes.** It is built exactly if the id of the
head block consists of 64 digits and there is an instant at which to expire; a bad id is reported
whatever the time is. What is built expires that many seconds after the head block, on the second,
refers to the block by the bytes of its id, has the limits of the settings and nothing else. It is
packed, in UTF-8 or any other charset, exactly if the expiration is not negative and fits in 32
bits, and its bytes then start with it. -/
theorem ofSettings_outcome (s : Settings) (headId : String) (headTime : Instant) :
    let built := Transaction.ofSettings s headId headTime
    let expiry : ℤ := headTime.seconds + s.expirationSeconds.toNat
    ((∃ t, built = .ok t) ↔ Digest.IsText headId ∧ expiry ≤ maxSeconds)
    ∧ (¬ Digest.IsText headId → ∃ fault, built = .error (.blockId headId fault))
    ∧ (Digest.IsText headId → maxSeconds < expiry → built
      = .error (.pack (.unpackable (.expirationAfter headTime s.expirationSeconds.toNat))))
    ∧ ∀ t, built = .ok t → t.BuiltFrom s headId headTime
      ∧ ((∃ data, (packedBytes t).value = .ok data) ↔ 0 ≤ expiry ∧ expiry < 2 ^ 32)
      ∧ (∀ data, (packedBytes t).value = .ok data → data.take 4 = lowBytes 4 expiry.toNat)
      ∧ ∀ w : Writer, let (result, after) := ((pack t).on w).value
        (result = .ok () ↔ 0 ≤ expiry ∧ expiry < 2 ^ 32)
        ∧ (result = .ok () → ∃ rest,
          after.bytes = w.bytes ++ (lowBytes 4 expiry.toNat ++ rest)) := by
  refine ⟨Transaction.exists_ofSettings_iff, Transaction.ofSettings_of_not_isText,
    Transaction.ofSettings_of_lt, fun t ht => ?_⟩
  have hbuilt := Transaction.builtFrom_of_ofSettings ht
  refine ⟨hbuilt, ?_, fun data => hbuilt.take_packedBytes, fun w =>
    ⟨hbuilt.pack_eq_ok_iff w, hbuilt.exists_bytes_of_pack⟩⟩
  rw [Put.value_packedBytes, Put.exists_output_iff]
  exact hbuilt.pack_eq_ok_iff _

/-- A head block in the middle of the last second but one of 1969, with a number that has 100 for
its low half, and a transaction that expires half a minute later. The last second of all leaves no
time for that, of which nothing is said if the id is bad. -/
theorem ofSettings_outcome_before_epoch :
    let s : Settings := { maxCpuUsageMs := 3 }
    let id := "00070064FFFFFFFF39300000ababababababababababababababababababABAB"
    let head : Instant := ⟨-2, 500000000, by decide, by decide, by decide⟩
    let last : Instant := ⟨maxSeconds, 0, by decide, by decide, by decide⟩
    (∃ t data, Transaction.ofSettings s id head = .ok t ∧ t.header.expiration.seconds = 28
      ∧ t.header.expiration.nanos = 0 ∧ t.header.refBlockNum = 100
      ∧ t.header.refBlockPrefix = 12345 ∧ t.header.maxCpuUsageMs = 3
      ∧ (packedBytes t).value = .ok data ∧ data.take 4 = [28, 0, 0, 0])
    ∧ (Transaction.ofSettings s id last
      = .error (.pack (.unpackable (.expirationAfter last 30))))
    ∧ ∃ fault, Transaction.ofSettings s "é" last = .error (.blockId "é" fault) := by
  intro s id head last
  have hbytes : Hex.decode id = .ok [0, 7, 0, 100, 255, 255, 255, 255, 57, 48, 0, 0, 171, 171,
      171, 171, 171, 171, 171, 171, 171, 171, 171, 171, 171, 171, 171, 171, 171, 171, 171,
      171] := by decide +kernel
  have hid : Digest.IsText id :=
    Digest.exists_parse_iff_isText.mp (Digest.exists_parse_iff.mpr ⟨_, hbytes, rfl⟩)
  obtain ⟨hiff, -, -, hbuilt⟩ := ofSettings_outcome s id head
  obtain ⟨t, ht⟩ := hiff.mpr ⟨hid, by decide⟩
  obtain ⟨hfrom, hpacks, htake, -⟩ := hbuilt t ht
  obtain ⟨data, hdata⟩ := hpacks.mpr (by decide)
  obtain ⟨bytes, hdecode, -, hnum, hprefix⟩ := hfrom.block
  rw [hbytes, Except.ok.injEq] at hdecode
  rw [← hdecode] at hnum hprefix
  refine ⟨⟨t, data, ht, hfrom.seconds, hfrom.nanos, UInt16.toNat_inj.mp hnum,
    UInt32.toNat_inj.mp hprefix, hfrom.maxCpuUsageMs, hdata,
    (htake data hdata).trans (by decide)⟩, ?_, ?_⟩
  · exact (ofSettings_outcome s id last).2.2.1 hid (by decide)
  · exact (ofSettings_outcome s "é" last).2.1 (by decide +kernel)

end TxWire
