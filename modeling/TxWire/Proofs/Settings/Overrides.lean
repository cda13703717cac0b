import TxWire.Proofs.Settings.Toml

/-!
Documents that give some of the settings, in any order and among entries that mean nothing here.

* `NumberField`: the settings that are numbers, as one family with a bound each.
  `Draft.takeIn_number` says what is taken in of all of them.
* `Line`, `Document`: what such a document says, line by line. Every key is given once.
* `Draft.Records`: the draft holds what the lines say, and nothing else. `Draft.Records.takeIn` says
  so of one more line, `Draft.exists_records` of all lines.
* `Overrides`: the settings that a document stands for. They do not depend on the order of its
  lines, since they are told by its lines alone.
* `partial_document`: what reading such a document comes to.
-/

namespace TxWire

open Toml (Row BareKey Plain Fits64 IsDocument)

namespace Settings

/-! ### Settings that are numbers -/

/-- The settings that are numbers. -/
inductive NumberField
  | expirationSeconds
  | maxNetUsageWords
  | maxCpuUsageMs
  | delaySec
  deriving DecidableEq

namespace NumberField

/-- The key that stands for a number. -/
def key : NumberField → String
  | expirationSeconds => "expiration_seconds"
  | maxNetUsageWords => "max_net_usage_words"
  | maxCpuUsageMs => "max_cpu_usage_ms"
  | delaySec => "delay_sec"

lemma bareKey_key (field : NumberField) : BareKey field.key := by
  cases field <;> decide

/-- The first number that is too large. -/
def limit : NumberField → ℕ
  | maxCpuUsageMs => UInt8.size
  | _ => UInt32.size

/-- What messages call the numbers below the limit. -/
def expected : NumberField → String
  | maxCpuUsageMs => "u8"
  | _ => "u32"

/-- The number in settings. -/
def of (field : NumberField) (s : Settings) : ℤ :=
  match field with
  | expirationSeconds => s.expirationSeconds.toNat
  | maxNetUsageWords => s.maxNetUsageWords.toNat
  | maxCpuUsageMs => s.maxCpuUsageMs.toNat
  | delaySec => s.delaySec.toNat

/-- The number in a draft, if it has been met. -/
def inDraft (field : NumberField) (d : Draft) : Option ℤ :=
  match field with
  | expirationSeconds => d.expirationSeconds.map fun n => n.toNat
  | maxNetUsageWords => d.maxNetUsageWords.map fun n => n.toNat
  | maxCpuUsageMs => d.maxCpuUsageMs.map fun n => n.toNat
  | delaySec => d.delaySec.map fun n => n.toNat

/-- Puts a number into a draft. -/
def put (field : NumberField) (d : Draft) (n : ℕ) : Draft :=
  match field with
  | expirationSeconds => { d with expirationSeconds := some (UInt32.ofNat n) }
  | maxNetUsageWords => { d with maxNetUsageWords := some (UInt32.ofNat n) }
  | maxCpuUsageMs => { d with maxCpuUsageMs := some (UInt8.ofNat n) }
  | delaySec => { d with delaySec := some (UInt32.ofNat n) }

variable {field other : NumberField} {n : ℕ}

@[simp] lemma network_put (field : NumberField) (d : Draft) (n : ℕ) :
    (field.put d n).network = d.network := by
  cases field <;> rfl

@[simp] lemma chainId_put (field : NumberField) (d : Draft) (n : ℕ) :
    (field.put d n).chainId = d.chainId := by
  cases field <;> rfl

/-- A number below the limit is kept as it is. -/
lemma inDraft_put (d : Draft) (h : n < field.limit) : field.inDraft (field.put d n) = some ↑n := by
  have hu32 (hn : n < UInt32.size) : (UInt32.ofNat n).toNat = n := Nat.mod_eq_of_lt hn
  have hu8 (hn : n < UInt8.size) : (UInt8.ofNat n).toNat = n := Nat.mod_eq_of_lt hn
  cases field with
  | maxCpuUsageMs => simp [inDraft, put, hu8 h]
  | expirationSeconds | maxNetUsageWords | delaySec => simp [inDraft, put, hu32 h]

lemma inDraft_put_of_ne (d : Draft) (h : other ≠ field) :
    other.inDraft (field.put d n) = other.inDraft d := by
  cases field <;> cases other <;> first | rfl | exact absurd rfl h

@[simp] lemma inDraft_network (d : Draft) (x : Option Network) :
    field.inDraft { d with network := x } = field.inDraft d := by
  cases field <;> rfl

@[simp] lemma inDraft_chainId (d : Draft) (x : Option (Option String)) :
    field.inDraft { d with chainId := x } = field.inDraft d := by
  cases field <;> rfl

lemma of_complete (field : NumberField) (d : Draft) :
    field.of d.complete = (field.inDraft d).getD (field.of {}) := by
  cases field <;> simp only [of, inDraft, Draft.complete, Option.getD_map]

/-- 64 bits with sign hold every number below a limit. -/
lemma limit_le (field : NumberField) : (field.limit : ℤ) ≤ Toml.integerBound := by
  cases field <;> decide

end NumberField

/-- Settings are told by their fields. -/
lemma eq_of_fields {s s' : Settings} (hnetwork : s.network = s'.network)
    (hchainId : s.chainId = s'.chainId)
    (hnumbers : ∀ field : NumberField, field.of s = field.of s') : s = s' := by
  have hexpiration := hnumbers .expirationSeconds
  have hnet := hnumbers .maxNetUsageWords
  have hcpu := hnumbers .maxCpuUsageMs
  have hdelay := hnumbers .delaySec
  simp only [NumberField.of, Int.natCast_inj, UInt32.toNat_inj, UInt8.toNat_inj]
    at hexpiration hnet hcpu hdelay
  cases s
  cases s'
  simp_all

/-- A number is taken in if it is not negative and below the limit of its field. -/
lemma Draft.takeIn_number (d : Draft) (field : NumberField) (n : ℤ) :
    d.takeIn field.key (.integer n)
      = (Decode.below field.limit field.expected n).map (field.put d) := by
  cases field with
  | maxCpuUsageMs =>
      show (UInt8.ofNat <$> Decode.below UInt8.size "u8" n).bind _ = _
      cases h : Decode.below UInt8.size "u8" n <;>
        simp [NumberField.limit, NumberField.expected, h] <;> rfl
  | expirationSeconds | maxNetUsageWords | delaySec =>
      show (UInt32.ofNat <$> Decode.below UInt32.size "u32" n).bind _ = _
      cases h : Decode.below UInt32.size "u32" n <;>
        simp [NumberField.limit, NumberField.expected, h] <;> rfl

/-! ### Lines -/

/-- The keys of settings. -/
def keys : List String :=
  ["network", "chain_id", "expiration_seconds", "max_net_usage_words", "max_cpu_usage_ms",
    "delay_sec"]

/-- A line of a document. -/
inductive Line
  | network (network : Network)
  | chainId (text : String)
  | number (field : NumberField) (n : ℤ)
  /-- An entry that is no setting. -/
  | other (key : String) (n : ℤ)
  deriving DecidableEq

namespace Line

/-- What a line gives a value. -/
def key : Line → String
  | network _ => "network"
  | chainId _ => "chain_id"
  | number field _ => field.key
  | other key _ => key

/-- The value as it is written: a name or a chain id between double quotes, or a whole number. -/
def value : Line → String
  | network net => "\"" ++ net.name ++ "\""
  | chainId text => "\"" ++ text ++ "\""
  | number _ n => toString n
  | other _ n => toString n

/-- A line without its break. -/
def text (line : Line) : String := line.key ++ " = " ++ line.value

/-- A chain id can stand between the quotes as it is, and the key of an entry that is no setting
needs no quotes and is none of the keys of settings. -/
def Proper : Line → Prop
  | chainId text => Plain text
  | other key _ => BareKey key ∧ key ∉ keys
  | _ => True

instance : DecidablePred Proper
  | chainId text => inferInstanceAs (Decidable (Plain text))
  | other key _ => inferInstanceAs (Decidable (BareKey key ∧ key ∉ keys))
  | network _ => inferInstanceAs (Decidable True)
  | number _ _ => inferInstanceAs (Decidable True)

/-- The whole number in a line, if there is one. -/
def integer? : Line → Option ℤ
  | number _ n => some n
  | other _ n => some n
  | _ => none

/-- 64 bits with sign hold the number in a line. -/
def InRange (line : Line) : Prop := ∀ n ∈ line.integer?, Fits64 n

/-- A number has room where it is meant for. -/
def Fits : Line → Prop
  | number field n => 0 ≤ n ∧ n < field.limit
  | other _ n => Fits64 n
  | _ => True

instance : DecidablePred Fits
  | number field n => inferInstanceAs (Decidable (0 ≤ n ∧ n < field.limit))
  | other _ n => inferInstanceAs (Decidable (Fits64 n))
  | network _ => inferInstanceAs (Decidable True)
  | chainId _ => inferInstanceAs (Decidable True)

/-- A line as it is read. -/
def row : Line → Row
  | network net => .ofPlain "network" net.name
  | chainId text => .ofPlain "chain_id" text
  | number field n => .ofInt field.key n
  | other key n => .ofInt key n

variable {line : Line}

lemma key_row (line : Line) : line.row.key = line.key := by
  cases line <;> rfl

lemma toList_text (line : Line) : line.text.toList = line.row.content := by
  cases line <;>
    simp [text, key, value, row, Row.content, Row.ofPlain, Row.ofInt, String.toList_append]

lemma Fits.inRange (h : line.Fits) : line.InRange := by
  cases line with
  | network | chainId => simp [InRange, integer?]
  | other key n => simpa [InRange, integer?, Fits] using h
  | number field n =>
      obtain ⟨hlow, hhigh⟩ := h
      have hlimit := field.limit_le
      have hbound : (0 : ℤ) ≤ Toml.integerBound := by decide
      simp only [InRange, integer?, Option.mem_some_iff, forall_eq']
      exact ⟨by omega, by omega⟩

lemma bareKey (h : line.Proper) : BareKey line.key := by
  cases line with
  | network net => exact (by decide : BareKey "network")
  | chainId text => exact (by decide : BareKey "chain_id")
  | number field n => exact field.bareKey_key
  | other key n => exact h.1

lemma sound_row (h : line.Proper) (hrange : line.InRange) : line.row.Sound := by
  have hkey := bareKey h
  cases line with
  | network net => exact Row.sound_ofPlain hkey (by cases net <;> decide)
  | chainId text => exact Row.sound_ofPlain hkey h
  | number field n => exact Row.sound_ofInt hkey (hrange n rfl)
  | other key n => exact Row.sound_ofInt hkey (hrange n rfl)

lemma refused_row (h : line.Proper) (hrange : ¬ line.InRange) : line.row.Refused := by
  have hkey := bareKey h
  cases line with
  | network | chainId => exact absurd (by simp [InRange, integer?]) hrange
  | number field n => exact Row.refused_ofInt hkey (by simpa [InRange, integer?] using hrange)
  | other key n => exact Row.refused_ofInt hkey (by simpa [InRange, integer?] using hrange)

end Line

/-! ### What is read of the lines -/

namespace Draft

variable {d : Draft} {lines : List Line} {line : Line}

/-- What has been read is what some lines say. -/
structure Records (lines : List Line) (d : Draft) : Prop where
  network (x : Network) : d.network = some x ↔ .network x ∈ lines
  chainId (x : Option String) : d.chainId = some x ↔ ∃ text, x = some text ∧ .chainId text ∈ lines
  number (field : NumberField) (n : ℤ) : field.inDraft d = some n ↔ .number field n ∈ lines

lemma records_nil : Records [] {} where
  network x := by simp
  chainId x := by simp
  number field n := by cases field <;> simp [NumberField.inDraft]

/-- An entry that is no setting is passed over. -/
lemma takeIn_of_not_mem {key : String} (h : key ∉ keys) (d : Draft) (item : Toml.Item) :
    d.takeIn key item = .ok d := by
  simp only [keys, List.mem_cons, List.not_mem_nil, or_false, not_or] at h
  obtain ⟨hnetwork, hchainId, hexpiration, hnet, hcpu, hdelay⟩ := h
  rw [takeIn] <;> assumption

lemma below_of_fits {field : NumberField} {n : ℤ} (h : (Line.number field n).Fits) :
    Decode.below field.limit field.expected n = .ok n.toNat := if_pos h

lemma below_of_not_fits {field : NumberField} {n : ℤ} (h : ¬ (Line.number field n).Fits) :
    Decode.below field.limit field.expected n = .error (.outOfRange n field.expected) := if_neg h

/-- One more line with a new key is taken in as it is. -/
lemma Records.takeIn (h : Records lines d) (hproper : line.Proper) (hfits : line.Fits)
    (hnew : line.key ∉ lines.map Line.key) :
    ∃ d', d.takeIn line.key line.row.item = .ok d' ∧ Records (lines ++ [line]) d' := by
  -- no earlier line gives this key, so that the draft has nothing for it yet
  have hother : ∀ earlier ∈ lines, earlier.key ≠ line.key := fun earlier hmem heq =>
    hnew (heq ▸ List.mem_map_of_mem hmem)
  cases line with
  | network x =>
      have hread : d.takeIn "network" (.string x.name) = .ok { d with network := some x } := by
        rw [Draft.takeIn, named_name]
        rfl
      have hnone : ∀ y, .network y ∉ lines := fun y hmem => hother _ hmem rfl
      refine ⟨_, hread, fun y => ?_, fun y => ?_, fun field n => ?_⟩
      · simp [hnone, eq_comm]
      · simpa using h.chainId y
      · simpa using h.number field n
  | chainId text =>
      have hread : d.takeIn "chain_id" (.string text)
          = .ok { d with chainId := some (some text) } := rfl
      have hnone : ∀ text, .chainId text ∉ lines := fun text hmem => hother _ hmem rfl
      refine ⟨_, hread, fun y => ?_, fun y => ?_, fun field n => ?_⟩
      · simpa using h.network y
      · simp [hnone, eq_comm]
      · simpa using h.number field n
  | number field n =>
      have hread : d.takeIn field.key (.integer n) = .ok (field.put d n.toNat) := by
        rw [takeIn_number, below_of_fits hfits]
        rfl
      have hnone : ∀ m, .number field m ∉ lines := fun m hmem => hother _ hmem rfl
      refine ⟨_, hread, fun y => ?_, fun y => ?_, fun other m => ?_⟩
      · simpa using h.network y
      · simpa using h.chainId y
      · obtain ⟨hlow, hhigh⟩ := hfits
        by_cases hfield : other = field
        · rw [hfield, NumberField.inDraft_put d (by omega), Int.toNat_of_nonneg hlow]
          simp [hnone, eq_comm]
        · rw [NumberField.inDraft_put_of_ne d hfield, h.number other m]
          simp [hfield]
  | other key n =>
      refine ⟨d, takeIn_of_not_mem hproper.2 d _, fun y => ?_, fun y => ?_, fun field m => ?_⟩
      · simpa using h.network y
      · simpa using h.chainId y
      · simpa using h.number field m

/-- Takes in lines one after the other. -/
def ofLines (lines : List Line) : Except Decode.Error Draft :=
  lines.foldlM (fun (d : Draft) line => d.takeIn line.key line.row.item) {}

lemma ofLines_append (lines later : List Line) : ofLines (lines ++ later)
    = (ofLines lines).bind fun d =>
      later.foldlM (fun (d : Draft) line => d.takeIn line.key line.row.item) d :=
  List.foldlM_append

/-- All lines are taken in, as long as their numbers fit. -/
lemma exists_records (hproper : ∀ line ∈ lines, line.Proper) (hfits : ∀ line ∈ lines, line.Fits)
    (honce : (lines.map Line.key).Nodup) :
    ∃ d, ofLines lines = .ok d ∧ Records lines d := by
  induction lines using List.reverseRecOn with
  | nil => exact ⟨{}, rfl, records_nil⟩
  | append_singleton lines line ih =>
      rw [List.map_append, List.map_singleton, List.nodup_append'] at honce
      obtain ⟨honce, -, hdisjoint⟩ := honce
      have hnew : line.key ∉ lines.map Line.key := fun hmem =>
        hdisjoint hmem (List.mem_singleton_self line.key)
      obtain ⟨d, hd, hrecords⟩ := ih (fun line hmem => hproper line (by simp [hmem]))
        (fun line hmem => hfits line (by simp [hmem])) honce
      obtain ⟨d', hd', hrecords'⟩ :=
        hrecords.takeIn (hproper line (by simp)) (hfits line (by simp)) hnew
      refine ⟨d', ?_, hrecords'⟩
      rw [ofLines_append, hd]
      show (d.takeIn line.key line.row.item).bind pure = _
      rw [hd']
      rfl

/-- Lines are taken in up to the first number that does not fit, which is reported. -/
lemma ofLines_of_not_fits {before later : List Line} {field : NumberField} {n : ℤ}
    (hproper : ∀ line ∈ before, line.Proper) (hfits : ∀ line ∈ before, line.Fits)
    (honce : (before.map Line.key).Nodup) (hnot : ¬ (Line.number field n).Fits) :
    ofLines (before ++ .number field n :: later) = .error (.outOfRange n field.expected) := by
  obtain ⟨d, hd, -⟩ := exists_records hproper hfits honce
  rw [ofLines_append, hd]
  show (d.takeIn field.key (.integer n)).bind _ = _
  rw [takeIn_number, below_of_not_fits hnot]
  rfl

end Draft

/-- The entries of lines are taken in line by line. -/
lemma ofEntries_lines (lines : List Line) : ofEntries ((lines.map Line.row).map Row.entry)
    = (Draft.ofLines lines).map Draft.complete := by
  have hstep : (fun (d : Draft) (line : Line) => d.takeIn line.row.entry.1 line.row.entry.2)
      = fun d line => d.takeIn line.key line.row.item := by
    funext d line
    rw [Row.entry, line.key_row]
  rw [ofEntries, List.map_map, List.foldlM_map]
  show (lines.foldlM (fun (d : Draft) line => d.takeIn line.row.entry.1 line.row.entry.2) {}).bind _
    = _
  rw [hstep, Draft.ofLines]
  cases lines.foldlM (fun (d : Draft) line => d.takeIn line.key line.row.item) {} <;> rfl

/-! ### The settings that lines stand for -/

/-- The settings that some lines stand for: the defaults, but for what the lines give. -/
structure Overrides (lines : List Line) (s : Settings) : Prop where
  network (x : Network) : .network x ∈ lines → s.network = x
  chainId (text : String) : .chainId text ∈ lines → s.chainId = some text
  number (field : NumberField) (n : ℤ) : .number field n ∈ lines → field.of s = n
  networkElse : (∀ x, .network x ∉ lines) → s.network = ({} : Settings).network
  chainIdElse : (∀ text, .chainId text ∉ lines) → s.chainId = ({} : Settings).chainId
  numberElse (field : NumberField) : (∀ n, .number field n ∉ lines) → field.of s = field.of {}

section Overrides

variable {lines lines' : List Line} {s s' : Settings} {d : Draft}

lemma overrides_complete (h : d.Records lines) : Overrides lines d.complete where
  network x hx := by simp [Draft.complete, (h.network x).mpr hx]
  chainId text htext := by simp [Draft.complete, (h.chainId _).mpr ⟨text, rfl, htext⟩]
  number field n hn := by simp [NumberField.of_complete, (h.number field n).mpr hn]
  networkElse hnone := by
    have hnetwork : d.network = none := Option.eq_none_iff_forall_ne_some.mpr fun x hx =>
      hnone x ((h.network x).mp hx)
    simp [Draft.complete, hnetwork]
  chainIdElse hnone := by
    have hchainId : d.chainId = none := Option.eq_none_iff_forall_ne_some.mpr fun x hx => by
      obtain ⟨text, -, htext⟩ := (h.chainId x).mp hx
      exact hnone text htext
    simp [Draft.complete, hchainId]
  numberElse field hnone := by
    have hnumber : field.inDraft d = none := Option.eq_none_iff_forall_ne_some.mpr fun n hn =>
      hnone n ((h.number field n).mp hn)
    rw [NumberField.of_complete, hnumber, Option.getD_none]

/-- Lines leave no choice of settings. -/
lemma Overrides.unique (h : Overrides lines s) (h' : Overrides lines s') : s = s' := by
  refine eq_of_fields ?_ ?_ fun field => ?_
  · by_cases hgiven : ∃ x, .network x ∈ lines
    · obtain ⟨x, hx⟩ := hgiven
      rw [h.network x hx, h'.network x hx]
    · have hnone := not_exists.mp hgiven
      rw [h.networkElse hnone, h'.networkElse hnone]
  · by_cases hgiven : ∃ text, .chainId text ∈ lines
    · obtain ⟨text, htext⟩ := hgiven
      rw [h.chainId text htext, h'.chainId text htext]
    · have hnone := not_exists.mp hgiven
      rw [h.chainIdElse hnone, h'.chainIdElse hnone]
  · by_cases hgiven : ∃ n, .number field n ∈ lines
    · obtain ⟨n, hn⟩ := hgiven
      rw [h.number field n hn, h'.number field n hn]
    · have hnone := not_exists.mp hgiven
      rw [h.numberElse field hnone, h'.numberElse field hnone]

/-- The order of lines does not matter. -/
lemma Overrides.perm (h : Overrides lines s) (hperm : lines.Perm lines') : Overrides lines' s where
  network x hx := h.network x (hperm.mem_iff.mpr hx)
  chainId text htext := h.chainId text (hperm.mem_iff.mpr htext)
  number field n hn := h.number field n (hperm.mem_iff.mpr hn)
  networkElse hnone := h.networkElse fun x hx => hnone x (hperm.mem_iff.mp hx)
  chainIdElse hnone := h.chainIdElse fun text htext => hnone text (hperm.mem_iff.mp htext)
  numberElse field hnone := h.numberElse field fun n hn => hnone n (hperm.mem_iff.mp hn)

end Overrides

/-! ### Documents -/

/-- A document of lines, of which no two have the same key. -/
structure Document where
  lines : List Line
  proper : ∀ line ∈ lines, line.Proper
  once : (lines.map Line.key).Nodup

namespace Document

/-- A text is that of a document: its lines, each with a break. The last break may be missing. -/
def IsText (document : Document) (text : String) : Prop :=
  let lines := String.join (document.lines.map fun line => line.text ++ "\n")
  text = lines ∨ text ++ "\n" = lines

/-- Why a document is refused: if 64 bits with sign do not hold one of its numbers, it is not TOML
at all, and else the first number that does not fit is reported. -/
inductive Misfit (document : Document) : SettingsError → Prop
  | notToml {line : Line} : line ∈ document.lines → ¬ line.InRange → Misfit document .notToml
  | unfit {before later : List Line} {field : NumberField} {n : ℤ} :
      (∀ line ∈ document.lines, line.InRange) →
      document.lines = before ++ .number field n :: later → (∀ line ∈ before, line.Fits) →
      ¬ (Line.number field n).Fits → Misfit document (.unfit (.outOfRange n field.expected))

variable {document : Document} {text : String}

lemma IsText.isDocument (h : document.IsText text) :
    IsDocument (document.lines.map Line.row) text.toList := by
  have hlines : (String.join (document.lines.map fun line => line.text ++ "\n")).toList
      = (document.lines.map Line.row).flatMap Row.line := by
    rw [String.toList_join, List.flatMap_map, List.flatMap_map]
    refine List.flatMap_congr fun line _ => ?_
    rw [String.toList_append, line.toList_text]
    rfl
  rw [IsDocument, ← hlines]
  refine Or.imp (congrArg String.toList) (fun h => ?_) h
  rw [← h, String.toList_append]
  rfl

lemma nodup_keys (document : Document) :
    ((document.lines.map Line.row).map Row.key).Nodup := by
  have hkeys : Row.key ∘ Line.row = Line.key := funext Line.key_row
  rw [List.map_map, hkeys]
  exact document.once

/-- With all numbers in range, what is read are the lines. -/
lemma IsText.parse?_eq (h : document.IsText text) (hrange : ∀ line ∈ document.lines, line.InRange) :
    Toml.parse? text = some ((document.lines.map Line.row).map Row.entry) := by
  have hsound : ∀ row ∈ document.lines.map Line.row, row.Sound := by
    intro row hrow
    obtain ⟨line, hline, rfl⟩ := List.mem_map.mp hrow
    exact Line.sound_row (document.proper line hline) (hrange line hline)
  rw [← String.ofList_toList (s := text), h.isDocument.parse?_of_sound hsound document.nodup_keys]

/-- A number out of range is no TOML. -/
lemma IsText.parse?_eq_none (h : document.IsText text) {line : Line} (hline : line ∈ document.lines)
    (hrange : ¬ line.InRange) : Toml.parse? text = none := by
  have hrows : ∀ row ∈ document.lines.map Line.row, row.Sound ∨ row.Refused := by
    intro row hrow
    obtain ⟨line, hline, rfl⟩ := List.mem_map.mp hrow
    have hproper := document.proper line hline
    by_cases hline : line.InRange
    · exact .inl (Line.sound_row hproper hline)
    · exact .inr (Line.refused_row hproper hline)
  have hrefused := Line.refused_row (document.proper line hline) hrange
  rw [← String.ofList_toList (s := text), h.isDocument.parse?_of_refused hrows
    ⟨line.row, List.mem_map_of_mem hline, hrefused⟩ document.nodup_keys]

/-- A document with a number that does not fit is refused. -/
lemma IsText.exists_misfit (h : document.IsText text)
    (hnot : ∃ line ∈ document.lines, ¬ line.Fits) :
    ∃ e, (ofToml text).value = .error e ∧ document.Misfit e := by
  rw [ofToml]
  by_cases hrange : ∀ line ∈ document.lines, line.InRange
  · -- the document is TOML, so what is wrong is a setting
    obtain ⟨before, bad, later, hsplit, hbefore, hbad⟩ := Toml.exists_first_not hnot
    have hproper := document.proper
    have honce := document.once
    rw [hsplit, List.map_append, List.nodup_append'] at honce
    rw [h.parse?_eq hrange]
    dsimp only
    have hrangeBad : bad.InRange := hrange bad (by rw [hsplit]; simp)
    cases bad with
    | network | chainId => exact absurd trivial hbad
    | other key n => exact absurd (hrangeBad n rfl) hbad
    | number field n =>
        have hread : ofEntries ((document.lines.map Line.row).map Row.entry)
            = .error (.outOfRange n field.expected) := by
          rw [ofEntries_lines, hsplit, Draft.ofLines_of_not_fits
            (fun line hline => hproper line (by rw [hsplit]; simp [hline])) hbefore honce.1 hbad]
          rfl
        rw [hread]
        exact ⟨_, rfl, .unfit hrange hsplit hbefore hbad⟩
  · push Not at hrange
    obtain ⟨line, hline, hout⟩ := hrange
    rw [h.parse?_eq_none hline hout]
    exact ⟨_, rfl, .notToml hline hout⟩

/-- A document whose numbers fit is read as the settings that it stands for, if they are valid. -/
lemma IsText.exists_settings (h : document.IsText text)
    (hfits : ∀ line ∈ document.lines, line.Fits) :
    ∃ s, Overrides document.lines s ∧ (ofToml text).value = match s.validate with
      | .ok () => .ok s
      | .error fault => .error (.invalid fault) := by
  obtain ⟨d, hd, hrecords⟩ := Draft.exists_records document.proper hfits document.once
  refine ⟨d.complete, overrides_complete hrecords, ?_⟩
  have hread : ofEntries ((document.lines.map Line.row).map Row.entry) = .ok d.complete := by
    rw [ofEntries_lines, hd]
    rfl
  rw [ofToml, h.parse?_eq fun line hline => (hfits line hline).inRange]
  dsimp only
  rw [hread]
  dsimp only
  cases d.complete.validate with
  | ok u => rfl
  | error fault => rfl

end Document

end Settings

/-- A text was not parsed, be it that it is not TOML or that it does not fit settings. -/
def SettingsError.IsUnparsed : SettingsError → Prop
  | .notToml | .unfit _ => True
  | _ => False

/-- Answers are the same, whatever it is that keeps a text from being parsed. -/
def Settings.SameAnswer (answer other : Except SettingsError Settings) : Prop :=
  answer = other ∨ ∃ e e', answer = .error e ∧ other = .error e' ∧ e.IsUnparsed ∧ e'.IsUnparsed

lemma Settings.Document.Misfit.isUnparsed {document : Settings.Document} {e : SettingsError}
    (h : document.Misfit e) : e.IsUnparsed := by
  cases h <;> exact trivial

/-- **A document gives some of the settings**, in any order and among entries that are none. If one
of its numbers is out of bounds, the document does not parse. Otherwise it is read as the defaults
with what it gives in their place, number for number, or refused for what makes these settings
invalid. The order of its lines makes no difference, except that of several numbers out of bounds
the first is reported. -/
theorem partial_document (document : Settings.Document) (text : String)
    (htext : document.IsText text) :
    let answer := (Settings.ofToml text).value
    ((∃ line ∈ document.lines, ¬ line.Fits) →
      ∃ e, answer = .error e ∧ e.IsUnparsed ∧ document.Misfit e)
    ∧ ((∀ line ∈ document.lines, line.Fits) → ∃ s : Settings,
      (∀ s', Settings.Overrides document.lines s' ↔ s' = s)
      ∧ answer = match s.validate with
        | .ok () => .ok s
        | .error fault => .error (.invalid fault))
    ∧ ∀ (other : Settings.Document) (otherText : String), other.lines.Perm document.lines →
      other.IsText otherText → Settings.SameAnswer (Settings.ofToml otherText).value answer := by
  refine ⟨fun hnot => ?_, fun hfits => ?_, fun other otherText hperm hother => ?_⟩
  · obtain ⟨e, he, hmisfit⟩ := htext.exists_misfit hnot
    exact ⟨e, he, hmisfit.isUnparsed, hmisfit⟩
  · obtain ⟨s, hs, hanswer⟩ := htext.exists_settings hfits
    refine ⟨s, fun s' => ⟨fun hs' => hs'.unique hs, ?_⟩, hanswer⟩
    rintro rfl
    exact hs
  · by_cases hfits : ∀ line ∈ document.lines, line.Fits
    · obtain ⟨s, hs, hanswer⟩ := htext.exists_settings hfits
      obtain ⟨s', hs', hanswer'⟩ := hother.exists_settings fun line hline =>
        hfits line (hperm.mem_iff.mp hline)
      rw [(hs'.perm hperm).unique hs] at hanswer'
      exact .inl (hanswer'.trans hanswer.symm)
    · push Not at hfits
      obtain ⟨line, hline, hnot⟩ := hfits
      obtain ⟨e, he, hmisfit⟩ := htext.exists_misfit ⟨line, hline, hnot⟩
      obtain ⟨e', he', hmisfit'⟩ := hother.exists_misfit ⟨line, hperm.mem_iff.mpr hline, hnot⟩
      exact .inr ⟨e', e, he', he, hmisfit'.isUnparsed, hmisfit.isUnparsed⟩

/-- Four lines with the last break missing, one of them no setting, and what they stand for in two
orders. A limit of 256 milliseconds of processor time does not parse, in whichever line it is. -/
theorem partial_document_reordered :
    let text := "delay_sec = 5\nx-1 = -7\nnetwork = \"testnet\"\nmax_cpu_usage_ms = 255"
    let reordered := "max_cpu_usage_ms = 255\nnetwork = \"testnet\"\nx-1 = -7\ndelay_sec = 5\n"
    let tooMuch := "max_cpu_usage_ms = 256\nnetwork = \"custom\""
    let s : Settings := { network := .testnet, maxCpuUsageMs := 255, delaySec := 5 }
    (Settings.ofToml text).value = .ok s ∧ (Settings.ofToml reordered).value = .ok s
    ∧ ∃ e, (Settings.ofToml tooMuch).value = .error e ∧ e.IsUnparsed := by
  intro text reordered tooMuch s
  let document : Settings.Document :=
    ⟨[.number .delaySec 5, .other "x-1" (-7), .network .testnet, .number .maxCpuUsageMs 255],
      by decide, by decide⟩
  let reversed : Settings.Document := ⟨document.lines.reverse, by decide, by decide⟩
  let unfit : Settings.Document :=
    ⟨[.number .maxCpuUsageMs 256, .network .custom], by decide, by decide⟩
  obtain ⟨-, hread, horder⟩ := partial_document document text (.inr (by decide +kernel))
  obtain ⟨hrefused, -⟩ := partial_document unfit tooMuch (.inr (by decide +kernel))
  obtain ⟨s', hs', hanswer⟩ := hread (by decide)
  have hs : s = s' := (hs' s).mp
    { network := by simp [document, s]
      chainId := by simp [document]
      number := by
        intro field n hn
        obtain ⟨rfl, rfl⟩ | ⟨rfl, rfl⟩ :
            field = .delaySec ∧ n = 5 ∨ field = .maxCpuUsageMs ∧ n = 255 := by
          simpa [document] using hn
        · rfl
        · rfl
      networkElse := by simp [document]
      chainIdElse := by simp [document, s]
      numberElse := by
        rintro (_ | _ | _ | _) hnone
        · rfl
        · rfl
        · exact absurd (by simp [document]) (hnone 255)
        · exact absurd (by simp [document]) (hnone 5) }
  have hvalid : s.validate = .ok () := by decide +kernel
  rw [← hs, hvalid] at hanswer
  have hreordered := horder reversed reordered (List.reverse_perm _) (.inl (by decide +kernel))
  refine ⟨hanswer, ?_, ?_⟩
  · rw [hanswer] at hreordered
    obtain hsame | ⟨e, e', -, he', -, -⟩ := hreordered
    · exact hsame
    · exact absurd he' nofun
  · obtain ⟨e, he, hunparsed, -⟩ := hrefused (by decide)
    exact ⟨e, he, hunparsed⟩

end TxWire
