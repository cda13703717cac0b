import TxWire.Proofs.Hex
import TxWire.Proofs.Json.Text
import TxWire.Proofs.Time.TimePoint

/-!
What decoders take out of values that were written.

* `Decoder.Reads`: a decoder takes something out of the tree of a value. The lemmas `reads_…` say
  so of strings, hexadecimal text, instants, numbers, lists, names and fields.
* `Passes`: what a pass over the members of an object does with some of them. `Passes.append` puts
  two rows of members together, `Record.passes_field` and `Record.passes_skip` add a member.
* `Record.reads_object`: a record is taken out of an object whose members complete the draft.
-/

namespace TxWire.Json

variable {α σ : Type}

/-- A decoder takes something out of the tree of a value. -/
def Decoder.Reads (decoder : Decoder α) (value : Value) (x : α) : Prop :=
  decoder value.node = .ok x

/-! ### Single values -/

lemma reads_string (s : String) : string.Reads (.string s) s := by
  rw [Decoder.Reads, Value.node]
  rfl

lemma reads_hex (bytes : List UInt8) : hex.Reads (.string (Hex.encode bytes)) bytes := by
  rw [Decoder.Reads, Value.node, hex]
  show ofData ((Hex.decode (Hex.encode bytes)).mapError .notHex) = _
  rw [Hex.decode_encode]
  rfl

/-- All that is left of an instant on the way through its text is the second that it shows. -/
lemma reads_instant (t : Instant) : instant.Reads (.string t.timePoint) t.asShown := by
  rw [Decoder.Reads, instant, reads_string]
  dsimp only [bind, Except.bind]
  rw [TimePoint.parse_timePoint]
  rfl

lemma reads_below {limit n : ℕ} (expected : String) (hn : n < limit)
    (hlimit : limit ≤ UInt64.size) : (below limit expected).Reads (.number n) n := by
  have hbelow : Decode.below limit expected n = .ok n := by
    rw [Decode.below, if_pos ⟨by omega, by omega⟩, Int.toNat_natCast]
  rw [Decoder.Reads, Value.node, below, content_numberToken (hn.trans_le hlimit)]
  show ofData (Decode.below limit expected n) = _
  rw [hbelow]
  rfl

/-- Numbers of a fixed width are made from what is below their limit. -/
lemma reads_map_below {limit n : ℕ} {expected : String} {ofNat : ℕ → α} {x : α} (hn : n < limit)
    (hlimit : limit ≤ UInt64.size) (hx : ofNat n = x) :
    Decoder.Reads (fun node => ofNat <$> below limit expected node) (.number n) x := by
  rw [Decoder.Reads, reads_below expected hn hlimit, ← hx]
  rfl

lemma reads_u8 (n : UInt8) : u8.Reads (.number n.toNat) n :=
  reads_map_below n.toNat_lt (by decide) UInt8.ofNat_toNat

lemma reads_u16 (n : UInt16) : u16.Reads (.number n.toNat) n :=
  reads_map_below n.toNat_lt (by decide) UInt16.ofNat_toNat

lemma reads_u32 (n : UInt32) : u32.Reads (.number n.toNat) n :=
  reads_map_below n.toNat_lt (by decide) UInt32.ofNat_toNat

lemma reads_named {ofName? : String → Option α} {known : List String} {name : String} {x : α}
    (h : ofName? name = some x) : (named ofName? known).Reads (.string name) x := by
  rw [Decoder.Reads, Value.node, named]
  show ofData (Decode.named ofName? known name) = _
  rw [Decode.named, h]
  rfl

/-! ### Lists -/

section Lists

variable {item : Decoder α} {toValue : α → Value}

/-- A list is read item by item. -/
lemma reads_list (h : ∀ x, item.Reads (toValue x) x) (xs : List α) :
    (list item).Reads (.array (xs.map toValue)) xs := by
  have hitems : (itemNodes (xs.map toValue)).mapM item = .ok xs := by
    induction xs with
    | nil => rfl
    | cons x xs ih =>
        rw [List.map_cons, itemNodes, List.mapM_cons, h x, ih]
        rfl
  rw [Decoder.Reads, Value.node, list, hitems]
  rfl

lemma reads_optional_list (h : ∀ x, item.Reads (toValue x) x) (xs : List α) :
    (optional (list item)).Reads (.array (xs.map toValue)) (some xs) := by
  have hlist := reads_list h xs
  rw [Decoder.Reads, Value.node] at hlist ⊢
  show some <$> list item _ = _
  rw [hlist]
  rfl

end Lists

/-! ### Records -/

/-- A pass over the members of an object gets from one state to another with some of them, whatever
comes after them. -/
def Passes {τ : Type} (pass : σ → List (Token String × Node) → Except Failure τ) (start : σ)
    (members : List (String × Value)) (final : σ) : Prop :=
  ∀ rest, pass start (memberNodes members ++ rest) = pass final rest

namespace Passes

variable {τ : Type} {pass : σ → List (Token String × Node) → Except Failure τ}
  {start next final : σ} {members more : List (String × Value)}

lemma nil : Passes pass start [] start := by
  intro rest
  rw [memberNodes, List.nil_append]

lemma append (hmembers : Passes pass start members next) (hmore : Passes pass next more final) :
    Passes pass start (members ++ more) final := by
  intro rest
  rw [memberNodes_append, List.append_assoc, hmembers, hmore]

end Passes

/-- A field that was not met before is put into the draft. -/
lemma reads_field {decoder : Decoder α} {value : Value} {x : α} (h : decoder.Reads value x)
    (name : String) (put : α → σ) : (field name none decoder put).Reads value (put x) := by
  rw [Decoder.Reads, field, h]
  rfl

namespace Record

variable {r : Record σ α} {draft final : σ} {members : List (String × Value)} {key : String}
  {value : Value}

/-- A field that was not met before is taken in. -/
lemma passes_field {β : Type} {decoder : Decoder β} {put : β → σ} {x : β}
    (hfield : r.field? draft key = some (field key none decoder put))
    (hread : decoder.Reads value x) (hmembers : Passes r.members (put x) members final) :
    Passes r.members draft ((key, value) :: members) final := by
  intro rest
  rw [memberNodes, List.cons_append, Record.members, ← hmembers rest]
  dsimp only [stringToken, ofText, Except.mapError, bind, Except.bind]
  rw [hfield]
  dsimp only
  rw [reads_field hread]

/-- A member that is no field is skipped. -/
lemma passes_skip (hfield : r.field? draft key = none)
    (hmembers : Passes r.members draft members final) :
    Passes r.members draft ((key, value) :: members) final := by
  intro rest
  rw [memberNodes, List.cons_append, Record.members, ← hmembers rest]
  dsimp only [stringToken, ofText, Except.mapError, bind, Except.bind]
  rw [hfield, value.skip_node]

/-- A record is taken out of an object whose members complete its draft. -/
lemma reads_object {x : α} (hmembers : Passes r.members r.draft members final)
    (hfinish : r.finish final = .ok x) : r.decode.Reads (.object members) x := by
  have hall := hmembers []
  rw [List.append_nil] at hall
  rw [Decoder.Reads, Value.node, decode, hall]
  show ofData (r.finish final) = _
  rw [hfinish]
  rfl

end Record

end TxWire.Json
