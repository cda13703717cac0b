import TxWire.Proofs.Json.Skipping
import TxWire.Transaction.Json

/-!
A header among the members of its transaction is read like a header by itself.

* `Transaction.decodeSorted`: a transaction read in one pass over its members. The lists are taken
  out at once, everything else is kept, and the header is taken out of what was kept, of which only
  the fields of a header are looked at. `Transaction.decode_eq_decodeSorted`: this comes to the
  same, since what was taken in once can be skipped.
* `Transaction.Lists.takeIn_of_members`: a header stands in nothing but what can be kept.
* `header_among_members`: documents of transactions are documents of their headers, and documents
  of headers are documents of transactions without lists.
-/

namespace TxWire

open Json (Node Token Close Decoder Failure)

/-! ### The fields of the records -/

lemma PermissionLevel.fieldsRequire : record.FieldsRequire Node.CanBeSkipped where
  field {draft name decoder} h := by
    have hstring := Json.requires_string.mono fun _ => Node.CanBeTakenIn.canBeSkipped
    dsimp only [record] at h
    split at h
    · exact Option.some.inj h ▸ Json.requires_field hstring
    · exact Option.some.inj h ▸ Json.requires_field hstring
    · exact absurd h (by simp)
  known draft name := by
    dsimp only [record]
    split <;> simp_all

lemma Action.fieldsRequire : record.FieldsRequire Node.CanBeSkipped where
  field {draft name decoder} h := by
    have hstring := Json.requires_string.mono fun _ => Node.CanBeTakenIn.canBeSkipped
    have hhex := Json.requires_hex.mono fun _ => Node.CanBeTakenIn.canBeSkipped
    have hlevels := Json.requires_list PermissionLevel.fieldsRequire.requires_decode
    dsimp only [record] at h
    split at h
    · exact Option.some.inj h ▸ Json.requires_field hstring
    · exact Option.some.inj h ▸ Json.requires_field hstring
    · exact Option.some.inj h ▸ Json.requires_field hlevels
    · exact Option.some.inj h ▸ Json.requires_field hhex
    · exact absurd h (by simp)
  known draft name := by
    dsimp only [record]
    split <;> simp_all

lemma Extension.fieldsRequire : record.FieldsRequire Node.CanBeSkipped where
  field {draft name decoder} h := by
    have hkind := Json.requires_u16.mono fun _ => Node.CanBeTakenIn.canBeSkipped
    have hhex := Json.requires_hex.mono fun _ => Node.CanBeTakenIn.canBeSkipped
    dsimp only [record] at h
    split at h
    · exact Option.some.inj h ▸ Json.requires_field hkind
    · exact Option.some.inj h ▸ Json.requires_field hhex
    · exact absurd h (by simp)
  known draft name := by
    dsimp only [record]
    split <;> simp_all

/-- The fields of a header are single tokens. -/
lemma Header.fieldsRequire : record.FieldsRequire Node.CanBeTakenIn where
  field {draft name decoder} h := by
    dsimp only [record] at h
    split at h
    · exact Option.some.inj h ▸ Json.requires_field Json.requires_instant
    · exact Option.some.inj h ▸ Json.requires_field Json.requires_u16
    · exact Option.some.inj h ▸ Json.requires_field Json.requires_u32
    · exact Option.some.inj h ▸ Json.requires_field Json.requires_u32
    · exact Option.some.inj h ▸ Json.requires_field Json.requires_u8
    · exact Option.some.inj h ▸ Json.requires_field Json.requires_u32
    · exact absurd h (by simp)
  known draft name := by
    dsimp only [record]
    split <;> simp_all

/-! ### One pass over the members of a transaction -/

namespace Transaction

/-- The names of the lists. -/
def Lists.names : List String := ["context_free_actions", "actions", "transaction_extensions"]

namespace Lists

variable {lists final : Lists} {name : String} {decoder : Decoder Lists}

lemma field?_eq_none_iff : lists.field? name = none ↔ name ∉ names := by
  rw [field?.eq_def, names]
  split <;> simp_all

/-- The lists are taken out of what can be skipped as well. -/
lemma requires_field? (h : lists.field? name = some decoder) :
    decoder.Requires Node.CanBeSkipped := by
  have hactions := Json.requires_list Action.fieldsRequire.requires_decode
  have hextensions := Json.requires_list Extension.fieldsRequire.requires_decode
  rw [field?.eq_def] at h
  split at h
  · exact Option.some.inj h ▸ Json.requires_field hactions
  · exact Option.some.inj h ▸ Json.requires_field (Json.requires_optional hactions)
  · exact Option.some.inj h ▸ Json.requires_field hextensions
  · exact absurd h (by simp)

lemma mem_names_of_field? (h : lists.field? name = some decoder) : name ∈ names := by
  by_contra hname
  rw [field?_eq_none_iff.mpr hname] at h
  exact absurd h (by simp)

/-- No list has the name of a field of a header. -/
lemma not_mem_fields (h : name ∈ names) : name ∉ Header.record.fields := by
  have hapart : ∀ name ∈ names, name ∉ Header.record.fields := by decide
  exact hapart name h

end Lists

/-- What one pass over members comes to: the lists, and all that is kept for the header. -/
structure Sorted where
  lists : Lists := {}
  kept : List (String × Node) := []

/-- Takes members in. What is kept is taken in as a whole. -/
def Sorted.takeIn (sorted : Sorted) : List (Token String × Node) → Except Failure Sorted
  | [] => .ok sorted
  | (key, value) :: rest => do
    let name ← Json.ofText key.content
    match sorted.lists.field? name with
    | some decoder => takeIn { sorted with lists := ← decoder value } rest
    | none =>
      Json.ofText (value.takeIn nestingRoom)
      takeIn { sorted with kept := sorted.kept ++ [(name, value)] } rest

/-- Takes fields of a header out of what was kept, without a look at anything else. -/
def takeHeader (draft : Header.Draft) : List (String × Node) → Except Failure Header.Draft
  | [] => .ok draft
  | (name, value) :: rest =>
    match Header.record.field? draft name with
    | some decoder => do takeHeader (← decoder value) rest
    | none => takeHeader draft rest

/-- Takes a transaction out of an object in one pass over its members. -/
def decodeSorted : Decoder Transaction
  | .object members close => do
    let sorted ← ({} : Sorted).takeIn members
    Json.ofText close
    let header ← Json.ofData (Header.record.finish (← takeHeader Header.record.draft sorted.kept))
    return {
      header
      contextFreeActions := sorted.lists.contextFreeActions.getD []
      actions? := sorted.lists.actions?.join
      extensions := sorted.lists.extensions.getD [] }
  | node => .error (Json.mismatch "struct Transaction" node)

/-- The members that none of the lists takes. -/
def others : List (Token String × Node) → List (String × Node)
  | [] => []
  | (key, value) :: rest => match key.content with
    | .ok name => if name ∈ Lists.names then others rest else (name, value) :: others rest
    | .error _ => others rest

/-- One pass finds the lists that a pass for the lists alone finds. -/
lemma Sorted.takeIn_eq (sorted : Sorted) (members : List (Token String × Node)) :
    sorted.takeIn members = (sorted.lists.takeIn members).map fun lists =>
      { lists, kept := sorted.kept ++ others members } := by
  induction members generalizing sorted with
  | nil => simp [takeIn, Lists.takeIn, others, Except.map]
  | cons member members ih =>
      obtain ⟨key, value⟩ := member
      rw [takeIn, Lists.takeIn, others]
      cases key.content with
      | error fault => rfl
      | ok name =>
          dsimp only [Json.ofText, Except.mapError, bind, Except.bind]
          cases hfield : sorted.lists.field? name with
          | none =>
              rw [if_neg (Lists.field?_eq_none_iff.mp hfield)]
              dsimp only
              cases value.takeIn nestingRoom with
              | error fault => rfl
              | ok =>
                  dsimp only
                  rw [ih, List.append_assoc, List.singleton_append]
          | some decoder =>
              rw [if_pos (Lists.mem_names_of_field? hfield)]
              dsimp only
              cases decoder value with
              | error failure => rfl
              | ok lists => exact ih _

/-- Where the lists have been taken out, the header is taken out of all members like out of those
that were kept: everything else can be skipped. -/
lemma members_eq_takeHeader {lists final : Lists} {members : List (Token String × Node)}
    (hskips : Json.MembersSkip members) (h : lists.takeIn members = .ok final)
    (draft : Header.Draft) :
    Header.record.members draft members = takeHeader draft (others members) := by
  induction members generalizing lists draft with
  | nil => rfl
  | cons member members ih =>
      obtain ⟨key, value⟩ := member
      obtain ⟨hkey, hvalue, hskips⟩ := hskips
      rw [Lists.takeIn] at h
      obtain ⟨name, hname, h⟩ := Json.exists_of_bind_eq_ok h
      have hcontent := Json.eq_ok_of_ofText hname
      rw [Json.Record.members, others, hcontent]
      dsimp only [Json.ofText, Except.mapError, bind, Except.bind]
      cases hfield : lists.field? name with
      | none =>
          rw [hfield] at h
          obtain ⟨⟨⟩, htaken, h⟩ := Json.exists_of_bind_eq_ok h
          have hskip := value.skip_of_takeIn hvalue (Json.eq_ok_of_ofText htaken)
          rw [if_neg (Lists.field?_eq_none_iff.mp hfield), takeHeader]
          cases Header.record.field? draft name with
          | none =>
              dsimp only
              rw [hskip]
              exact ih hskips h draft
          | some decoder =>
              dsimp only [bind, Except.bind]
              cases decoder value with
              | error failure => rfl
              | ok next => exact ih hskips h next
      | some decoder =>
          rw [hfield] at h
          obtain ⟨next, hnext, h⟩ := Json.exists_of_bind_eq_ok h
          have hskip := Lists.requires_field? hfield value next hnext hvalue
          have hlist := Lists.mem_names_of_field? hfield
          have hapart : Header.record.field? draft name = none :=
            (Header.fieldsRequire.known draft name).mpr (Lists.not_mem_fields hlist)
          rw [if_pos hlist, hapart]
          dsimp only
          rw [hskip]
          exact ih hskips h draft

/-- Two passes over the members come to the same as one. -/
lemma decode_eq_decodeSorted {node : Node} (hskips : node.Skips) :
    decode node = decodeSorted node := by
  cases node with
  | object members close =>
      rw [Node.Skips] at hskips
      rw [decode, decodeSorted, Sorted.takeIn_eq]
      cases hlists : ({} : Lists).takeIn members with
      | error failure => rfl
      | ok lists =>
          cases close with
          | error fault => rfl
          | ok =>
              rw [Json.Record.decode, members_eq_takeHeader hskips hlists]
              dsimp only [Json.ofText, Except.mapError, bind, Except.bind, Except.map]
              rw [List.nil_append]
              cases takeHeader Header.record.draft (others members) <;> rfl
  | _ => rfl

end Transaction

/-! ### Documents with the fields of a header alone -/

namespace Json

/-- All keys of members are among some names, as far as they can be read. -/
def KeysAmong (names : List String) (members : List (Token String × Node)) : Prop :=
  ∀ member ∈ members, ∀ name ∈ member.1.content.toOption, name ∈ names

instance (names : List String) (members : List (Token String × Node)) :
    Decidable (KeysAmong names members) :=
  inferInstanceAs (Decidable (∀ member ∈ members, ∀ name ∈ member.1.content.toOption, name ∈ names))

/-- An object all of whose keys are among some names, in any order and any number. -/
inductive Node.HasKeysAmong (names : List String) : Node → Prop
  | object {members : List (Token String × Node)} {close : Close}
      (keys : KeysAmong names members) : HasKeysAmong names (.object members close)

instance (names : List String) : (node : Node) → Decidable (node.HasKeysAmong names)
  | .object members _ => decidable_of_iff (KeysAmong names members) ⟨.object, fun ⟨h⟩ => h⟩
  | .null | .bool _ | .number _ | .string _ | .array _ _ | .brokenWord _ | .fault _ =>
    .isFalse nofun

lemma KeysAmong.cons {names : List String} {name : String} {key : Token String} {value : Node}
    {members : List (Token String × Node)} (h : KeysAmong names ((key, value) :: members))
    (hname : ofText key.content = .ok name) : name ∈ names ∧ KeysAmong names members := by
  obtain ⟨hkey, hmembers⟩ := List.forall_mem_cons.mp h
  rw [eq_ok_of_ofText hname] at hkey
  exact ⟨hkey name rfl, hmembers⟩

lemma decode_eq_ok_iff_root {α : Type} {decoder : Decoder α} {text : String} {x : α} :
    decode decoder text = .ok x ↔ decoder (read text).root = .ok x ∧ (read text).rest = .ok () := by
  constructor
  · intro h
    rw [decode] at h
    obtain ⟨y, hy, h⟩ := exists_of_bind_eq_ok h
    obtain ⟨⟨⟩, hrest, h⟩ := exists_of_bind_eq_ok h
    rw [hy, ← Except.ok.inj h]
    exact ⟨rfl, eq_ok_of_ofText hrest⟩
  · rintro ⟨hroot, hrest⟩
    rw [decode, hroot, hrest]
    rfl

end Json

namespace Transaction

variable {lists final : Lists} {members : List (Token String × Node)} {node : Node}

/-- A field of a header is left to the header, whatever the lists hold. -/
lemma Lists.field?_of_mem_fields {name : String} (h : name ∈ Header.record.fields) :
    lists.field? name = none :=
  field?_eq_none_iff.mpr fun hname => not_mem_fields hname h

/-- Members that are fields of a header leave the lists as they are. -/
lemma Lists.eq_of_takeIn (hkeys : Json.KeysAmong Header.record.fields members)
    (h : lists.takeIn members = .ok final) : final = lists := by
  induction members with
  | nil => exact (Except.ok.inj h).symm
  | cons member members ih =>
      obtain ⟨key, value⟩ := member
      rw [takeIn] at h
      obtain ⟨name, hname, h⟩ := Json.exists_of_bind_eq_ok h
      obtain ⟨hfield, hkeys⟩ := hkeys.cons hname
      rw [field?_of_mem_fields hfield] at h
      obtain ⟨⟨⟩, -, h⟩ := Json.exists_of_bind_eq_ok h
      exact ih hkeys h

/-- A header is taken out of members that can be kept, each of them a single token. -/
lemma Lists.takeIn_of_members (hkeys : Json.KeysAmong Header.record.fields members)
    {draft last : Header.Draft} (h : Header.record.members draft members = .ok last) :
    lists.takeIn members = .ok lists := by
  induction members generalizing draft with
  | nil => rfl
  | cons member members ih =>
      obtain ⟨key, value⟩ := member
      rw [Json.Record.members] at h
      obtain ⟨name, hname, h⟩ := Json.exists_of_bind_eq_ok h
      obtain ⟨hfield, hkeys⟩ := hkeys.cons hname
      cases hdecoder : Header.record.field? draft name with
      | none => exact absurd hfield ((Header.fieldsRequire.known draft name).mp hdecoder)
      | some decoder =>
          rw [hdecoder] at h
          obtain ⟨next, hnext, h⟩ := Json.exists_of_bind_eq_ok h
          have hvalue := Header.fieldsRequire.field hdecoder value next hnext nestingRoom
          rw [takeIn, hname]
          dsimp only [bind, Except.bind]
          rw [field?_of_mem_fields hfield, hvalue]
          exact ih hkeys h

/-- What is taken out of an object as a transaction has the header that is taken out of it. -/
lemma decode_header {t : Transaction} (h : decode node = .ok t) :
    Header.record.decode node = .ok t.header := by
  cases node with
  | object members close =>
      rw [decode] at h
      obtain ⟨lists, -, h⟩ := Json.exists_of_bind_eq_ok h
      obtain ⟨⟨⟩, -, h⟩ := Json.exists_of_bind_eq_ok h
      obtain ⟨header, hheader, h⟩ := Json.exists_of_bind_eq_ok h
      rw [← Except.ok.inj h, hheader]
  | _ => exact absurd h (by simp [decode])

/-- An object with fields of a header and nothing else is a transaction without lists. -/
lemma decode_eq_ok_iff (hkeys : node.HasKeysAmong Header.record.fields) {t : Transaction} :
    decode node = .ok t ↔ ∃ header, Header.record.decode node = .ok header
      ∧ t = { header, contextFreeActions := [], actions? := none, extensions := [] } := by
  obtain @⟨members, close, hkeys⟩ := hkeys
  constructor
  · intro h
    refine ⟨t.header, decode_header h, ?_⟩
    rw [decode] at h
    obtain ⟨lists, hlists, h⟩ := Json.exists_of_bind_eq_ok h
    obtain ⟨⟨⟩, -, h⟩ := Json.exists_of_bind_eq_ok h
    obtain ⟨header, -, h⟩ := Json.exists_of_bind_eq_ok h
    rw [Lists.eq_of_takeIn hkeys hlists] at h
    rw [← Except.ok.inj h]
    rfl
  · rintro ⟨header, hheader, rfl⟩
    have hdecode := hheader
    rw [Json.Record.decode] at hdecode
    obtain ⟨draft, hmembers, hdecode⟩ := Json.exists_of_bind_eq_ok hdecode
    obtain ⟨⟨⟩, hclose, -⟩ := Json.exists_of_bind_eq_ok hdecode
    rw [decode, Lists.takeIn_of_members hkeys hmembers]
    dsimp only [bind, Except.bind]
    rw [hclose]
    dsimp only
    rw [hheader]
    rfl

end Transaction

/-- **A header among the members of its transaction is read like a header by itself.** Whatever
text is read as a transaction is read as a header too, the one that the transaction has. If the text
is an object with no keys but those of the fields of a header, in any order, more than once or not
at all, then it is read as a transaction exactly if it is read as a header, and the transaction has
that header and no lists. Neither depends on how often the members are gone through: with one pass,
in which what may belong to the header is kept for later, all texts come to the same transaction or
to the same failure. -/
theorem header_among_members (text : String) :
    (∀ t, Json.decode Transaction.decode text = .ok t →
      Json.decode Header.record.decode text = .ok t.header)
    ∧ ((Json.read text).root.HasKeysAmong Header.record.fields →
      ∀ t, Json.decode Transaction.decode text = .ok t ↔
        ∃ header, Json.decode Header.record.decode text = .ok header
          ∧ t = { header, contextFreeActions := [], actions? := none, extensions := [] })
    ∧ Json.decode Transaction.decode text = Json.decode Transaction.decodeSorted text := by
  refine ⟨fun t h => ?_, fun hkeys t => ?_, ?_⟩
  · obtain ⟨hroot, hrest⟩ := Json.decode_eq_ok_iff_root.mp h
    exact Json.decode_eq_ok_iff_root.mpr ⟨Transaction.decode_header hroot, hrest⟩
  · simp only [Json.decode_eq_ok_iff_root, Transaction.decode_eq_ok_iff hkeys]
    constructor
    · rintro ⟨⟨header, hheader, ht⟩, hrest⟩
      exact ⟨header, ⟨hheader, hrest⟩, ht⟩
    · rintro ⟨header, ⟨hheader, hrest⟩, ht⟩
      exact ⟨⟨header, hheader, ht⟩, hrest⟩
  · rw [Json.decode, Transaction.decode_eq_decodeSorted (Json.skips_read text), Json.decode]

/-- A header with its fields in disorder and a key that is written with an escape, and the same
fields around a list and a member that is neither: both documents are read as transactions, and as
their headers. -/
theorem header_among_members_escaped_key :
    let fields := "\"delay_sec\" : 3,\n\"\\u0072ef_block_num\":65535,\"max_net_usage_words\":0,"
      ++ "\"expiration\":\"1970-01-01T00:00:00Z\",\"max_cpu_usage_ms\":0"
    let alone := " \x7b" ++ fields ++ ",\"ref_block_prefix\":7\x7d "
    let among := "\x7b\"memo\":[[null]]," ++ fields ++ ",\"actions\":[],\"ref_block_prefix\":7\x7d"
    let header : Header := { refBlockNum := 65535, refBlockPrefix := 7, delaySec := 3 }
    Json.decode Transaction.decode alone = .ok { header }
      ∧ Json.decode Header.record.decode alone = .ok header
      ∧ Json.decode Transaction.decode among = .ok { header, actions? := some [] }
      ∧ Json.decode Header.record.decode among = .ok header := by
  intro fields alone among header
  have hkeys : (Json.read alone).root.HasKeysAmong Header.record.fields := by decide +kernel
  have halone : Json.decode Header.record.decode alone = .ok header := by decide +kernel
  have hamong : Json.decode Transaction.decode among = .ok { header, actions? := some [] } := by
    decide +kernel
  obtain ⟨-, hiff, -⟩ := header_among_members alone
  obtain ⟨hheader, -, -⟩ := header_among_members among
  exact ⟨(hiff hkeys { header }).mpr ⟨header, halone, rfl⟩, halone, hamong, hheader _ hamong⟩

end TxWire
