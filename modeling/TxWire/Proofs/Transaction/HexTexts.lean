import TxWire.Proofs.Json.RoundTrip
import TxWire.Proofs.Settings.Building

/-!
Hexadecimal text is the same everywhere it is taken in.

* `Hex.IsText`: an even number of digits, which is what is accepted as the arguments of an action,
  as the data of an action in a document and, given 64 of them, as a chain id or a block id.
* `Action.DataPlace`: where the data of an action stands in a document. `Action.isApart`
  says that the rest of the document is read without regard to it, since a draft that has data is
  treated alike whatever data it is (`Action.members_put`). `Action.decode_fill_eq_ok_iff`: a text
  put there is taken in like the arguments of an action.
* `hex_texts_agree`: all of it.
-/

namespace TxWire

open Json (Value Node Token Close)

variable {text : String}

namespace Hex

/-- A text is hexadecimal: an even number of digits, of either case. -/
def IsText (text : String) : Prop :=
  Even text.length ∧ ∀ c ∈ text.toList, IsDigit c

instance (text : String) : Decidable (IsText text) := inferInstanceAs (Decidable (_ ∧ _))

lemma exists_decode_iff_isText : (∃ data, decode text = .ok data) ↔ IsText text := by
  rw [exists_decode_iff, forall_isDigitCode_iff, IsText]
  refine and_congr_left fun hdigits => ?_
  rw [length_utf8Bytes_of_isDigit hdigits, Nat.even_iff]

end Hex

/-! ### Identifiers -/

namespace ChainId

variable {id : ChainId}

lemma parse_eq_ok_iff_decode : ChainId.parse text = .ok id ↔ Hex.decode text = .ok id.bytes := by
  rw [ChainId.parse_eq_ok_iff]
  refine ⟨Digest.decode_of_parse, fun hread => ?_⟩
  rw [Digest.parse, hread]
  exact dif_pos id.size_eq

/-- A chain id is read from its own text. -/
lemma parse_hex (id : ChainId) : ChainId.parse id.hex = .ok id :=
  parse_eq_ok_iff_decode.mpr (Hex.decode_encode id.bytes)

end ChainId

/-- What refers to a block is read like a chain id. -/
lemma Header.exists_setReferenceBlock_iff (header : Header) :
    (∃ next, header.setReferenceBlock text = .ok next) ↔ ∃ id, ChainId.parse text = .ok id := by
  simp only [ChainId.parse_eq_ok_iff, Header.setReferenceBlock]
  cases Digest.parse text <;> simp

namespace Json

variable {α σ τ : Type} {name : String} {current : Option α} {decoder : Decoder α} {put : α → σ}
  {node : Node}

lemma map_field (f : σ → τ) : (field name current decoder put node).map f
    = field name current decoder (fun x => f (put x)) node := by
  rw [field, field]
  split_ifs
  · rfl
  · cases decoder node <;> rfl

/-- Members in a row are taken in one part after the other. -/
lemma Record.members_append (r : Record σ α) (draft : σ)
    (members more : List (Token String × Node)) :
    r.members draft (members ++ more)
      = (r.members draft members).bind fun next => r.members next more := by
  induction members generalizing draft with
  | nil => rfl
  | cons member members ih =>
      obtain ⟨key, value⟩ := member
      rw [List.cons_append, Record.members, Record.members]
      cases key.content with
      | error fault => rfl
      | ok name =>
          dsimp only [ofText, Except.mapError, bind, Except.bind]
          cases r.field? draft name with
          | none =>
              dsimp only
              cases value.skip with
              | error fault => rfl
              | ok => exact ih draft
          | some decoder =>
              dsimp only
              cases decoder value with
              | error failure => rfl
              | ok next => exact ih next

/-- An item of an array is taken in as the field that it stands for. -/
lemma Record.items_field {r : Record σ τ} {draft : σ} {taken : ℕ} {fields : List String}
    {rest : List Node} {close : Close}
    (hfield : r.field? draft name = some (field name none decoder put)) :
    r.items draft taken (name :: fields) (node :: rest) close
      = (decoder node).bind fun x => r.items (put x) (taken + 1) fields rest close := by
  rw [Record.items, hfield]
  dsimp only [field, bind, Except.bind]
  cases decoder node <;> rfl

end Json

/-! ### Arguments of an action -/

namespace Action

variable {a action : Action} {data : List UInt8}

lemma withHexData_eq_ok_iff : action.withHexData text = .ok a ↔
    ∃ data, Hex.decode text = .ok data ∧ a = { action with data } := by
  rw [withHexData]
  cases Hex.decode text <;> simp [eq_comm]

lemma exists_withHexData_iff : (∃ a, action.withHexData text = .ok a) ↔ Hex.IsText text := by
  simp only [withHexData_eq_ok_iff, ← Hex.exists_decode_iff_isText]
  exact ⟨fun ⟨_, data, hread, _⟩ => ⟨data, hread⟩, fun ⟨data, hread⟩ => ⟨_, data, hread, rfl⟩⟩

/-- What an action holds after it was given a text is what the text says. -/
lemma exists_data_iff (P : List UInt8 → Prop) : (∃ a, action.withHexData text = .ok a ∧ P a.data) ↔
    ∃ data, Hex.decode text = .ok data ∧ P data := by
  simp only [withHexData_eq_ok_iff]
  constructor
  · rintro ⟨_, ⟨data, hread, rfl⟩, hdata⟩
    exact ⟨data, hread, hdata⟩
  · rintro ⟨data, hread, hdata⟩
    exact ⟨_, ⟨data, hread, rfl⟩, hdata⟩

lemma withHexData_dataHex (action a : Action) :
    action.withHexData a.dataHex = .ok { action with data := a.data } :=
  withHexData_eq_ok_iff.mpr ⟨a.data, Hex.decode_encode a.data, rfl⟩

/-! ### The data of an action in a document -/

/-- Puts data into a draft. -/
def Draft.put (d : Draft) (data : List UInt8) : Draft := { d with data := some data }

/-- With data in the draft, it makes no difference to a field which data that is. -/
lemma field?_put (d : Draft) (data other : List UInt8) (name : String) :
    record.field? (d.put data) name = (record.field? (d.put other) name).map fun decoder node =>
      (decoder node).map fun next => next.put data := by
  dsimp only [record]
  split
  case h_4 | h_5 => rfl
  all_goals
    refine congrArg some (funext fun node => ?_)
    dsimp only
    rw [Json.map_field]
    rfl

/-- With data in the draft, the members that follow are taken in without regard to it. -/
lemma members_put (d : Draft) (data other : List UInt8) (members : List (Token String × Node)) :
    record.members (d.put data) members
      = (record.members (d.put other) members).map fun next => next.put data := by
  induction members generalizing d with
  | nil => rfl
  | cons member members ih =>
      obtain ⟨key, value⟩ := member
      rw [Json.Record.members, Json.Record.members]
      cases key.content with
      | error fault => rfl
      | ok name =>
          dsimp only [Json.ofText, Except.mapError, bind, Except.bind]
          have hdata := field?_put d data other name
          -- for the same data twice this says that a field leaves it in the draft
          have hother := field?_put d other other name
          cases hfield : record.field? (d.put other) name with
          | none =>
              rw [hfield] at hdata
              rw [hdata]
              dsimp only [Option.map]
              cases value.skip with
              | error fault => rfl
              | ok => exact ih d
          | some decoder =>
              rw [hfield] at hdata hother
              rw [hdata]
              dsimp only [Option.map]
              have hkeeps : decoder value = (decoder value).map fun next => next.put other :=
                congrFun (Option.some.inj hother) value
              cases hread : decoder value with
              | error failure => rfl
              | ok next =>
                  rw [hread] at hkeeps
                  have hnext : next = next.put other := Except.ok.inj hkeeps
                  show record.members (next.put data) members = _
                  rw [ih next, ← hnext]

/-- The place of the data in the tree of an action. -/
inductive DataPlace
  /-- One of the members of an object. -/
  | member (before after : List (Token String × Node)) (close : Close)
  /-- The last of the items of an array. -/
  | item (account name authorization : Node) (close : Close)

/-- The tree of an action with something in the place of the data. -/
def DataPlace.fill : DataPlace → Node → Node
  | member before after close, data =>
    .object (before ++ (Json.stringToken "data", data) :: after) close
  | item account name authorization close, data =>
    .array [account, name, authorization, data] close

lemma members_data (d : Draft) (node : Node) (members : List (Token String × Node)) :
    record.members d ((Json.stringToken "data", node) :: members)
      = if d.data.isSome then .error (.data (.duplicate "data"))
        else (Json.hex node).bind fun data => record.members (d.put data) members := by
  rw [Json.Record.members]
  show (Json.field "data" d.data Json.hex (fun x => { d with data := some x }) node).bind
    (fun next => record.members next members) = _
  rw [Json.field]
  split_ifs
  · rfl
  · cases Json.hex node <;> rfl

lemma finish_put (d : Draft) (data other : List UInt8) : Json.ofData (record.finish (d.put data))
    = (Json.ofData (record.finish (d.put other))).map fun a => { a with data } := by
  obtain ⟨account, name, authorization, -⟩ := d
  cases account <;> cases name <;> cases authorization <;> rfl

/-- A document is refused before the place of the data is looked at, or else what is there is read
as hexadecimal text, and the rest without regard to it. -/
def DataPlace.IsApart (place : DataPlace) : Prop :=
  (∃ failure, ∀ data, record.decode (place.fill data) = .error failure)
  ∨ ∃ rest : Except Json.Failure Action, ∀ data, record.decode (place.fill data)
    = (Json.hex data).bind fun bytes => rest.map fun a => { a with data := bytes }

lemma isApart_member (before after : List (Token String × Node)) (close : Close) :
    (DataPlace.member before after close).IsApart := by
  have hdecode (data : Node) : record.decode ((DataPlace.member before after close).fill data)
      = (record.members {} (before ++ (Json.stringToken "data", data) :: after)).bind
        fun draft => (Json.ofText close).bind fun _ => Json.ofData (record.finish draft) := rfl
  simp only [DataPlace.IsApart, hdecode, Json.Record.members_append, members_data]
  cases record.members {} before with
  | error failure => exact .inl ⟨failure, fun data => rfl⟩
  | ok d =>
      dsimp only [Except.bind]
      cases hmet : d.data.isSome with
      | true => exact .inl ⟨_, fun data => rfl⟩
      | false =>
          refine .inr ⟨(record.members (d.put []) after).bind fun draft =>
            (Json.ofText close).bind fun _ => Json.ofData (record.finish draft), fun data => ?_⟩
          cases Json.hex data with
          | error failure => rfl
          | ok bytes =>
              -- no data at all stands for whatever data there is
              have hkeeps := members_put d [] [] after
              show (record.members (d.put bytes) after).bind _ = Except.map _ (Except.bind _ _)
              rw [members_put d bytes []]
              cases hafter : record.members (d.put []) after with
              | error failure => rfl
              | ok next =>
                  rw [hafter] at hkeeps
                  have hnext : next = next.put [] := Except.ok.inj hkeeps
                  cases close with
                  | error fault => rfl
                  | ok =>
                      show Json.ofData (record.finish (next.put bytes))
                        = (Json.ofData (record.finish next)).map _
                      rw [finish_put next bytes [], ← hnext]

lemma items_eq (account name authorization data : Node) (close : Close) :
    record.items {} 0 record.fields [account, name, authorization, data] close
      = (Json.string account).bind fun x => (Json.string name).bind fun y =>
        (Json.list PermissionLevel.record.decode authorization).bind fun z =>
          (Json.hex data).bind fun bytes =>
            record.items ⟨some x, some y, some z, some bytes⟩ 4 [] [] close := by
  refine (Json.Record.items_field rfl).trans (congrArg _ (funext fun x => ?_))
  refine (Json.Record.items_field rfl).trans (congrArg _ (funext fun y => ?_))
  refine (Json.Record.items_field rfl).trans (congrArg _ (funext fun z => ?_))
  exact Json.Record.items_field rfl

lemma isApart_item (account name authorization : Node) (close : Close) :
    (DataPlace.item account name authorization close).IsApart := by
  have hdecode (data : Node) :
      record.decode ((DataPlace.item account name authorization close).fill data)
      = (record.items {} 0 record.fields [account, name, authorization, data] close).bind
        fun draft => Json.ofData (record.finish draft) := rfl
  simp only [DataPlace.IsApart, hdecode, items_eq]
  cases Json.string account with
  | error failure => exact .inl ⟨failure, fun data => rfl⟩
  | ok x =>
      cases Json.string name with
      | error failure => exact .inl ⟨failure, fun data => rfl⟩
      | ok y =>
          cases Json.list PermissionLevel.record.decode authorization with
          | error failure => exact .inl ⟨failure, fun data => rfl⟩
          | ok z =>
              refine .inr ⟨(Json.ofText close).map fun _ => ⟨x, y, z, []⟩, fun data => ?_⟩
              cases Json.hex data with
              | error failure => rfl
              | ok bytes => cases close <;> rfl

lemma isApart (place : DataPlace) : place.IsApart := by
  cases place with
  | member before after close => exact isApart_member before after close
  | item account name authorization close => exact isApart_item account name authorization close

/-- A text in the place of the data is taken in like the arguments of an action that the rest of
the tree stands for. -/
lemma decode_fill_eq_ok_iff (place : DataPlace) {token : Token String}
    (htoken : token.content = .ok text) : record.decode (place.fill (.string token)) = .ok a ↔
      ∃ blank, record.decode (place.fill (.string (Json.stringToken ""))) = .ok blank
        ∧ blank.withHexData text = .ok a := by
  have hhex : Json.hex (.string token) = Json.ofData ((Hex.decode text).mapError .notHex) := by
    rw [Json.hex, Json.stringOf, htoken]
    rfl
  have hblank : Json.hex (.string (Json.stringToken "")) = .ok [] := rfl
  obtain ⟨failure, hfailure⟩ | ⟨rest, hrest⟩ := isApart place
  · simp [hfailure]
  · rw [hrest, hrest, hhex, hblank]
    simp only [withHexData_eq_ok_iff]
    cases Hex.decode text with
    | error fault => simp [Json.ofData, Except.mapError, Except.bind]
    | ok data =>
        cases rest with
        | error failure => simp [Json.ofData, Except.mapError, Except.bind, Except.map]
        | ok b =>
          simp [Json.ofData, Except.mapError, Except.bind, Except.map, eq_comm]

/-- An action as a document with a text for its data. -/
def documentWith (action : Action) (text : String) : Value :=
  .object
    [ ("account", .string action.account), ("name", .string action.name),
      ("authorization", .array (action.authorization.map PermissionLevel.toJson)),
      ("data", .string text)]

lemma decode_documentWith_eq_ok_iff (action : Action) :
    Json.decode record.decode (action.documentWith text).text = .ok a ↔
      action.withHexData text = .ok a := by
  let place : DataPlace := .member
    (Json.memberNodes
      [ ("account", .string action.account), ("name", .string action.name),
        ("authorization", .array (action.authorization.map PermissionLevel.toJson))]) [] (.ok ())
  have hplace (text : String) :
      (action.documentWith text).node = place.fill (.string (Json.stringToken text)) := by
    simp only [documentWith, Value.node, place, DataPlace.fill, Json.memberNodes, List.cons_append,
      List.nil_append]
  have hblank : record.decode (action.documentWith "").node = .ok { action with data := [] } :=
    reads_toJson { action with data := [] }
  rw [Json.decode_text, hplace, decode_fill_eq_ok_iff place rfl, ← hplace, hblank]
  simp only [Except.ok.injEq, exists_eq_left', withHexData_eq_ok_iff]

end Action

/-! ### All entry points -/

/-- **Hexadecimal text is the same everywhere.** The arguments of an action are taken from an even
number of digits and nothing else, and are written as these digits in lower case. A document of an
action, however its members are arranged and its strings are written, takes the text for its data
like the arguments of the action that the rest of it stands for. A chain id is taken from the texts
that give 32 bytes as arguments, is made of these bytes, and is read back from its own text, which
is the same in lower case. A block is referred to by exactly such texts. And what was written is
read back, whatever the data or the chain id. -/
theorem hex_texts_agree (text : String) :
    (∀ action : Action, ((∃ a, action.withHexData text = .ok a) ↔ Hex.IsText text)
      ∧ ∀ a, action.withHexData text = .ok a →
        a.dataHex = text.map Char.toLower ∧ a = { action with data := a.data })
    ∧ (∀ action a : Action, Json.decode Action.record.decode (action.documentWith text).text = .ok a
      ↔ action.withHexData text = .ok a)
    ∧ (∀ (document : String) (place : Action.DataPlace) (token : Token String),
      Json.read document = { root := place.fill (.string token), rest := .ok () } →
      token.content = .ok text → ∀ a, Json.decode Action.record.decode document = .ok a ↔
        ∃ blank, Action.record.decode (place.fill (.string (Json.stringToken ""))) = .ok blank
          ∧ blank.withHexData text = .ok a)
    ∧ (∀ (action : Action) (id : ChainId), ChainId.parse text = .ok id ↔
      ∃ a, action.withHexData text = .ok a ∧ a.data = id.bytes)
    ∧ (∀ action : Action, (∃ id, ChainId.parse text = .ok id) ↔
      ∃ a, action.withHexData text = .ok a ∧ a.data.length = 32)
    ∧ (∀ id, ChainId.parse text = .ok id →
      id.hex = text.map Char.toLower ∧ ChainId.parse id.hex = .ok id)
    ∧ (∀ header : Header, (∃ next, header.setReferenceBlock text = .ok next) ↔
      ∃ id, ChainId.parse text = .ok id)
    ∧ (∀ action a : Action, action.withHexData a.dataHex = .ok { action with data := a.data })
    ∧ ∀ id : ChainId, ChainId.parse id.hex = .ok id := by
  refine ⟨fun action => ⟨Action.exists_withHexData_iff, fun a ha => ?_⟩,
    fun action _ => Action.decode_documentWith_eq_ok_iff action,
    fun document place token hread htoken a => ?_, fun action id => ?_, fun action => ?_,
    fun id hid => ⟨Digest.hex_of_parse (ChainId.parse_eq_ok_iff.mp hid), id.parse_hex⟩,
    Header.exists_setReferenceBlock_iff, Action.withHexData_dataHex, ChainId.parse_hex⟩
  · obtain ⟨data, hdata, rfl⟩ := Action.withHexData_eq_ok_iff.mp ha
    exact ⟨Hex.encode_of_decode hdata, rfl⟩
  · rw [← Action.decode_fill_eq_ok_iff place htoken, Json.decode_of_read hread]
  · rw [ChainId.parse_eq_ok_iff_decode, Action.exists_data_iff fun data => data = id.bytes]
    exact ⟨fun hread => ⟨id.bytes, hread, rfl⟩, fun ⟨data, hread, hdata⟩ => hdata ▸ hread⟩
  · simp only [ChainId.parse_eq_ok_iff]
    rw [Digest.exists_parse_iff, Action.exists_data_iff fun data => data.length = 32]
    rfl

/-- Two bytes in digits of either case, for an action that has other data and for the first member
of a document, with one behind it that is no field. They are no chain id, which the id of the main
network is. -/
theorem hex_texts_agree_mixed_case :
    let action : Action := { account := "eosio", name := "noop", data := [1] }
    let changed : Action := { action with data := [0xab, 0xcd] }
    let members : List (String × Value) :=
      [("memo", .null), ("authorization", .array []), ("name", .string "noop"),
        ("account", .string "eosio")]
    let document := (Value.object (("data", .string "AbcD") :: members)).text
    action.withHexData "AbcD" = .ok changed ∧ changed.dataHex = "abcd"
    ∧ Json.decode Action.record.decode document = .ok changed
    ∧ (¬ ∃ id, ChainId.parse "AbcD" = .ok id)
    ∧ ∃ id, ChainId.parse mainnetChainId = .ok id ∧ id.hex = mainnetChainId
      ∧ ChainId.parse id.hex = .ok id := by
  intro action changed members document
  have hwith : action.withHexData "AbcD" = .ok changed :=
    Action.withHexData_eq_ok_iff.mpr ⟨[0xab, 0xcd], by decide +kernel, rfl⟩
  obtain ⟨haction, -, hdocument, -, hsize, -⟩ := hex_texts_agree "AbcD"
  obtain ⟨-, -, -, -, hmain, hread, -⟩ := hex_texts_agree mainnetChainId
  let place : Action.DataPlace := .member [] (Json.memberNodes members) (.ok ())
  have htree : Json.read document
      = { root := place.fill (.string (Json.stringToken "AbcD")), rest := .ok () } := by
    rw [Json.read_text, Value.node, Json.memberNodes, Value.node]
    rfl
  have hid : ∃ id, ChainId.parse mainnetChainId = .ok id :=
    (hmain action).mpr ⟨_, rfl, by decide +kernel⟩
  obtain ⟨id, hid⟩ := hid
  refine ⟨hwith, ((haction action).2 changed hwith).1.trans (by decide +kernel),
    (hdocument document _ _ htree rfl changed).mpr ⟨{ action with data := [] }, ?_, ?_⟩, ?_,
    id, hid, (hread id hid).1.trans (by decide +kernel), (hread id hid).2⟩
  · rfl
  · exact hwith
  · rw [hsize action, hwith]
    simp [changed]

end TxWire
