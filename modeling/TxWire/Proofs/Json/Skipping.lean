import TxWire.Json.Decode
import TxWire.Proofs.Json.Token

/-!
What can be read can be skipped.

* `Token.Skips`, `Node.Skips`: a tree in which no token that says something is at fault when it is
  skipped. `skips_read`: all texts are read into such trees.
* `Node.skip_of_takeIn`: what can be taken in as a whole can be skipped.
* `Decoder.Requires`: data is taken only out of values of some kind. The lemmas `requires_…` say
  that strings and numbers are taken out of what can be taken in with no room at all, and lists out
  of what can be skipped. `Record.FieldsRequire` lifts this to records.
-/

namespace TxWire.Json

variable {ε α β σ : Type}

/-! ### Steps that succeed -/

/-- Two steps in a row succeed only if each of them does. -/
lemma exists_of_bind_eq_ok {x : Except ε α} {f : α → Except ε β} {b : β} (h : x >>= f = .ok b) :
    ∃ a, x = .ok a ∧ f a = .ok b := by
  cases x with
  | error e => exact absurd h (by simp [bind, Except.bind])
  | ok a => exact ⟨a, rfl, h⟩

lemma exists_of_map_eq_ok {x : Except ε α} {f : α → β} {b : β} (h : x.map f = .ok b) :
    ∃ a, x = .ok a ∧ f a = b := by
  cases x with
  | error e => exact absurd h (by simp [Except.map])
  | ok a => exact ⟨a, rfl, Except.ok.inj h⟩

/-! ### Trees that were read -/

/-- A token that says something can be skipped. -/
def Token.Skips (token : Token α) : Prop := ∀ x, token.content = .ok x → token.skipped = .ok ()

mutual

/-- Every token of a tree that says something can be skipped. -/
def Node.Skips : Node → Prop
  | .null | .bool _ | .brokenWord _ | .fault _ => True
  | .number token => token.Skips
  | .string token => token.Skips
  | .array items _ => ItemsSkip items
  | .object members _ => MembersSkip members

/-- The same of the items of an array. -/
def ItemsSkip : List Node → Prop
  | [] => True
  | item :: items => item.Skips ∧ ItemsSkip items

/-- The same of the members of an object. -/
def MembersSkip : List (Token String × Node) → Prop
  | [] => True
  | (key, value) :: members => key.Skips ∧ value.Skips ∧ MembersSkip members

end

lemma Token.skips_fault (f : Fault) : (Token.fault f : Token α).Skips := by
  intro x h
  exact absurd h (by simp [Token.fault])

/-- A string whose characters can be told has an end. -/
lemma exists_afterString_of_stringContent {text chars : List Char}
    (h : stringContent text = .ok chars) : ∃ rest, afterString text = .ok rest := by
  fun_induction stringContent text generalizing chars with
  | case2 rest => exact ⟨rest, by rw [afterString.eq_def]; rfl⟩
  | case8 a b c d _ hhigh _ _ a' b' c' d' rest _ hlow _ _ _ ih =>
      obtain ⟨more, hmore, -⟩ := exists_of_map_eq_ok h
      rw [afterString_code hhigh, afterString_code hlow]
      exact ih hmore
  | case11 a b c d rest _ hquad _ _ _ _ ih =>
      obtain ⟨more, hmore, -⟩ := exists_of_map_eq_ok h
      rw [afterString_code hquad]
      exact ih hmore
  | case13 e rest _ _ c hletter _ _ ih =>
      obtain ⟨more, hmore, -⟩ := exists_of_map_eq_ok h
      rw [afterString_letter hletter]
      exact ih hmore
  | case15 c rest hquote hcontrol hbackslash ih =>
      obtain ⟨more, hmore, -⟩ := exists_of_map_eq_ok h
      rw [afterString_plain hquote hbackslash (Nat.le_of_not_lt hcontrol)]
      exact ih hmore
  | _ => exact absurd h (by simp)

lemma skips_readString (text : List Char) : (readString text).1.Skips := by
  intro s h
  have hcontent : (readString text).1.content = (stringContent text).map String.ofList := by
    rw [readString]
    cases afterString text <;> rfl
  rw [hcontent] at h
  obtain ⟨chars, hchars, -⟩ := exists_of_map_eq_ok h
  obtain ⟨rest, hrest⟩ := exists_afterString_of_stringContent hchars
  rw [readString, hrest]

lemma skips_readNumber (negative : Bool) (text : List Char) :
    (readNumber negative text).1.Skips := by
  intro n h
  cases hread : readNumeral negative text with
  | ok read => rw [readNumber, hread]
  | error f =>
      rw [readNumber, hread] at h
      exact absurd h (by simp)

lemma skips_readWord {node : Node} (h : node.Skips) (word text : List Char) :
    (readWord node word text).1.Skips := by
  induction word generalizing text with
  | nil => exact h
  | cons w word ih =>
      cases text with
      | nil => simp [readWord, Node.Skips]
      | cons c text =>
          rw [readWord]
          split_ifs
          · exact ih text
          · simp [Node.Skips]

section Steps

variable {fuel : ℕ}

lemma skips_readValue_succ (hitems : ∀ text, ItemsSkip (readItems fuel text).1)
    (hmembers : ∀ text, MembersSkip (readMembers fuel text).1) (text : List Char) :
    (readValue (fuel + 1) text).1.Skips := by
  rw [readValue]
  cases skipBlanks text with
  | nil => simp [Node.Skips]
  | cons c rest =>
      dsimp only
      split_ifs
      · rw [Node.Skips]
        exact skips_readString rest
      · cases skipBlanks rest with
        | nil => simp [Node.Skips, ItemsSkip]
        | cons c text =>
            dsimp only
            split_ifs
            · simp [Node.Skips, ItemsSkip]
            · rw [Node.Skips]
              exact hitems (c :: text)
      · cases skipBlanks rest with
        | nil => simp [Node.Skips, MembersSkip]
        | cons c text =>
            dsimp only
            split_ifs
            · simp [Node.Skips, MembersSkip]
            · rw [Node.Skips]
              exact hmembers (c :: text)
      · rw [Node.Skips]
        exact skips_readNumber true rest
      · rw [Node.Skips]
        exact skips_readNumber false (c :: rest)
      all_goals first
        | exact skips_readWord (by simp [Node.Skips]) _ rest
        | simp [Node.Skips]

lemma skips_readItems_succ (hvalue : ∀ text, (readValue fuel text).1.Skips)
    (hitems : ∀ text, ItemsSkip (readItems fuel text).1) (text : List Char) :
    ItemsSkip (readItems (fuel + 1) text).1 := by
  have hitem := hvalue text
  rw [readItems]
  generalize readValue fuel text = read at hitem ⊢
  obtain ⟨item, _ | rest⟩ := read
  · exact ⟨hitem, trivial⟩
  · dsimp only
    cases skipBlanks rest with
    | nil => exact ⟨hitem, trivial⟩
    | cons c rest =>
        dsimp only
        split_ifs
        · exact ⟨hitem, hitems rest⟩
        · exact ⟨hitem, trivial⟩
        · exact ⟨hitem, trivial⟩

lemma skips_readMembers_succ (hvalue : ∀ text, (readValue fuel text).1.Skips)
    (hmembers : ∀ text, MembersSkip (readMembers fuel text).1) (text : List Char) :
    MembersSkip (readMembers (fuel + 1) text).1 := by
  rw [readMembers]
  cases skipBlanks text with
  | nil => exact ⟨Token.skips_fault _, by simp [Node.Skips], trivial⟩
  | cons c rest =>
      dsimp only
      split_ifs
      · have hkey := skips_readString rest
        generalize readString rest = read at hkey ⊢
        obtain ⟨key, _ | rest⟩ := read
        · exact ⟨hkey, by simp [Node.Skips], trivial⟩
        · dsimp only
          cases skipBlanks rest with
          | nil => exact ⟨hkey, by simp [Node.Skips], trivial⟩
          | cons c rest =>
              dsimp only
              split_ifs
              · have hread := hvalue rest
                generalize readValue fuel rest = read at hread ⊢
                obtain ⟨value, _ | rest⟩ := read
                · exact ⟨hkey, hread, trivial⟩
                · dsimp only
                  cases skipBlanks rest with
                  | nil => exact ⟨hkey, hread, trivial⟩
                  | cons c rest =>
                      dsimp only
                      split_ifs
                      · exact ⟨hkey, hread, hmembers rest⟩
                      · exact ⟨hkey, hread, trivial⟩
                      · exact ⟨hkey, hread, trivial⟩
              · exact ⟨hkey, by simp [Node.Skips], trivial⟩
      · exact ⟨Token.skips_fault _, by simp [Node.Skips], trivial⟩

end Steps

/-- Whatever is read, with whatever fuel. -/
lemma skips_readValue (fuel : ℕ) : (∀ text, (readValue fuel text).1.Skips)
    ∧ (∀ text, ItemsSkip (readItems fuel text).1)
    ∧ ∀ text, MembersSkip (readMembers fuel text).1 := by
  induction fuel with
  | zero =>
      refine ⟨fun text => ?_, fun text => ?_, fun text => ?_⟩
      · simp [readValue, Node.Skips]
      · simp [readItems, ItemsSkip]
      · simp [readMembers, MembersSkip]
  | succ fuel ih =>
      obtain ⟨hvalue, hitems, hmembers⟩ := ih
      exact ⟨skips_readValue_succ hitems hmembers, skips_readItems_succ hvalue hitems,
        skips_readMembers_succ hvalue hmembers⟩

/-- A text is read into a tree without contradictions: what says something can be skipped. -/
lemma skips_read (text : String) : (read text).root.Skips := by
  have hroot := (skips_readValue (2 * text.toList.length + 2)).1 text.toList
  rw [read]
  generalize readValue (2 * text.toList.length + 2) text.toList = read at hroot ⊢
  obtain ⟨root, _ | rest⟩ := read
  · exact hroot
  · exact hroot

/-! ### Values that are taken in -/

mutual

/-- What can be taken in as a whole can be skipped. -/
lemma Node.skip_of_takeIn : ∀ (node : Node) {room : ℕ}, node.Skips →
    node.takeIn room = .ok () → node.skip = .ok ()
  | .null, _, _, _ => by rw [Node.skip]
  | .bool _, _, _, _ => by rw [Node.skip]
  | .number token, room, hskips, h => by
      rw [Node.takeIn] at h
      obtain ⟨n, hn, -⟩ := exists_of_map_eq_ok h
      rw [Node.Skips] at hskips
      rw [Node.skip, hskips n hn]
  | .string token, room, hskips, h => by
      rw [Node.takeIn] at h
      obtain ⟨s, hs, -⟩ := exists_of_map_eq_ok h
      rw [Node.Skips] at hskips
      rw [Node.skip, hskips s hs]
  | .array items close, room, hskips, h => by
      rw [Node.takeIn] at h
      rw [Node.Skips] at hskips
      rw [Node.skip]
      split_ifs at h
      exact skipItems_of_takeInItems items hskips h
  | .object members close, room, hskips, h => by
      rw [Node.takeIn] at h
      rw [Node.Skips] at hskips
      rw [Node.skip]
      split_ifs at h
      exact skipMembers_of_takeInMembers members hskips h
  | .brokenWord f, _, _, h => by
      rw [Node.takeIn] at h
      exact absurd h (by simp)
  | .fault f, _, _, h => by
      rw [Node.takeIn] at h
      exact absurd h (by simp)

lemma skipItems_of_takeInItems : ∀ (items : List Node) {room : ℕ} {close : Close},
    ItemsSkip items → takeInItems room items close = .ok () → skipItems items close = .ok ()
  | [], _, _, _, h => by
      rw [takeInItems] at h
      rw [skipItems, h]
  | item :: items, room, close, hskips, h => by
      rw [takeInItems] at h
      obtain ⟨⟨⟩, hitem, hitems⟩ := exists_of_bind_eq_ok h
      rw [skipItems, item.skip_of_takeIn hskips.1 hitem]
      exact skipItems_of_takeInItems items hskips.2 hitems

lemma skipMembers_of_takeInMembers : ∀ (members : List (Token String × Node)) {room : ℕ}
    {close : Close}, MembersSkip members → takeInMembers room members close = .ok () →
      skipMembers members close = .ok ()
  | [], _, _, _, h => by
      rw [takeInMembers] at h
      rw [skipMembers, h]
  | (key, value) :: members, room, close, hskips, h => by
      rw [takeInMembers] at h
      obtain ⟨name, hkey, h⟩ := exists_of_bind_eq_ok h
      obtain ⟨⟨⟩, hvalue, hmembers⟩ := exists_of_bind_eq_ok h
      rw [skipMembers, hskips.1 name hkey, value.skip_of_takeIn hskips.2.1 hvalue]
      exact skipMembers_of_takeInMembers members hskips.2.2 hmembers

end

/-! ### Decoders -/

/-- A value that can be skipped, unless its tokens contradict themselves. -/
def Node.CanBeSkipped (node : Node) : Prop := node.Skips → node.skip = .ok ()

/-- A value that can be taken in however little room there is. -/
def Node.CanBeTakenIn (node : Node) : Prop := ∀ room, node.takeIn room = .ok ()

lemma Node.CanBeTakenIn.canBeSkipped {node : Node} (h : node.CanBeTakenIn) : node.CanBeSkipped :=
  fun hskips => node.skip_of_takeIn hskips (h 0)

/-- A decoder takes data only out of values of some kind. -/
def Decoder.Requires (P : Node → Prop) (decoder : Decoder α) : Prop :=
  ∀ (node : Node) (x : α), decoder node = .ok x → P node

lemma eq_ok_of_ofText {x : Except Fault α} {a : α} (h : ofText x = .ok a) : x = .ok a := by
  cases x with
  | error f => exact absurd h (by simp [ofText, Except.mapError])
  | ok b => rw [Except.ok.inj h]

section Requires

variable {P : Node → Prop} {decoder : Decoder α}

lemma Decoder.Requires.mono {Q : Node → Prop} (h : decoder.Requires P)
    (hPQ : ∀ node, P node → Q node) : decoder.Requires Q :=
  fun node x hread => hPQ node (h node x hread)

lemma Decoder.Requires.map (h : decoder.Requires P) (f : α → β) :
    Decoder.Requires P fun node => f <$> decoder node := by
  intro node y hread
  obtain ⟨x, hx, -⟩ := exists_of_map_eq_ok hread
  exact h node x hx

lemma Decoder.Requires.bind (h : decoder.Requires P) (f : α → Except Failure β) :
    Decoder.Requires P fun node => decoder node >>= f := by
  intro node y hread
  obtain ⟨x, hx, -⟩ := exists_of_bind_eq_ok hread
  exact h node x hx

lemma requires_field {name : String} {current : Option α} {put : α → σ} (h : decoder.Requires P) :
    (field name current decoder put).Requires P := by
  intro node x hread
  rw [field] at hread
  split_ifs at hread
  exact h.map put node x hread

end Requires

lemma requires_stringOf (expected : String) : (stringOf expected).Requires Node.CanBeTakenIn := by
  intro node s hread room
  cases node with
  | string token => rw [Node.takeIn, eq_ok_of_ofText hread, Except.map]
  | _ => exact absurd hread (by simp [stringOf])

lemma requires_string : string.Requires Node.CanBeTakenIn := requires_stringOf _

lemma requires_hex : hex.Requires Node.CanBeTakenIn := (requires_stringOf _).bind _

lemma requires_instant : instant.Requires Node.CanBeTakenIn := requires_string.bind _

lemma requires_below (limit : ℕ) (expected : String) :
    (below limit expected).Requires Node.CanBeTakenIn := by
  intro node n hread room
  cases node with
  | number token =>
      obtain ⟨x, hx, -⟩ := exists_of_bind_eq_ok hread
      rw [Node.takeIn, eq_ok_of_ofText hx, Except.map]
  | _ => exact absurd hread (by simp [below])

lemma requires_u8 : u8.Requires Node.CanBeTakenIn := (requires_below _ _).map _

lemma requires_u16 : u16.Requires Node.CanBeTakenIn := (requires_below _ _).map _

lemma requires_u32 : u32.Requires Node.CanBeTakenIn := (requires_below _ _).map _

/-- A list can be skipped if its items can. -/
lemma requires_list {item : Decoder α} (h : item.Requires Node.CanBeSkipped) :
    (list item).Requires Node.CanBeSkipped := by
  have hitems : ∀ (items : List Node) (values : List α) (close : Close), ItemsSkip items →
      items.mapM item = .ok values → skipItems items close = close := by
    intro items
    induction items with
    | nil => exact fun _ close _ _ => by rw [skipItems]
    | cons node items ih =>
        intro values close hskips hread
        rw [List.mapM_cons] at hread
        obtain ⟨x, hx, hread⟩ := exists_of_bind_eq_ok hread
        obtain ⟨xs, hxs, -⟩ := exists_of_bind_eq_ok hread
        rw [skipItems, h node x hx hskips.1]
        exact ih xs close hskips.2 hxs
  intro node values hread hskips
  cases node with
  | array items close =>
      obtain ⟨xs, hxs, hread⟩ := exists_of_bind_eq_ok hread
      obtain ⟨⟨⟩, hclose, -⟩ := exists_of_bind_eq_ok hread
      rw [Node.Skips] at hskips
      rw [Node.skip, hitems items xs close hskips hxs]
      exact eq_ok_of_ofText hclose
  | _ => exact absurd hread (by simp [list])

lemma requires_optional {decoder : Decoder α} (h : decoder.Requires Node.CanBeSkipped) :
    (optional decoder).Requires Node.CanBeSkipped := by
  intro node x hread hskips
  cases node with
  | null => rw [Node.skip]
  | _ => exact h.map some _ x hread hskips

/-! ### Records -/

namespace Record

variable {r : Record σ α}

/-- The fields of a record are those that it has decoders for, and these decoders take data only
out of values of some kind. -/
structure FieldsRequire (P : Node → Prop) (r : Record σ α) : Prop where
  field {draft : σ} {name : String} {decoder : Decoder σ} :
    r.field? draft name = some decoder → decoder.Requires P
  known (draft : σ) (name : String) : r.field? draft name = none ↔ name ∉ r.fields

/-- Members that were taken in can be skipped. -/
lemma FieldsRequire.skipMembers_of_members (h : r.FieldsRequire Node.CanBeSkipped) {draft final : σ}
    {members : List (Token String × Node)} (close : Close) (hskips : MembersSkip members)
    (hread : r.members draft members = .ok final) : skipMembers members close = close := by
  induction members generalizing draft with
  | nil => rw [skipMembers]
  | cons member members ih =>
      obtain ⟨key, value⟩ := member
      rw [Record.members] at hread
      obtain ⟨name, hname, hread⟩ := exists_of_bind_eq_ok hread
      have hkey := hskips.1 name (eq_ok_of_ofText hname)
      have hrest : value.skip = .ok () ∧ skipMembers members close = close := by
        cases hfield : r.field? draft name with
        | none =>
            rw [hfield] at hread
            obtain ⟨⟨⟩, hvalue, hread⟩ := exists_of_bind_eq_ok hread
            exact ⟨eq_ok_of_ofText hvalue, ih hskips.2.2 hread⟩
        | some decoder =>
            rw [hfield] at hread
            obtain ⟨next, hnext, hread⟩ := exists_of_bind_eq_ok hread
            exact ⟨h.field hfield value next hnext hskips.2.1, ih hskips.2.2 hread⟩
      rw [skipMembers, hkey, hrest.1]
      exact hrest.2

/-- Items that were taken in can be skipped, up to the end of the array. -/
lemma FieldsRequire.skipItems_of_items (h : r.FieldsRequire Node.CanBeSkipped)
    {draft final : σ} {taken : ℕ} {fields : List String} {items : List Node} {close : Close}
    (hknown : ∀ name ∈ fields, name ∈ r.fields) (hskips : ItemsSkip items)
    (hread : r.items draft taken fields items close = .ok final) :
    skipItems items close = .ok () := by
  induction items generalizing draft taken fields with
  | nil =>
      rw [skipItems]
      cases fields with
      | nil =>
          obtain ⟨⟨⟩, hclose, -⟩ := exists_of_bind_eq_ok hread
          exact eq_ok_of_ofText hclose
      | cons name fields =>
          obtain ⟨⟨⟩, hclose, -⟩ := exists_of_bind_eq_ok hread
          exact eq_ok_of_ofText hclose
  | cons item items ih =>
      cases fields with
      | nil => exact absurd hread (by simp [Record.items])
      | cons name fields =>
          rw [Record.items] at hread
          cases hfield : r.field? draft name with
          | none => exact absurd (hknown name List.mem_cons_self) ((h.known draft name).mp hfield)
          | some decoder =>
              rw [hfield] at hread
              obtain ⟨next, hnext, hread⟩ := exists_of_bind_eq_ok hread
              rw [skipItems, h.field hfield item next hnext hskips.1]
              exact ih (fun other hother => hknown other (List.mem_cons_of_mem _ hother))
                hskips.2 hread

/-- A record is taken out of an object or an array that can be skipped. -/
lemma FieldsRequire.requires_decode (h : r.FieldsRequire Node.CanBeSkipped) :
    r.decode.Requires Node.CanBeSkipped := by
  intro node x hread hskips
  cases node with
  | object members close =>
      obtain ⟨draft, hmembers, hread⟩ := exists_of_bind_eq_ok hread
      obtain ⟨⟨⟩, hclose, -⟩ := exists_of_bind_eq_ok hread
      rw [Node.Skips] at hskips
      rw [Node.skip, h.skipMembers_of_members close hskips hmembers]
      exact eq_ok_of_ofText hclose
  | array items close =>
      obtain ⟨draft, hitems, -⟩ := exists_of_bind_eq_ok hread
      rw [Node.Skips] at hskips
      rw [Node.skip]
      exact h.skipItems_of_items (fun _ hname => hname) hskips hitems
  | _ => exact absurd hread (by simp [Record.decode])

end Record

end TxWire.Json
