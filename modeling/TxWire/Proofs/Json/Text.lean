import TxWire.Json.Decode
import TxWire.Proofs.Json.Token

/-!
A JSON text that was written from a value is read as that value.

* `Value.node`: the tree that a written value is read into; nothing in it is at fault.
* `readValue_chars`: the tree is read wherever the characters of the value stand, as long as what
  comes after them does not continue a number.
* `decode_text`: taking data out of a text that was written is taking it out of this tree.
* `Value.skip_node`: such a tree can be skipped.
-/

namespace TxWire.Json

/-! ### The tree of a value -/

mutual

/-- The tree that the text of a value is read into. -/
def Value.node : Value → Node
  | .null => .null
  | .bool b => .bool b
  | .number n => .number (numberToken n)
  | .string s => .string (stringToken s)
  | .array items => .array (itemNodes items) (.ok ())
  | .object members => .object (memberNodes members) (.ok ())

/-- The trees of the items of an array. -/
def itemNodes : List Value → List Node
  | [] => []
  | item :: items => item.node :: itemNodes items

/-- The tokens and trees of the members of an object. -/
def memberNodes : List (String × Value) → List (Token String × Node)
  | [] => []
  | (key, value) :: members => (stringToken key, value.node) :: memberNodes members

end

lemma memberNodes_append (members more : List (String × Value)) :
    memberNodes (members ++ more) = memberNodes members ++ memberNodes more := by
  induction members with
  | nil => rw [memberNodes, List.nil_append, List.nil_append]
  | cons member members ih =>
      obtain ⟨key, value⟩ := member
      rw [List.cons_append, memberNodes, memberNodes, ih, List.cons_append]

mutual

/-- Nothing in the tree of a value is at fault. -/
lemma Value.skip_node : ∀ v : Value, v.node.skip = .ok ()
  | .null => by rw [Value.node, Node.skip]
  | .bool b => by rw [Value.node, Node.skip]
  | .number n => by rw [Value.node, Node.skip, numberToken]
  | .string s => by rw [Value.node, Node.skip, stringToken]
  | .array items => by rw [Value.node, Node.skip, skipItems_itemNodes]
  | .object members => by rw [Value.node, Node.skip, skipMembers_memberNodes]

lemma skipItems_itemNodes : ∀ items : List Value, skipItems (itemNodes items) (.ok ()) = .ok ()
  | [] => by rw [itemNodes, skipItems]
  | item :: items => by
      rw [itemNodes, skipItems, item.skip_node]
      exact skipItems_itemNodes items

lemma skipMembers_memberNodes : ∀ members : List (String × Value),
    skipMembers (memberNodes members) (.ok ()) = .ok ()
  | [] => by rw [memberNodes, skipMembers]
  | (key, value) :: members => by
      rw [memberNodes, skipMembers, value.skip_node]
      exact skipMembers_memberNodes members

end

/-! ### What a written value starts with, and what follows it -/

lemma ne_of_isDigit {c d : Char} (hc : c.isDigit = true) (hd : d.isDigit = false) : c ≠ d := by
  rintro rfl
  exact absurd hc (by simp [hd])

lemma isBlank_of_isDigit {c : Char} (h : c.isDigit = true) : isBlank c = false := by
  have hall : ∀ k < 10, isBlank (Nat.digitChar k) = false := by decide
  obtain ⟨k, hk, rfl⟩ := exists_digitChar_of_isDigit h
  exact hall k hk

lemma skipBlanks_cons {c : Char} (h : isBlank c = false) (rest : List Char) :
    skipBlanks (c :: rest) = c :: rest := by
  rw [skipBlanks, List.dropWhile_cons_of_neg (by simp [h])]

/-- A value starts with a character that is neither blank nor the end of an array. -/
lemma Value.exists_chars_eq_cons (v : Value) :
    ∃ c more, v.chars = c :: more ∧ isBlank c = false ∧ c ≠ ']' := by
  cases v with
  | null => exact ⟨'n', _, rfl, rfl, by decide⟩
  | bool b => cases b <;> exact ⟨_, _, rfl, rfl, by decide⟩
  | number n =>
      obtain ⟨d, more, hdigits, hd⟩ := exists_toDigits_eq_cons n
      exact ⟨d, more, by rw [Value.chars, hdigits], isBlank_of_isDigit hd,
        ne_of_isDigit hd (by decide)⟩
  | string s => exact ⟨'"', _, rfl, rfl, by decide⟩
  | array items => cases items <;> exact ⟨'[', _, rfl, rfl, by decide⟩
  | object members => rcases members with _ | ⟨⟨key, value⟩, members⟩ <;>
      exact ⟨'\x7b', _, rfl, rfl, by decide⟩

lemma Value.length_chars_pos (v : Value) : 0 < v.chars.length := by
  obtain ⟨c, more, hchars, -⟩ := v.exists_chars_eq_cons
  rw [hchars]
  exact Nat.succ_pos _

lemma length_moreItems_pos (items : List Value) : 0 < (moreItems items).length := by
  cases items <;> exact Nat.succ_pos _

lemma length_moreMembers_pos (members : List (String × Value)) :
    0 < (moreMembers members).length := by
  rcases members with _ | ⟨⟨key, value⟩, members⟩ <;> exact Nat.succ_pos _

lemma endsNumeral_moreItems (items : List Value) (rest : List Char) :
    EndsNumeral (moreItems items ++ rest) := by
  cases items <;> exact endsNumeral_cons rfl (by decide)

lemma endsNumeral_moreMembers (members : List (String × Value)) (rest : List Char) :
    EndsNumeral (moreMembers members ++ rest) := by
  rcases members with _ | ⟨⟨key, value⟩, members⟩ <;> exact endsNumeral_cons rfl (by decide)

lemma stringText_append (s : String) (rest : List Char) :
    stringText s ++ rest = '"' :: (s.toList.flatMap escapeChar ++ '"' :: rest) := by
  rw [stringText, List.cons_append, List.cons_append, List.append_assoc, List.singleton_append]

/-! ### Reading a value as it was written -/

section Steps

variable {fuel : ℕ} {text rest : List Char} {item value : Node}

lemma readValue_stringText (s : String) :
    readValue (fuel + 1) (stringText s ++ rest) = (.string (stringToken s), some rest) := by
  rw [stringText_append, readValue, skipBlanks_cons rfl]
  dsimp only
  rw [if_pos rfl, readString_escaped]

lemma readValue_toDigits (n : ℕ) (hrest : EndsNumeral rest) :
    readValue (fuel + 1) (Nat.toDigits 10 n ++ rest) = (.number (numberToken n), some rest) := by
  have hread := readNumber_toDigits n hrest
  obtain ⟨d, more, hdigits, hd⟩ := exists_toDigits_eq_cons n
  rw [hdigits, List.cons_append] at hread ⊢
  rw [readValue, skipBlanks_cons (isBlank_of_isDigit hd)]
  dsimp only
  rw [if_neg (ne_of_isDigit hd rfl), if_neg (ne_of_isDigit hd rfl), if_neg (ne_of_isDigit hd rfl),
    if_neg (ne_of_isDigit hd rfl), if_pos hd, hread]

lemma readValue_array {c : Char} (hblank : isBlank c = false) (hc : c ≠ ']') :
    readValue (fuel + 1) ('[' :: c :: text)
      = (.array (readItems fuel (c :: text)).1 (readItems fuel (c :: text)).2.1,
        (readItems fuel (c :: text)).2.2) := by
  rw [readValue, skipBlanks_cons rfl]
  dsimp only
  rw [if_neg (by decide), if_pos rfl, skipBlanks_cons hblank]
  dsimp only
  rw [if_neg hc]

lemma readValue_object (key : String) :
    readValue (fuel + 1) ('\x7b' :: (stringText key ++ text))
      = (.object (readMembers fuel (stringText key ++ text)).1
          (readMembers fuel (stringText key ++ text)).2.1,
        (readMembers fuel (stringText key ++ text)).2.2) := by
  rw [stringText_append, readValue, skipBlanks_cons rfl]
  dsimp only
  rw [if_neg (by decide), if_neg (by decide), if_pos rfl, skipBlanks_cons rfl]
  dsimp only
  rw [if_neg (by decide)]

lemma readItems_last (h : readValue fuel text = (item, some (']' :: rest))) :
    readItems (fuel + 1) text = ([item], .ok (), some rest) := by
  rw [readItems, h]
  dsimp only
  rw [skipBlanks_cons rfl]
  dsimp only
  rw [if_neg (by decide), if_pos rfl]

lemma readItems_more (h : readValue fuel text = (item, some (',' :: rest))) :
    readItems (fuel + 1) text = (item :: (readItems fuel rest).1, (readItems fuel rest).2) := by
  rw [readItems, h]
  dsimp only
  rw [skipBlanks_cons rfl]
  dsimp only
  rw [if_pos rfl]

/-- A member is read up to what comes after its value. -/
lemma readMembers_member {c : Char} (key : String)
    (h : readValue fuel text = (value, some (c :: rest))) (hblank : isBlank c = false) :
    readMembers (fuel + 1) (stringText key ++ ':' :: text) =
      if c = ',' then
        ((stringToken key, value) :: (readMembers fuel rest).1, (readMembers fuel rest).2)
      else if c = '\x7d' then ([(stringToken key, value)], .ok (), some rest)
      else ([(stringToken key, value)], .error .malformed, none) := by
  rw [stringText_append, readMembers, skipBlanks_cons rfl]
  dsimp only
  rw [if_pos rfl, readString_escaped]
  dsimp only
  rw [skipBlanks_cons rfl]
  dsimp only
  rw [if_pos rfl, h]
  dsimp only
  rw [skipBlanks_cons hblank]

end Steps

-- The fuel is bounded by what is left to read. Where a list goes on, the value in front of it has
-- been read already, so that the induction follows the tails of the lists.
mutual

/-- A value is read as it was written, with any fuel that is no less than its length. -/
lemma readValue_chars : ∀ (v : Value) (fuel : ℕ) (rest : List Char), v.chars.length ≤ fuel →
    EndsNumeral rest → readValue fuel (v.chars ++ rest) = (v.node, some rest)
  | v, 0, _, hfuel, _ => absurd v.length_chars_pos (Nat.not_lt.mpr hfuel)
  | .null, fuel + 1, rest, _, _ => by rw [Value.chars, Value.node]; rfl
  | .bool true, fuel + 1, rest, _, _ => by rw [Value.chars, Value.node]; rfl
  | .bool false, fuel + 1, rest, _, _ => by rw [Value.chars, Value.node]; rfl
  | .number n, fuel + 1, rest, _, hrest => by
      rw [Value.chars, Value.node, readValue_toDigits n hrest]
  | .string s, fuel + 1, rest, _, _ => by
      rw [Value.chars, Value.node, readValue_stringText]
  | .array [], fuel + 1, rest, _, _ => by rw [Value.chars, Value.node, itemNodes]; rfl
  | .array (item :: items), fuel + 1, rest, hfuel, _ => by
      rw [Value.chars, List.cons_append, List.length_cons, List.length_append] at hfuel
      have hpos := item.length_chars_pos
      have hmore := length_moreItems_pos items
      obtain ⟨fuel, rfl⟩ : ∃ n, fuel = n + 1 := Nat.exists_eq_succ_of_ne_zero (by omega)
      have hitem := readValue_chars item fuel (moreItems items ++ rest) (by omega)
        (endsNumeral_moreItems items rest)
      have hitems := readItems_moreItems items fuel rest hitem (by omega)
      obtain ⟨c, more, hchars, hblank, hc⟩ := item.exists_chars_eq_cons
      rw [Value.chars, List.cons_append, List.cons_append, List.append_assoc]
      rw [hchars, List.cons_append] at hitems ⊢
      rw [readValue_array hblank hc, hitems, Value.node, itemNodes]
  | .object [], fuel + 1, rest, _, _ => by rw [Value.chars, Value.node, memberNodes]; rfl
  | .object ((key, value) :: members), fuel + 1, rest, hfuel, _ => by
      simp only [Value.chars, List.length_cons, List.length_append] at hfuel
      have hmore := length_moreMembers_pos members
      obtain ⟨fuel, rfl⟩ : ∃ n, fuel = n + 1 := Nat.exists_eq_succ_of_ne_zero (by omega)
      have hvalue := readValue_chars value fuel (moreMembers members ++ rest) (by omega)
        (endsNumeral_moreMembers members rest)
      have hmembers := readMembers_moreMembers members fuel rest key hvalue (by omega)
      simp only [Value.chars, List.cons_append, List.append_assoc]
      rw [readValue_object, hmembers, Value.node, memberNodes]

/-- The items after one that has been read. -/
lemma readItems_moreItems : ∀ (items : List Value) (fuel : ℕ) (rest : List Char)
    {text : List Char} {item : Node},
    readValue fuel text = (item, some (moreItems items ++ rest)) →
      (moreItems items).length ≤ fuel →
      readItems (fuel + 1) text = (item :: itemNodes items, .ok (), some rest)
  | [], fuel, rest, text, item, hitem, _ => by
      rw [moreItems, List.singleton_append] at hitem
      rw [readItems_last hitem, itemNodes]
  | next :: items, fuel, rest, text, item, hitem, hfuel => by
      rw [moreItems, List.cons_append, List.length_cons, List.length_append] at hfuel
      have hmore := length_moreItems_pos items
      obtain ⟨fuel, rfl⟩ : ∃ n, fuel = n + 1 := Nat.exists_eq_succ_of_ne_zero (by omega)
      have hnext := readValue_chars next fuel (moreItems items ++ rest) (by omega)
        (endsNumeral_moreItems items rest)
      have hitems := readItems_moreItems items fuel rest hnext (by
        have hpos := next.length_chars_pos
        omega)
      rw [moreItems, List.cons_append, List.cons_append, List.append_assoc] at hitem
      rw [readItems_more hitem, hitems, itemNodes]

/-- The members after one whose value has been read. -/
lemma readMembers_moreMembers : ∀ (members : List (String × Value)) (fuel : ℕ) (rest : List Char)
    {text : List Char} {value : Node} (key : String),
    readValue fuel text = (value, some (moreMembers members ++ rest)) →
      (moreMembers members).length ≤ fuel →
      readMembers (fuel + 1) (stringText key ++ ':' :: text)
        = ((stringToken key, value) :: memberNodes members, .ok (), some rest)
  | [], fuel, rest, text, value, key, hvalue, _ => by
      rw [moreMembers, List.singleton_append] at hvalue
      rw [readMembers_member key hvalue rfl, if_neg (by decide), if_pos rfl, memberNodes]
  | (next, nextValue) :: members, fuel, rest, text, value, key, hvalue, hfuel => by
      simp only [moreMembers, List.cons_append, List.length_cons, List.length_append] at hfuel
      have hmore := length_moreMembers_pos members
      obtain ⟨fuel, rfl⟩ : ∃ n, fuel = n + 1 := Nat.exists_eq_succ_of_ne_zero (by omega)
      have hnext := readValue_chars nextValue fuel (moreMembers members ++ rest) (by omega)
        (endsNumeral_moreMembers members rest)
      have hmembers := readMembers_moreMembers members fuel rest next hnext (by omega)
      simp only [moreMembers, List.cons_append, List.append_assoc] at hvalue
      rw [readMembers_member key hvalue rfl, if_pos rfl, hmembers, memberNodes]

end

/-- A text that was written is read into the tree of its value, with nothing after it. -/
lemma read_text (v : Value) : read v.text = { root := v.node, rest := .ok () } := by
  have hchars : v.text.toList = v.chars := String.toList_ofList
  have hread := readValue_chars v (2 * v.chars.length + 2) [] (by omega) endsNumeral_nil
  rw [List.append_nil] at hread
  rw [read, hchars, hread]
  rfl

/-- What is taken out of a text with nothing after its value is taken out of the tree. -/
lemma decode_of_read {α : Type} {decoder : Decoder α} {text : String} {root : Node}
    (h : read text = { root, rest := .ok () }) : decode decoder text = decoder root := by
  rw [decode, h]
  show (decoder root >>= fun value => (ofText (.ok ()) >>= fun _ => pure value)) = decoder root
  cases decoder root <;> rfl

/-- What is taken out of a text that was written is taken out of the tree of its value. -/
lemma decode_text {α : Type} (decoder : Decoder α) (v : Value) :
    decode decoder v.text = decoder v.node := decode_of_read (read_text v)

end TxWire.Json
