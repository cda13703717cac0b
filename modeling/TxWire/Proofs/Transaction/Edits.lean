import TxWire.Proofs.Layout.Outcome
import TxWire.Proofs.Layout.Size
import TxWire.Proofs.Transaction.HeaderUpdates
import TxWire.Transaction.Json

/-!
Changes to the parts of a transaction, in any order.

* `Transaction.Change`: a change to a transaction, of which the header and the list of actions are
  handed out for changes of any kind. `Transaction.edit_eq_changeAll`: edits are such changes.
* `Transaction.view_changeAll`: a part that every change has something for, or leaves alone, takes
  in what they have one after the other. The lemmas behind it say so of the four parts.
* `Transaction.Part`, `Transaction.changeAll_congr`: changes that are the same part by part come to
  the same.
* `Transaction.exists_sections`: where the actions stand among the packed bytes.
* `edits_of_parts_commute`: what this comes to.
-/

namespace TxWire

namespace Transaction

/-! ### Changes and parts -/

/-- The parts of a transaction. -/
inductive Part
  | header
  | contextFreeActions
  | actions
  | extensions
  deriving DecidableEq

/-- A change to a transaction. -/
inductive Change
  /-- Any change to the header. -/
  | header (f : Header → Header)
  | addAction (action : Action)
  | setActions (actions? : Option (List Action))
  /-- Any change to the list of actions, if there is one. -/
  | actions (f : List Action → List Action)
  | addContextFreeAction (action : Action)
  | addExtension (extension : Extension)

namespace Change

/-- Makes a change. -/
def apply (t : Transaction) : Change → Transaction
  | header f => { t with header := f t.header }
  | addAction action => t.addAction action
  | setActions actions? => { t with actions? }
  | actions f => { t with actions? := t.actions?.map f }
  | addContextFreeAction action => t.addContextFreeAction action
  | addExtension extension => t.addExtension extension

/-- The part that a change is made to. -/
def part : Change → Part
  | header _ => .header
  | addAction _ => .actions
  | setActions _ => .actions
  | actions _ => .actions
  | addContextFreeAction _ => .contextFreeActions
  | addExtension _ => .extensions

/-- What a change does to the header. -/
def onHeader? : Change → Option (Header → Header)
  | header f => some f
  | _ => none

/-- What a change does to the list of actions, which is made for the first action if there is
none. -/
def onActions? : Change → Option (Option (List Action) → Option (List Action))
  | addAction action => some fun list? => some (list?.getD [] ++ [action])
  | setActions actions? => some fun _ => actions?
  | actions f => some fun list? => list?.map f
  | _ => none

/-- The context-free action that a change adds. -/
def contextFreeAction? : Change → Option Action
  | addContextFreeAction action => some action
  | _ => none

/-- The extension that a change adds. -/
def extension? : Change → Option Extension
  | addExtension extension => some extension
  | _ => none

end Change

/-- Makes changes one after the other. -/
def changeAll (t : Transaction) (changes : List Change) : Transaction :=
  changes.foldl Change.apply t

/-! ### Edits are changes -/

/-- What an edit changes. One that fails changes nothing. -/
def Edit.change : Edit → Change
  | header edit => .header fun header => match edit.apply header with
    | .ok edited => edited
    | .error _ => header
  | addAction action => .addAction action
  | setActions actions? => .setActions actions?
  | editAction index edit => .actions fun actions => match actions[index]? with
    | none => actions
    | some action => match edit.apply action with
      | .ok action => actions.set index action
      | .error _ => actions
  | removeAction index => .actions fun actions => actions.eraseIdx index
  | addContextFreeAction action => .addContextFreeAction action
  | addExtension extension => .addExtension extension

lemma Edit.apply_eq_change (edit : Edit) (t : Transaction) :
    (edit.apply t).1 = edit.change.apply t := by
  obtain ⟨h, free, actions?, extensions⟩ := t
  cases edit with
  | header edit =>
      rw [Edit.apply, change, Change.apply]
      cases edit.apply h <;> rfl
  | editAction index edit =>
      rw [Edit.apply, change, Change.apply]
      cases actions? with
      | none => rfl
      | some actions =>
          dsimp only [Option.map]
          cases actions[index]? with
          | none => rfl
          | some action =>
              dsimp only
              cases edit.apply action <;> rfl
  | removeAction index =>
      rw [Edit.apply, change, Change.apply]
      cases actions? with
      | none => rfl
      | some actions =>
          dsimp only [Option.map]
          cases hget : actions[index]? with
          | none => rw [List.eraseIdx_of_length_le (List.getElem?_eq_none_iff.mp hget)]
          | some action => rfl
  | addAction | setActions | addContextFreeAction | addExtension => rfl

lemma edit_eq_changeAll (t : Transaction) (edits : List Edit) :
    t.edit edits = t.changeAll (edits.map Edit.change) := by
  induction edits generalizing t with
  | nil => rfl
  | cons edit edits ih =>
      rw [Transaction.edit, List.foldl_cons, Edit.apply_eq_change]
      exact ih _

/-! ### Parts by themselves -/

/-- What changes do to a part of a transaction, if each has something for it or leaves it alone. -/
lemma view_changeAll {β γ : Type} {view : Transaction → β} {given? : Change → Option γ}
    {take : β → γ → β} (h : ∀ (change : Change) (t : Transaction),
      view (change.apply t) = (given? change).elim (view t) (take (view t)))
    (t : Transaction) (changes : List Change) :
    view (t.changeAll changes) = (changes.filterMap given?).foldl take (view t) := by
  induction changes generalizing t with
  | nil => rfl
  | cons change changes ih =>
      rw [changeAll, List.foldl_cons]
      refine (ih (change.apply t)).trans ?_
      rw [h, List.filterMap_cons]
      cases given? change <;> rfl

lemma header_changeAll (t : Transaction) (changes : List Change) : (t.changeAll changes).header
    = (changes.filterMap Change.onHeader?).foldl (fun header f => f header) t.header := by
  refine view_changeAll (fun change t => ?_) t changes
  cases change <;> rfl

lemma actions?_changeAll (t : Transaction) (changes : List Change) : (t.changeAll changes).actions?
    = (changes.filterMap Change.onActions?).foldl (fun list? f => f list?) t.actions? := by
  refine view_changeAll (fun change t => ?_) t changes
  cases change <;> rfl

/-- Items put behind a list one by one follow it in their order. -/
lemma foldl_concat {α : Type} (front items : List α) :
    items.foldl (fun front item => front ++ [item]) front = front ++ items := by
  induction items generalizing front with
  | nil => exact (List.append_nil front).symm
  | cons item items ih => rw [List.foldl_cons, ih, List.append_assoc, List.singleton_append]

lemma contextFreeActions_changeAll (t : Transaction) (changes : List Change) :
    (t.changeAll changes).contextFreeActions
      = t.contextFreeActions ++ changes.filterMap Change.contextFreeAction? := by
  rw [← foldl_concat]
  refine view_changeAll (fun change t => ?_) t changes
  cases change <;> rfl

lemma extensions_changeAll (t : Transaction) (changes : List Change) :
    (t.changeAll changes).extensions = t.extensions ++ changes.filterMap Change.extension? := by
  rw [← foldl_concat]
  refine view_changeAll (fun change t => ?_) t changes
  cases change <;> rfl

/-! ### Changes part by part -/

/-- A change acts on its own part only. -/
lemma Change.part_of_isSome (change : Change) :
    (change.onHeader?.isSome = true → change.part = .header)
    ∧ (change.onActions?.isSome = true → change.part = .actions)
    ∧ (change.contextFreeAction?.isSome = true → change.part = .contextFreeActions)
    ∧ (change.extension?.isSome = true → change.part = .extensions) := by
  cases change <;> simp [onHeader?, onActions?, contextFreeAction?, extension?, part]

/-- What acts on a part is found among the changes to it. -/
lemma filterMap_filter_part {β : Type} {f : Change → Option β} {part : Part}
    (h : ∀ change, (f change).isSome = true → change.part = part) (changes : List Change) :
    (changes.filter fun change => change.part = part).filterMap f = changes.filterMap f :=
  filterMap_filter_of_isSome (fun change hsome => decide_eq_true (h change hsome)) changes

/-- Changes that are the same part by part come to the same. -/
lemma changeAll_congr {changes other : List Change} (t : Transaction) (h : ∀ part : Part,
    (other.filter fun change => change.part = part)
      = changes.filter fun change => change.part = part) :
    t.changeAll other = t.changeAll changes := by
  have hsame {β : Type} {f : Change → Option β} {part : Part}
      (hf : ∀ change, (f change).isSome = true → change.part = part) :
      other.filterMap f = changes.filterMap f := by
    rw [← filterMap_filter_part hf, h part, filterMap_filter_part hf]
  have hheader : (t.changeAll other).header = (t.changeAll changes).header := by
    rw [header_changeAll, header_changeAll, hsame fun change => change.part_of_isSome.1]
  have hactions : (t.changeAll other).actions? = (t.changeAll changes).actions? := by
    rw [actions?_changeAll, actions?_changeAll, hsame fun change => change.part_of_isSome.2.1]
  have hfree : (t.changeAll other).contextFreeActions
      = (t.changeAll changes).contextFreeActions := by
    rw [contextFreeActions_changeAll, contextFreeActions_changeAll,
      hsame fun change => change.part_of_isSome.2.2.1]
  have hextensions : (t.changeAll other).extensions = (t.changeAll changes).extensions := by
    rw [extensions_changeAll, extensions_changeAll,
      hsame fun change => change.part_of_isSome.2.2.2]
  cases hother : t.changeAll other
  cases hchanges : t.changeAll changes
  simp_all

/-- Adding actions one by one appends them, to no list as to the empty one. -/
lemma getD_foldl_add (list? : Option (List Action)) (actions : List Action) :
    (actions.foldl (fun list? action => some (list?.getD [] ++ [action])) list?).getD []
      = list?.getD [] ++ actions := by
  induction actions generalizing list? with
  | nil => exact (List.append_nil _).symm
  | cons action actions ih =>
      rw [List.foldl_cons, ih, Option.getD_some, List.append_assoc, List.singleton_append]

/-- Where actions are only added, the list has them in the order in which they were. -/
lemma actions_changeAll_of_added {actions : List Action} {changes : List Change} (t : Transaction)
    (h : (changes.filter fun change => change.part = .actions) = actions.map .addAction) :
    (t.changeAll changes).actions = t.actions ++ actions := by
  let push (action : Action) (list? : Option (List Action)) := some (list?.getD [] ++ [action])
  have hpush : Change.onActions? ∘ Change.addAction = some ∘ push := rfl
  have hchanges : changes.filterMap Change.onActions? = actions.map push := by
    rw [← filterMap_filter_part fun change => change.part_of_isSome.2.1, h, List.filterMap_map,
      hpush, List.filterMap_eq_map]
  rw [Transaction.actions, actions?_changeAll, hchanges, List.foldl_map, Transaction.actions]
  exact getD_foldl_add t.actions? actions

/-! ### Packed sections -/

/-- The actions stand behind the header and the context-free actions: their number, then each as it
is packed by itself. -/
lemma exists_sections {t : Transaction} {charset : Charset} {data : List UInt8}
    (h : (pack t).output charset = .ok data) : ∃ front packed back,
      data = front ++ (Varint.encode t.actions.length ++ packed.flatten) ++ back
      ∧ (pack t.header >>= fun _ => Put.collection (some t.contextFreeActions)).output charset
        = .ok front
      ∧ List.Forall₂ (fun action bytes => (pack action).output charset = .ok bytes) t.actions packed
      ∧ (Put.collection (some t.extensions)).output charset = .ok back := by
  let front : Layout := t.header.elements ++ Layout.counted Action.elements t.contextFreeActions
  have hfrontLays : (pack t.header >>= fun _ =>
      Put.collection (some t.contextFreeActions)).Lays front :=
    (pack_lays t.header).bind (Put.lays_collection _)
  have hbackLays := Put.lays_collection (some t.extensions)
  have hsplit : t.elements = (front ++ Layout.counted Action.elements t.actions)
      ++ Layout.counted layoutOf t.extensions := rfl
  obtain ⟨hnone, hwritten⟩ := t.pack_transaction_lays.output_eq_ok_iff.mp h
  rw [Layout.refusal?_block] at hnone
  rw [Layout.written_block, if_pos hnone, hsplit] at hwritten
  rw [hsplit, Layout.refusal?_append, Option.or_eq_none_iff] at hnone
  obtain ⟨hboth, hback⟩ := hnone
  rw [Layout.written_append_of_none hboth] at hwritten
  rw [Layout.refusal?_append, Option.or_eq_none_iff] at hboth
  obtain ⟨hfront, hactions⟩ := hboth
  rw [Layout.written_append_of_none hfront] at hwritten
  have heach : ∀ action ∈ t.actions, action.elements.refusal? charset = none := by
    rw [Layout.counted, Layout.refusal?_bytes_cons] at hactions
    exact refusal?_flatMap_eq_none_iff.mp hactions
  refine ⟨front.written charset, t.actions.map fun action => action.elements.written charset, _, ?_,
    hfrontLays.output_eq_ok_iff.mpr ⟨hfront, rfl⟩, ?_, hbackLays.output_eq_ok_iff.mpr ⟨hback, rfl⟩⟩
  · rw [← hwritten, written_counted (fun _ _ => rfl) hactions, countedWire, List.flatMap_def]
    rfl
  · rw [List.forall₂_map_right_iff, List.forall₂_same]
    intro action haction
    exact (pack_lays action).output_eq_ok_iff.mpr ⟨heach action haction, rfl⟩

/-- How far the actions are from the start, in UTF-8. -/
lemma length_front {t : Transaction} {front : List UInt8}
    (h : (pack t.header >>= fun _ => Put.collection (some t.contextFreeActions)).output .utf8
      = .ok front) :
    front.length = packedSize t.header + collectionSize (some t.contextFreeActions) := by
  have hlays := (pack_lays t.header).bind (Put.lays_collection (some t.contextFreeActions))
  obtain ⟨hnone, rfl⟩ := hlays.output_eq_ok_iff.mp h
  exact ((measures_layoutOf t.header).append (Layout.measures_counted t.contextFreeActions)) hnone

/-- In UTF-8 nothing but the expiration is in the way of packing. -/
lemma exists_packedBytes_iff (t : Transaction) :
    (∃ data, (packedBytes t).value = .ok data) ↔ t.header.ExpirationFits := by
  have hutf8 : ∀ text ∈ t.texts, ∃ data, Charset.utf8.encode text = .ok data :=
    fun text _ => ⟨_, Charset.encode_utf8 text⟩
  simp only [Put.value_packedBytes, t.pack_transaction_lays.output_eq_ok_iff,
    Layout.refusal?_block, refusal?_elements_eq_none_iff, and_iff_left hutf8, exists_and_left,
    exists_eq', and_true]

end Transaction

/-! ### The outcome of a run -/

/-- **Changes to different parts of a transaction commute, and lists keep their order.** However
the changes are interleaved, the header is what the changes to it make of the one at first, the list
of actions is what the changes to it make of no list, and context-free actions and extensions stand
in the order in which they were added. So runs whose changes are the same part by part come to the
same transaction, with the same text, size and bytes. If actions were only added, their section of
the packed bytes is their number and then each as it is packed by itself, in the order in which they
were added, behind the header and the context-free actions. Edits are such changes. -/
theorem edits_of_parts_commute (header : Header) (changes : List Transaction.Change) :
    let start : Transaction := { header }
    let final := start.changeAll changes
    (final.header = (changes.filterMap Transaction.Change.onHeader?).foldl
        (fun header f => f header) header
      ∧ final.actions? = (changes.filterMap Transaction.Change.onActions?).foldl
        (fun list? f => f list?) none
      ∧ final.contextFreeActions = changes.filterMap Transaction.Change.contextFreeAction?
      ∧ final.extensions = changes.filterMap Transaction.Change.extension?)
    ∧ (∀ other : List Transaction.Change,
      (∀ part : Transaction.Part, (other.filter fun change => change.part = part)
        = changes.filter fun change => change.part = part) →
      let same := start.changeAll other
      same = final ∧ same.toJson.text = final.toJson.text ∧ packedSize same = packedSize final
        ∧ packedBytes same = packedBytes final)
    ∧ (∀ actions : List Action,
      (changes.filter fun change => change.part = .actions) = actions.map .addAction →
      ((∃ data, (packedBytes final).value = .ok data) ↔ final.header.ExpirationFits)
      ∧ ∀ (charset : Charset) (data : List UInt8), (pack final).output charset = .ok data →
        ∃ front packed back,
        data = front ++ (Varint.encode actions.length ++ packed.flatten) ++ back
        ∧ (pack final.header >>= fun _ =>
            Put.collection (some final.contextFreeActions)).output charset = .ok front
        ∧ List.Forall₂ (fun action bytes => (pack action).output charset = .ok bytes) actions packed
        ∧ (Put.collection (some final.extensions)).output charset = .ok back
        ∧ (charset = .utf8 → front.length
          = packedSize final.header + collectionSize (some final.contextFreeActions)))
    ∧ ∀ edits : List Transaction.Edit,
      start.edit edits = start.changeAll (edits.map Transaction.Edit.change) := by
  intro start final
  refine ⟨⟨start.header_changeAll changes, start.actions?_changeAll changes,
    start.contextFreeActions_changeAll changes, start.extensions_changeAll changes⟩,
    fun other hother => ?_, fun actions hadded => ?_, start.edit_eq_changeAll⟩
  · have hsame : start.changeAll other = final := start.changeAll_congr hother
    dsimp only
    rw [hsame]
    exact ⟨rfl, rfl, rfl, rfl⟩
  · have hactions : final.actions = actions := start.actions_changeAll_of_added hadded
    refine ⟨final.exists_packedBytes_iff, fun charset data hdata => ?_⟩
    obtain ⟨front, packed, back, hsplit, hfront, hpacked, hback⟩ :=
      Transaction.exists_sections hdata
    rw [hactions] at hsplit hpacked
    refine ⟨front, packed, back, hsplit, hfront, hpacked, hback, ?_⟩
    rintro rfl
    exact Transaction.length_front hfront

/-- Two actions, with changes to the other parts in between or all at the start. -/
theorem edits_of_parts_commute_two_actions :
    let first : Action := { account := "a", name := "b" }
    let second : Action := { account := "c", name := "d", data := [1] }
    let free : Action := { account := "e", name := "f" }
    let delay (header : Header) : Header := { header with delaySec := 1 }
    let reserved : Extension := { kind := 3, data := [4] }
    let final := Transaction.changeAll { header := {} }
      [.addAction first, .header delay, .addContextFreeAction free, .addAction second,
        .addExtension reserved]
    Transaction.changeAll { header := {} }
        [.addExtension reserved, .addContextFreeAction free, .header delay, .addAction first,
          .addAction second] = final
    ∧ ∃ front one two back, (packedBytes final).value = .ok (front ++ 2 :: (one ++ two) ++ back)
      ∧ front.length = 20 ∧ (packedBytes first).value = .ok one
      ∧ (packedBytes second).value = .ok two := by
  intro first second free delay reserved final
  obtain ⟨-, hsame, hadded, -⟩ := edits_of_parts_commute {}
    [.addAction first, .header delay, .addContextFreeAction free, .addAction second,
      .addExtension reserved]
  obtain ⟨hpacks, hsections⟩ := hadded [first, second] rfl
  obtain ⟨data, hdata⟩ := hpacks.mpr ⟨by decide, by decide⟩
  obtain ⟨front, packed, back, rfl, -, hpacked, -, hlength⟩ := hsections .utf8 data hdata
  refine ⟨(hsame _ fun part => by cases part <;> rfl).1, ?_⟩
  obtain ⟨one, rest, hone, hrest, rfl⟩ := List.forall₂_cons_left_iff.mp hpacked
  obtain ⟨two, none, htwo, hnone, rfl⟩ := List.forall₂_cons_left_iff.mp hrest
  obtain rfl := List.forall₂_nil_left_iff.mp hnone
  refine ⟨front, one, two, back, ?_, (hlength rfl).trans (by decide), hone, htwo⟩
  have hnumber : Varint.encode [first, second].length = [2] := Varint.encode_of_lt (by decide)
  rw [hdata, hnumber]
  simp

end TxWire
