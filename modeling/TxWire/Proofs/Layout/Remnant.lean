import TxWire.Proofs.Layout.Outcome

/-!
What a failure leaves in the writer where packing is not all or nothing.

* `Layout.Stops`: writing a layout stops at a refusal, with some bytes written by then. The lemmas
  `stops_…_iff` say where rows, strings, lists and blocks stop.
* `PermissionLevel.Stops`, `Action.Stops`, `Header.Stops`, `Transaction.Stops`, `ListStops`: the
  places where packing a value or a list can stop, written down without a writer.
* `Put.on_bind_congr`: what comes after a failure makes no difference, in the log neither;
  `forM_pack_unvisited` says so of lists. `Put.collection_value_eq_error_iff` is the law for lists
  of any kind, also one of which the layout is not known.
* `Remnant`: a failed packing leaves what these say, of one value and of a list;
  `failed_pack_leaves` is the law for every kind.
-/

namespace TxWire

/-! ### Layouts that stop -/

namespace Layout

variable {charset : Charset} {l m : Layout} {left : List UInt8} {e : PackError}

/-- Writing a layout stops with an error, and these bytes have been written by then. -/
def Stops (charset : Charset) (l : Layout) (left : List UInt8) (e : PackError) : Prop :=
  l.refusal? charset = some e ∧ l.written charset = left

/-- A row stops in the first part, or in the second with the first written as a whole. -/
lemma stops_append_iff : Stops charset (l ++ m) left e ↔ Stops charset l left e ∨
    refusal? charset l = none ∧ ∃ part, Stops charset m part e ∧
      left = written charset l ++ part := by
  rw [Stops, Stops, refusal?_append, written_append]
  cases h : refusal? charset l with
  | none =>
      rw [Option.none_or, if_pos rfl]
      constructor
      · rintro ⟨hm, rfl⟩
        exact .inr ⟨rfl, _, ⟨hm, rfl⟩, rfl⟩
      · rintro (⟨hl, -⟩ | ⟨-, part, ⟨hm, rfl⟩, rfl⟩)
        · exact absurd hl (by simp)
        · exact ⟨hm, rfl⟩
  | some e' =>
      rw [Option.some_or, if_neg (by simp), List.append_nil]
      constructor
      · exact .inl
      · rintro (hl | ⟨hnone, -⟩)
        · exact hl
        · exact absurd hnone (by simp)

lemma not_stops_bytes {data : List UInt8} : ¬ Stops charset [.bytes data] left e :=
  fun h => absurd h.1 (by simp)

lemma stops_bytes_cons_iff {data : List UInt8} : Stops charset (.bytes data :: l) left e ↔
    ∃ part, Stops charset l part e ∧ left = data ++ part := by
  rw [← List.singleton_append, stops_append_iff, or_iff_right not_stops_bytes]
  simp

/-- A block leaves nothing. -/
lemma stops_block_iff :
    Stops charset [block l] left e ↔ refusal? charset l = some e ∧ left = [] := by
  rw [Stops, refusal?_block, written_block]
  refine and_congr_right fun h => ?_
  rw [if_neg (by simp [h]), eq_comm]

/-- A list stops at its first element that does. -/
lemma stops_flatMap_iff {α : Type} {layoutOf : α → Layout} {items : List α} :
    Stops charset (items.flatMap layoutOf) left e ↔ ∃ before item later part,
      items = before ++ item :: later ∧ (∀ x ∈ before, (layoutOf x).refusal? charset = none)
      ∧ Stops charset (layoutOf item) part e
      ∧ left = written charset (before.flatMap layoutOf) ++ part := by
  induction items generalizing left with
  | nil => simp [Stops]
  | cons x items ih =>
      rw [List.flatMap_cons, stops_append_iff]
      constructor
      · rintro (hx | ⟨hx, part, hitems, rfl⟩)
        · exact ⟨[], x, items, left, rfl, by simp, hx, rfl⟩
        · obtain ⟨before, item, later, rest, rfl, hbefore, hitem, rfl⟩ := ih.mp hitems
          refine ⟨x :: before, item, later, rest, rfl, List.forall_mem_cons.mpr ⟨hx, hbefore⟩,
            hitem, ?_⟩
          rw [List.flatMap_cons, written_append_of_none hx, List.append_assoc]
      · rintro ⟨before, item, later, part, hsplit, hbefore, hitem, rfl⟩
        cases before with
        | nil =>
            obtain ⟨rfl, rfl⟩ := List.cons.inj hsplit
            exact .inl hitem
        | cons y before =>
            obtain ⟨rfl, rfl⟩ := List.cons.inj hsplit
            obtain ⟨hy, hbefore⟩ := List.forall_mem_cons.mp hbefore
            refine .inr ⟨hy, _, ih.mpr ⟨before, item, later, part, rfl, hbefore, hitem, rfl⟩, ?_⟩
            rw [List.flatMap_cons, written_append_of_none hy, List.append_assoc]

end Layout

/-- A computation that lays out a layout fails where that stops. -/
lemma Put.Lays.value_eq_error_iff {p : Put Unit} {l : Layout} (hp : p.Lays l) {w after : Writer}
    {e : PackError} : (p.on w).value = (.error e, after) ↔
      ∃ left, l.Stops w.charset left e ∧ after = { w with bytes := w.bytes ++ left } := by
  rw [hp, Layout.result, Prod.mk.injEq]
  cases h : l.refusal? w.charset with
  | none => simp [Layout.Stops, h]
  | some e' =>
      rw [Except.error.injEq]
      constructor
      · rintro ⟨rfl, rfl⟩
        exact ⟨_, ⟨h, rfl⟩, rfl⟩
      · rintro ⟨left, ⟨he, rfl⟩, rfl⟩
        exact ⟨Option.some.inj (h.symm.trans he), rfl⟩

/-! ### Where packing stops -/

/-- A charset lacks a string, and this is the error that tells. -/
def Charset.Lacks (charset : Charset) (text : String) (e : PackError) : Prop :=
  ∃ fault, charset.encode text = .error fault ∧ e = .charset charset fault

/-- A charset has a string. -/
def Charset.Has (charset : Charset) (text : String) : Prop :=
  ∃ data, charset.encode text = .ok data

/-- Packing a list stops at the first element that cannot be packed. By then there is the number
of all elements, the elements in front as a whole, and of this one what is written before it
stops. -/
inductive ListStops {α : Type} [Packable α] (wire : Charset → α → List UInt8)
    (Stops : Charset → α → List UInt8 → PackError → Prop) (charset : Charset) (items : List α) :
    List UInt8 → PackError → Prop
  | at {before later : List α} {item : α} {part : List UInt8} {e : PackError}
      (items_eq : items = before ++ item :: later)
      (packed : ∀ x ∈ before, (pack x).output charset = .ok (wire charset x))
      (stops : Stops charset item part e) :
      ListStops wire Stops charset items
        (Varint.encode items.length ++ before.flatMap (wire charset) ++ part) e

/-- A string is looked at as a whole before its length is written. -/
def TextStops (charset : Charset) (text : String) (left : List UInt8) (e : PackError) : Prop :=
  charset.Lacks text e ∧ left = []

/-- Packing a permission level stops at one of its strings. -/
inductive PermissionLevel.Stops (charset : Charset) (level : PermissionLevel) :
    List UInt8 → PackError → Prop
  | actor {e : PackError} (h : charset.Lacks level.actor e) : Stops charset level [] e
  | permission {e : PackError} (actor : charset.Has level.actor)
      (h : charset.Lacks level.permission e) : Stops charset level (charset.wire level.actor) e

/-- Packing an action stops at one of its names or in the list of those that authorize it. -/
inductive Action.Stops (charset : Charset) (action : Action) : List UInt8 → PackError → Prop
  | account {e : PackError} (h : charset.Lacks action.account e) : Stops charset action [] e
  | name {e : PackError} (account : charset.Has action.account)
      (h : charset.Lacks action.name e) : Stops charset action (charset.wire action.account) e
  | authorization {left : List UInt8} {e : PackError} (account : charset.Has action.account)
      (name : charset.Has action.name)
      (h : ListStops PermissionLevel.wire PermissionLevel.Stops charset action.authorization
        left e) :
      Stops charset action (charset.wire action.account ++ charset.wire action.name ++ left) e

/-- Nothing stops the packing of an extension. -/
inductive Extension.Stops (charset : Charset) (extension : Extension) :
    List UInt8 → PackError → Prop

/-- Packing a header stops at its expiration, before anything is written. -/
inductive Header.Stops (charset : Charset) (header : Header) : List UInt8 → PackError → Prop
  | expiration (h : ¬ header.ExpirationFits) :
      Stops charset header [] (.unpackable (.expiration header.expiration))

/-- Packing a transaction stops at its expiration or at a string, and leaves nothing. -/
inductive Transaction.Stops (charset : Charset) (t : Transaction) : List UInt8 → PackError → Prop
  | expiration (h : ¬ t.header.ExpirationFits) :
      Stops charset t [] (.unpackable (.expiration t.header.expiration))
  | text {before later : List String} {text : String} {e : PackError}
      (fits : t.header.ExpirationFits) (texts_eq : t.texts = before ++ text :: later)
      (earlier : ∀ s ∈ before, charset.Has s) (h : charset.Lacks text e) : Stops charset t [] e

/-! ### Layouts and values -/

section Kinds

variable {charset : Charset} {left : List UInt8} {e : PackError}

lemma refusal?_text_eq_some_iff {text : String} :
    Layout.refusal? charset [.text text] = some e ↔ charset.Lacks text e := by
  cases h : charset.encode text with
  | ok data =>
      rw [Layout.refusal?_cons_ok (Element.text_of_ok h), Charset.Lacks]
      simp [h]
  | error fault =>
      rw [Layout.refusal?_cons_error (Element.text_of_error h), Charset.Lacks]
      simp [h, eq_comm]

lemma stops_text_iff {text : String} :
    Layout.Stops charset [.text text] left e ↔ TextStops charset text left e := by
  rw [Layout.Stops, refusal?_text_eq_some_iff, TextStops, eq_comm]
  refine and_congr_right fun ⟨fault, hfault, _⟩ => ?_
  rw [Layout.written_cons_error (Element.text_of_error hfault)]

/-- A list stops where its layout does. -/
lemma stops_counted_iff {α : Type} [Packable α] [HasLayout α]
    {wire : Charset → α → List UInt8} {Stops : Charset → α → List UInt8 → PackError → Prop}
    (hwire : ∀ x : α, (layoutOf x).refusal? charset = none →
      (layoutOf x).written charset = wire charset x)
    (hstops : ∀ (x : α) (part : List UInt8),
      (layoutOf x).Stops charset part e ↔ Stops charset x part e)
    {items : List α} : Layout.Stops charset (Layout.counted layoutOf items) left e ↔
      ListStops wire Stops charset items left e := by
  have hpacked : ∀ x : α, (layoutOf x).refusal? charset = none ↔
      (pack x).output charset = .ok (wire charset x) := fun x => by
    rw [(pack_lays x).output_eq_ok_iff]
    exact ⟨fun h => ⟨h, hwire x h⟩, And.left⟩
  rw [Layout.counted, Layout.stops_bytes_cons_iff]
  constructor
  · rintro ⟨part, hpart, rfl⟩
    obtain ⟨before, item, later, part, hsplit, hbefore, hitem, rfl⟩ :=
      Layout.stops_flatMap_iff.mp hpart
    rw [written_flatMap hwire hbefore, ← List.append_assoc]
    exact .at hsplit (fun x hx => (hpacked x).mp (hbefore x hx)) ((hstops item part).mp hitem)
  · rintro @⟨before, later, item, part, _, hsplit, hbefore, hitem⟩
    have hbefore : ∀ x ∈ before, (layoutOf x).refusal? charset = none :=
      fun x hx => (hpacked x).mpr (hbefore x hx)
    refine ⟨_, Layout.stops_flatMap_iff.mpr ⟨before, item, later, part, hsplit, hbefore,
      (hstops item part).mpr hitem, rfl⟩, ?_⟩
    rw [written_flatMap hwire hbefore, List.append_assoc]

lemma PermissionLevel.stops_elements_iff (level : PermissionLevel) :
    level.elements.Stops charset left e ↔ level.Stops charset left e := by
  have hsplit : level.elements = [.text level.actor] ++ [.text level.permission] := rfl
  rw [hsplit, Layout.stops_append_iff, stops_text_iff, Layout.refusal?_text_eq_none_iff,
    written_text]
  constructor
  · rintro (⟨h, rfl⟩ | ⟨hactor, part, hpart, rfl⟩)
    · exact .actor h
    · obtain ⟨h, rfl⟩ := stops_text_iff.mp hpart
      rw [List.append_nil]
      exact .permission hactor h
  · rintro (h | ⟨hactor, h⟩)
    · exact .inl ⟨h, rfl⟩
    · exact .inr ⟨hactor, [], stops_text_iff.mpr ⟨h, rfl⟩, (List.append_nil _).symm⟩

lemma Action.stops_elements_iff (action : Action) :
    action.elements.Stops charset left e ↔ action.Stops charset left e := by
  have hsplit : action.elements = [.text action.account] ++ ([.text action.name]
      ++ (Layout.counted PermissionLevel.elements action.authorization
      ++ [.bytes (Varint.encode action.data.length), .bytes action.data])) := rfl
  have hlist : ∀ part : List UInt8,
      Layout.Stops charset (Layout.counted PermissionLevel.elements action.authorization) part e ↔
        ListStops PermissionLevel.wire PermissionLevel.Stops charset action.authorization part e :=
    fun part => stops_counted_iff (fun _ => PermissionLevel.written_elements)
      fun level _ => level.stops_elements_iff
  have hdata : ∀ part : List UInt8, ¬ Layout.Stops charset
      [.bytes (Varint.encode action.data.length), .bytes action.data] part e :=
    fun part h => absurd h.1 (by simp)
  rw [hsplit, Layout.stops_append_iff, stops_text_iff, Layout.refusal?_text_eq_none_iff,
    written_text]
  constructor
  · rintro (⟨h, rfl⟩ | ⟨haccount, part, hpart, rfl⟩)
    · exact .account h
    rw [Layout.stops_append_iff, stops_text_iff, Layout.refusal?_text_eq_none_iff,
      written_text] at hpart
    obtain ⟨h, rfl⟩ | ⟨hname, part, hpart, rfl⟩ := hpart
    · rw [List.append_nil]
      exact .name haccount h
    obtain h | ⟨-, part, h, -⟩ := Layout.stops_append_iff.mp hpart
    · rw [← List.append_assoc]
      exact .authorization haccount hname ((hlist part).mp h)
    · exact absurd h (hdata part)
  · rintro (h | ⟨haccount, h⟩ | ⟨haccount, hname, h⟩)
    · exact .inl ⟨h, rfl⟩
    · refine .inr ⟨haccount, [], ?_, (List.append_nil _).symm⟩
      exact Layout.stops_append_iff.mpr (.inl (stops_text_iff.mpr ⟨h, rfl⟩))
    · refine .inr ⟨haccount, _, ?_, List.append_assoc _ _ _⟩
      rw [Layout.stops_append_iff, Layout.refusal?_text_eq_none_iff, written_text]
      exact .inr ⟨hname, _, Layout.stops_append_iff.mpr (.inl ((hlist _).mpr h)), rfl⟩

lemma Extension.stops_elements_iff (extension : Extension) :
    extension.elements.Stops charset left e ↔ extension.Stops charset left e :=
  iff_of_false (fun h => absurd h.1 (by simp [elements])) nofun

lemma Header.stops_elements_iff (header : Header) :
    header.elements.Stops charset left e ↔ header.Stops charset left e := by
  by_cases hfits : header.ExpirationFits
  · refine iff_of_false (fun h => ?_) fun ⟨h⟩ => h hfits
    rw [Layout.Stops, refusal?_elements_of_fits hfits] at h
    exact absurd h.1 (by simp)
  · rw [Layout.Stops, refusal?_elements_of_not_fits hfits, elements,
      Layout.written_cons_error (expirationElement_of_not_fits hfits charset), Option.some.injEq]
    constructor
    · rintro ⟨rfl, rfl⟩
      exact .expiration hfits
    · rintro ⟨-⟩
      exact ⟨rfl, rfl⟩

lemma Transaction.stops_elements_iff (t : Transaction) :
    Layout.Stops charset [Layout.block t.elements] left e ↔ t.Stops charset left e := by
  rw [Layout.stops_block_iff]
  by_cases hfits : t.header.ExpirationFits
  · rw [refusal?_elements_of_fits hfits]
    constructor
    · rintro ⟨h, rfl⟩
      obtain ⟨before, text, later, fault, hsplit, hbefore, htext, rfl⟩ :=
        exists_first_of_refusal?_texts h
      exact .text hfits hsplit hbefore ⟨fault, htext, rfl⟩
    · rintro (h | @⟨before, later, text, e, -, hsplit, hbefore, h⟩)
      · exact absurd hfits h
      · have hfirst : Layout.refusal? charset (before.map .text) = none :=
          refusal?_texts_eq_none_iff.mpr hbefore
        obtain ⟨fault, hfault, rfl⟩ := h
        rw [hsplit, List.map_append, Layout.refusal?_append, hfirst, Option.none_or, List.map_cons,
          Layout.refusal?_cons_error (Element.text_of_error hfault)]
        exact ⟨rfl, rfl⟩
  · rw [refusal?_elements_of_not_fits hfits, Option.some.injEq]
    constructor
    · rintro ⟨rfl, rfl⟩
      exact .expiration hfits
    · rintro (h | ⟨h, -⟩)
      · exact ⟨rfl, rfl⟩
      · exact absurd h hfits

end Kinds

/-! ### What comes after a failure -/

/-- Only after a success does it matter, to the outcome and to the log, what comes next. -/
lemma Put.on_bind_congr {p q q' : Put Unit} {w : Writer}
    (h : ∀ next, (p.on w).value = (.ok (), next) → q.on next = q'.on next) :
    (p >>= fun _ => q).on w = (p >>= fun _ => q').on w := by
  simp only [on, ExceptT.run_bind, StateT.run_bind]
  refine Logged.bind_congr_value ?_
  rcases hrun : ((ExceptT.run p).run w).value with ⟨e | ⟨⟩, next⟩
  · rfl
  · exact h next hrun

/-- Behind an element that cannot be packed nothing is visited. -/
lemma forM_pack_unvisited {α : Type} [Packable α] [HasLayout α] {before later later' : List α}
    {x : α} {w : Writer} {e : PackError} (hx : (pack x).output w.charset = .error e) :
    ((before ++ x :: later).forM pack).on w = ((before ++ x :: later').forM pack).on w := by
  induction before generalizing w with
  | nil =>
      refine Put.on_bind_congr fun next hnext => ?_
      rw [pack_lays, Prod.mk.injEq, Layout.result_eq_ok_iff] at hnext
      have hok := (pack_lays x).output_eq_ok_iff.mpr ⟨hnext.1, rfl⟩
      rw [hx] at hok
      exact absurd hok (by simp)
  | cons y before ih =>
      refine Put.on_bind_congr fun next hnext => ih ?_
      rw [pack_lays, Prod.mk.injEq] at hnext
      rw [← hnext.2, hx]

/-- Running over a list fails at the first element that fails, where the ones in front have led. -/
lemma forM_value_eq_error_iff {α : Type} {f : α → Put Unit} {items : List α} {w after : Writer}
    {e : PackError} : ((items.forM f).on w).value = (.error e, after) ↔
      ∃ before item later mid, items = before ++ item :: later
        ∧ ((before.forM f).on w).value = (.ok (), mid)
        ∧ ((f item).on mid).value = (.error e, after) := by
  have hcons : ∀ (x : α) (rest : List α),
      (x :: rest).forM f = f x >>= fun _ => rest.forM f := fun _ _ => rfl
  induction items generalizing w with
  | nil =>
      refine iff_of_false (fun h => ?_) fun ⟨before, item, later, _, h, _⟩ =>
        absurd h.symm (List.append_ne_nil_of_right_ne_nil before (List.cons_ne_nil item later))
      exact absurd (congrArg Prod.fst h) (by exact nofun)
  | cons x items ih =>
      rw [hcons, Put.value_on_bind]
      constructor
      · intro h
        rcases hx : ((f x).on w).value with ⟨e' | ⟨⟩, next⟩
        · rw [hx] at h
          exact ⟨[], x, items, w, rfl, rfl, hx.trans h⟩
        · rw [hx] at h
          obtain ⟨before, item, later, mid, rfl, hbefore, hitem⟩ := ih.mp h
          refine ⟨x :: before, item, later, mid, rfl, ?_, hitem⟩
          rw [hcons, Put.value_on_bind, hx]
          exact hbefore
      · rintro ⟨before, item, later, mid, hsplit, hbefore, hitem⟩
        cases before with
        | nil =>
            obtain ⟨rfl, rfl⟩ := List.cons.inj hsplit
            obtain rfl : w = mid := congrArg Prod.snd hbefore
            rw [hitem]
        | cons y before =>
            obtain ⟨rfl, rfl⟩ := List.cons.inj hsplit
            rw [hcons, Put.value_on_bind] at hbefore
            rcases hx : ((f x).on w).value with ⟨e' | ⟨⟩, next⟩
            · rw [hx] at hbefore
              exact absurd (congrArg Prod.fst hbefore) (by exact nofun)
            · rw [hx] at hbefore
              exact ih.mpr ⟨before, item, later, mid, rfl, hbefore, hitem⟩

lemma Put.collection_value_eq_error_iff {α : Type} [Packable α] {items : Option (List α)}
    {w after : Writer} {e : PackError} :
    ((collection items).on w).value = (.error e, after) ↔
      ∃ before item later mid, items.getD [] = before ++ item :: later
        ∧ ((before.forM pack).on
          { w with bytes := w.bytes ++ Varint.encode (items.getD []).length }).value = (.ok (), mid)
        ∧ ((pack item).on mid).value = (.error e, after) := by
  show ((varint (items.getD []).length >>= fun _ => (items.getD []).forM pack).on w).value = _ ↔ _
  rw [value_on_bind, varint, value_on_bytes]
  exact forM_value_eq_error_iff

/-! ### What is left -/

/-- What a failure leaves, of a kind of values: of one value what `Stops` says, of a list what
`ListStops` says. Whatever stands behind an element that cannot be packed, the outcome and the log
are the same. -/
structure Remnant (α : Type) [Packable α] (wire : Charset → α → List UInt8)
    (Stops : Charset → α → List UInt8 → PackError → Prop) : Prop where
  value (x : α) (w after : Writer) (e : PackError) :
    ((pack x).on w).value = (.error e, after) ↔
      ∃ left, Stops w.charset x left e ∧ after = { w with bytes := w.bytes ++ left }
  list (items : Option (List α)) (w after : Writer) (e : PackError) :
    ((Put.collection items).on w).value = (.error e, after) ↔
      ∃ left, ListStops wire Stops w.charset (items.getD []) left e
        ∧ after = { w with bytes := w.bytes ++ left }
  unvisited (before later later' : List α) (x : α) (w : Writer) (e : PackError) :
    (pack x).output w.charset = .error e → later.length = later'.length →
    (Put.collection (some (before ++ x :: later))).on w
      = (Put.collection (some (before ++ x :: later'))).on w

/-- The failures of a kind are those of its layout. -/
lemma remnant {α : Type} [Packable α] [HasLayout α] {wire : Charset → α → List UInt8}
    {Stops : Charset → α → List UInt8 → PackError → Prop}
    (hwire : ∀ (charset : Charset) (x : α), (layoutOf x).refusal? charset = none →
      (layoutOf x).written charset = wire charset x)
    (hstops : ∀ (charset : Charset) (e : PackError) (x : α) (left : List UInt8),
      (layoutOf x).Stops charset left e ↔ Stops charset x left e) : Remnant α wire Stops where
  value x w after e := by
    rw [(pack_lays x).value_eq_error_iff]
    exact exists_congr fun left => and_congr_left fun _ => hstops w.charset e x left
  list items w after e := by
    rw [(Put.lays_collection items).value_eq_error_iff]
    exact exists_congr fun left => and_congr_left fun _ =>
      stops_counted_iff (hwire w.charset) (hstops w.charset e)
  unvisited before later later' x w e hx hlength := by
    have hcount : (before ++ x :: later).length = (before ++ x :: later').length := by
      rw [List.length_append, List.length_append, List.length_cons, List.length_cons, hlength]
    show (Put.varint (before ++ x :: later).length >>= fun _ => _).on w = _
    rw [hcount]
    refine Put.on_bind_congr fun next hnext => forM_pack_unvisited (e := e) ?_
    rw [Put.varint, Put.value_on_bytes, Prod.mk.injEq] at hnext
    rw [← hnext.2, hx]

lemma Header.written_elements_of_refusal? {header : Header} {charset : Charset}
    (h : header.elements.refusal? charset = none) :
    header.elements.written charset = header.wire := by
  refine written_elements ?_
  by_contra hfits
  rw [refusal?_elements_of_not_fits hfits] at h
  exact absurd h (by simp)

lemma Transaction.written_block_elements {t : Transaction} {charset : Charset}
    (h : Layout.refusal? charset [Layout.block t.elements] = none) :
    Layout.written charset [Layout.block t.elements] = t.wire charset := by
  rw [Layout.refusal?_block] at h
  rw [Layout.written_block, if_pos h, written_elements (refusal?_elements_eq_none_iff.mp h).1 h]

/-- **What a failure leaves.** On every writer and for every kind of value, packing a value or a
list fails exactly where it can stop, with the error of the part that stops it, and leaves what
the writer held and then what had been written: the names in front within an action, the number
of all elements and all earlier elements within a list, nothing of the string itself, nothing at
all of a header or a transaction. Nothing behind that part is visited. Of any other kind, a list
leaves its number of elements, the earlier elements and what the failing one itself leaves. -/
theorem failed_pack_leaves :
    Remnant String Charset.wire TextStops
      ∧ Remnant PermissionLevel PermissionLevel.wire PermissionLevel.Stops
      ∧ Remnant Action Action.wire Action.Stops
      ∧ Remnant Extension (fun _ => Extension.wire) Extension.Stops
      ∧ Remnant Header (fun _ => Header.wire) Header.Stops
      ∧ Remnant Transaction Transaction.wire Transaction.Stops
      ∧ ∀ (α : Type) [Packable α] (items : Option (List α)) (w after : Writer) (e : PackError),
        ((Put.collection items).on w).value = (.error e, after) ↔
          ∃ (before : List α) (item : α) (later : List α) (mid : Writer),
            items.getD [] = before ++ item :: later
            ∧ ((before.forM pack).on
              { w with bytes := w.bytes ++ Varint.encode (items.getD []).length }).value
              = (.ok (), mid)
            ∧ ((pack item).on mid).value = (.error e, after) :=
  ⟨remnant (fun _ text _ => written_text text) fun _ _ _ _ => stops_text_iff,
    remnant (fun _ _ => PermissionLevel.written_elements)
      fun _ _ level _ => level.stops_elements_iff,
    remnant (fun _ _ => Action.written_elements) fun _ _ action _ => action.stops_elements_iff,
    remnant (fun _ extension _ => extension.written_elements)
      fun _ _ extension _ => extension.stops_elements_iff,
    remnant (fun _ _ => Header.written_elements_of_refusal?)
      fun _ _ header _ => header.stops_elements_iff,
    remnant (fun _ _ => Transaction.written_block_elements)
      fun _ _ t _ => t.stops_elements_iff,
    fun _ _ _ _ _ _ => Put.collection_value_eq_error_iff⟩

/-- Three actions, of which the second has a permission that Shift_JIS lacks: the number of the
actions is left, the first of them, and of the second all up to the actor. The third may be any. -/
theorem failed_pack_leaves_permission :
    let shiftJis : Charset := .multiByte .shiftJis (.asciiOnly _)
    let w : Writer := { bytes := [7], charset := shiftJis }
    let first : Action := { account := "a", name := "b" }
    let second : Action :=
      { account := "c", name := "d"
        authorization :=
          [{ actor := "e", permission := "f" }, { actor := "g", permission := "é" }] }
    let e : PackError := .charset shiftJis (.unmappable "é")
    ((Put.collection (some [first, second, first])).on w).value
      = (.error e, { w with bytes :=
          [7, 3, 1, 97, 1, 98, 0, 0, 1, 99, 1, 100, 2, 1, 101, 1, 102, 1, 103] })
      ∧ (Put.collection (some [first, second, first])).on w
        = (Put.collection (some [first, second, second])).on w := by
  intro shiftJis w first second e
  obtain ⟨-, -, haction, -⟩ := failed_pack_leaves
  have hlacks : shiftJis.Lacks "é" e := ⟨.unmappable "é", rfl, rfl⟩
  have hascii : ∀ text ∈ ["c", "d", "g"], ∃ data, shiftJis.encode text = .ok data :=
    refusal?_texts_eq_none_iff.mp (by decide +kernel)
  have hlevel : PermissionLevel.Stops shiftJis { actor := "g", permission := "é" }
      (shiftJis.wire "g") e := .permission (hascii _ (by decide)) hlacks
  have hpackedLevel : ∀ x ∈ [({ actor := "e", permission := "f" } : PermissionLevel)],
      (pack x).output shiftJis = .ok (x.wire shiftJis) :=
    List.forall_mem_singleton.mpr ((pack_lays _).output_eq_ok_iff.mpr (by decide +kernel))
  have hpackedAction : ∀ x ∈ [first], (pack x).output shiftJis = .ok (x.wire shiftJis) :=
    List.forall_mem_singleton.mpr ((pack_lays _).output_eq_ok_iff.mpr (by decide +kernel))
  have hsecond := Action.Stops.authorization (hascii second.account (by decide))
    (hascii second.name (by decide))
    (show ListStops _ _ shiftJis second.authorization _ e from .at rfl hpackedLevel hlevel)
  have hactions : ListStops _ _ shiftJis [first, second, first] _ e :=
    .at rfl hpackedAction hsecond
  have hvalue := (haction.list (some [first, second, first]) w _ e).mpr ⟨_, hactions, rfl⟩
  have hrefused := (haction.value second (Writer.empty shiftJis) _ e).mpr ⟨_, hsecond, rfl⟩
  refine ⟨hvalue.trans (congrArg (fun bytes => (_, { w with bytes })) (by decide +kernel)), ?_⟩
  refine haction.unvisited [first] [first] [second] second w e ?_ rfl
  rw [Put.output, hrefused]
  rfl

end TxWire
