import TxWire.Proofs.Layout.Kinds
import TxWire.Proofs.Varint

/-!
The wire format is prefix-free: the bytes of a value tell where they end, and determine all of
the value that the wire format carries.

* `Layout.PrefixFree`: in a charset the layouts of a family of values are a prefix-free code, and
  two values have the same code exactly if a relation holds between them. It is inherited by
  layouts in a row (`PrefixFree.append`), by lists (`PrefixFree.counted`) and by blocks.
* `PermissionLevel.SameContent`, `Action.SameContent`, `Header.SameContent`,
  `Transaction.SameContent`: values that agree on what the wire format carries. Strings agree if
  the charset writes them with the same bytes; `encode_utf8_inj` makes that equality for UTF-8.
* `pack_append_eq_iff`: the law for every kind of value and for lists of each kind.
-/

namespace TxWire

/-! ### Prefix-free layouts -/

namespace Layout

/-- The layouts of a family of values are a prefix-free code in a charset: as long as nothing is
refused, the code and the bytes behind it determine each other, and the code determines the value
up to `same`, no more and no less. -/
def PrefixFree {α : Type} (charset : Charset) (layout : α → Layout) (same : α → α → Prop) : Prop :=
  ∀ ⦃x y : α⦄, refusal? charset (layout x) = none → refusal? charset (layout y) = none →
    ∀ s t : List UInt8, written charset (layout x) ++ s = written charset (layout y) ++ t ↔
      same x y ∧ s = t

variable {α β : Type} {charset : Charset} {l m : α → Layout} {same same' : α → α → Prop}

lemma PrefixFree.comap (h : PrefixFree charset l same) (f : β → α) :
    PrefixFree charset (fun x => l (f x)) fun x y => same (f x) (f y) :=
  fun _ _ hx hy => h hx hy

lemma PrefixFree.congr (h : PrefixFree charset l same) (hs : ∀ x y, same x y ↔ same' x y) :
    PrefixFree charset l same' := by
  intro x y hx hy s t
  rw [h hx hy, hs]

/-- Layouts in a row: the first tells where the second starts. -/
lemma PrefixFree.append (hl : PrefixFree charset l same) (hm : PrefixFree charset m same') :
    PrefixFree charset (fun x => l x ++ m x) fun x y => same x y ∧ same' x y := by
  intro x y hx hy s t
  rw [refusal?_append, Option.or_eq_none_iff] at hx hy
  rw [written_append_of_none hx.1, written_append_of_none hy.1, List.append_assoc,
    List.append_assoc, hl hx.1 hy.1, hm hx.2 hy.2, and_assoc]

lemma PrefixFree.block (h : PrefixFree charset l same) :
    PrefixFree charset (fun x => [block (l x)]) same := by
  intro x y hx hy s t
  rw [refusal?_block] at hx hy
  rw [written_block, written_block, if_pos hx, if_pos hy]
  exact h hx hy s t

/-- With nothing behind it, the code says what the value is. -/
lemma PrefixFree.written_eq_iff (h : PrefixFree charset l same) {x y : α}
    (hx : refusal? charset (l x) = none) (hy : refusal? charset (l y) = none) :
    written charset (l x) = written charset (l y) ↔ same x y := by
  have hxy := h hx hy [] []
  rwa [List.append_nil, List.append_nil, and_iff_left rfl] at hxy

/-- A code for plain bytes. -/
lemma prefixFree_bytes {code : α → List UInt8}
    (h : ∀ x y s t, code x ++ s = code y ++ t ↔ same x y ∧ s = t) :
    PrefixFree charset (fun x => [.bytes (code x)]) same := by
  intro x y _ _ s t
  rw [written_bytes_cons, written_bytes_cons, written_nil, List.append_nil, List.append_nil]
  exact h x y s t

/-- Codes of one length need no mark where they end. -/
lemma append_eq_iff_of_length {a b s t : List UInt8} (h : a.length = b.length) :
    a ++ s = b ++ t ↔ a = b ∧ s = t :=
  ⟨fun he => List.append_inj he h, fun ⟨ha, hs⟩ => by rw [ha, hs]⟩

lemma prefixFree_varint (value : α → ℕ) :
    PrefixFree charset (fun x => [.bytes (Varint.encode (value x))]) fun x y => value x = value y :=
  prefixFree_bytes fun _ _ _ _ =>
    ⟨Varint.encode_append_inj, fun ⟨hn, hs⟩ => by rw [hn, hs]⟩

/-- Numbers of a fixed width, as long as they fit into it. -/
lemma littleEndian_append_eq_iff {width a b : ℕ} {s t : List UInt8} (ha : a < Nat.pow 256 width)
    (hb : b < Nat.pow 256 width) :
    littleEndian width a ++ s = littleEndian width b ++ t ↔ a = b ∧ s = t := by
  rw [append_eq_iff_of_length (by rw [length_littleEndian, length_littleEndian])]
  refine and_congr_left fun _ => ⟨fun h => ?_, fun h => by rw [h]⟩
  rw [← ofLittleEndian_littleEndian ha, h, ofLittleEndian_littleEndian hb]

lemma prefixFree_littleEndian {width : ℕ} {value : α → ℕ} (h : ∀ x, value x < Nat.pow 256 width) :
    PrefixFree charset (fun x => [.bytes (littleEndian width (value x))])
      fun x y => value x = value y :=
  prefixFree_bytes fun x y _ _ => littleEndian_append_eq_iff (h x) (h y)

/-- The length in front tells where the bytes end. -/
lemma varBytes_append_eq_iff {a b s t : List UInt8} :
    Varint.encode a.length ++ a ++ s = Varint.encode b.length ++ b ++ t ↔ a = b ∧ s = t := by
  refine ⟨fun h => ?_, fun ⟨ha, hs⟩ => by rw [ha, hs]⟩
  rw [List.append_assoc, List.append_assoc] at h
  obtain ⟨hlength, hrest⟩ := Varint.encode_append_inj h
  exact List.append_inj hrest hlength

lemma prefixFree_varBytes : PrefixFree charset
    (fun data : List UInt8 => [.bytes (Varint.encode data.length), .bytes data]) (· = ·) := by
  intro a b _ _ s t
  rw [written_bytes_cons, written_bytes_cons, written_bytes_cons, written_bytes_cons, written_nil,
    List.append_nil, List.append_nil]
  exact varBytes_append_eq_iff

lemma prefixFree_text : PrefixFree charset (fun text : String => [.text text])
    fun x y => charset.encode x = charset.encode y := by
  intro x y hx hy s t
  obtain ⟨a, ha⟩ := refusal?_text_eq_none_iff.mp hx
  obtain ⟨b, hb⟩ := refusal?_text_eq_none_iff.mp hy
  rw [written_text ha, written_text hb, varBytes_append_eq_iff]
  show _ ↔ charset.encode x = charset.encode y ∧ s = t
  rw [ha, hb, Except.ok.injEq]

/-- Two rows of as many layouts: by induction the first of each tell where the others start. -/
lemma PrefixFree.flatMap (h : PrefixFree charset l same) {xs ys : List α}
    (hlength : xs.length = ys.length) (hx : refusal? charset (xs.flatMap l) = none)
    (hy : refusal? charset (ys.flatMap l) = none) (s t : List UInt8) :
    written charset (xs.flatMap l) ++ s = written charset (ys.flatMap l) ++ t ↔
      List.Forall₂ same xs ys ∧ s = t := by
  induction xs generalizing ys with
  | nil =>
      rw [List.eq_nil_of_length_eq_zero hlength.symm]
      simp
  | cons x xs ih =>
      cases ys with
      | nil => exact absurd hlength (by simp)
      | cons y ys =>
          rw [List.flatMap_cons, refusal?_append, Option.or_eq_none_iff] at hx hy
          have hrest := ih (Nat.succ.inj hlength) hx.2 hy.2
          rw [List.flatMap_cons, List.flatMap_cons, written_append_of_none hx.1,
            written_append_of_none hy.1, List.append_assoc, List.append_assoc, h hx.1 hy.1,
            hrest, List.forall₂_cons, and_assoc]

/-- A list: the number in front tells how many elements follow. -/
lemma PrefixFree.counted (h : PrefixFree charset l same) :
    PrefixFree charset (counted l) (List.Forall₂ same) := by
  intro xs ys hx hy s t
  rw [Layout.counted, written_bytes_cons, Layout.counted, written_bytes_cons, List.append_assoc,
    List.append_assoc]
  refine ⟨fun he => ?_, fun ⟨hsame, hs⟩ => ?_⟩
  · obtain ⟨hlength, hrest⟩ := Varint.encode_append_inj he
    exact (h.flatMap hlength hx hy s t).mp hrest
  · rw [hsame.length_eq, (h.flatMap hsame.length_eq hx hy s t).mpr ⟨hsame, hs⟩]

end Layout

/-! ### What the wire format carries -/

/-- Permission levels that a charset writes alike. -/
def PermissionLevel.SameContent (charset : Charset) (l m : PermissionLevel) : Prop :=
  charset.encode l.actor = charset.encode m.actor
    ∧ charset.encode l.permission = charset.encode m.permission

/-- Actions that a charset writes alike. -/
def Action.SameContent (charset : Charset) (a b : Action) : Prop :=
  charset.encode a.account = charset.encode b.account
    ∧ charset.encode a.name = charset.encode b.name
    ∧ List.Forall₂ (PermissionLevel.SameContent charset) a.authorization b.authorization
    ∧ a.data = b.data

/-- Headers that agree, but for the part of a second in the expiration. -/
def Header.SameContent (h k : Header) : Prop :=
  h.expiration.seconds = k.expiration.seconds
    ∧ h.refBlockNum = k.refBlockNum
    ∧ h.refBlockPrefix = k.refBlockPrefix
    ∧ h.maxNetUsageWords = k.maxNetUsageWords
    ∧ h.maxCpuUsageMs = k.maxCpuUsageMs
    ∧ h.delaySec = k.delaySec

/-- Transactions that a charset writes alike. No list of actions is an empty list here. -/
def Transaction.SameContent (charset : Charset) (t u : Transaction) : Prop :=
  t.header.SameContent u.header
    ∧ List.Forall₂ (Action.SameContent charset) t.contextFreeActions u.contextFreeActions
    ∧ List.Forall₂ (Action.SameContent charset) t.actions u.actions
    ∧ t.extensions = u.extensions

section Kinds

variable (charset : Charset)

lemma PermissionLevel.prefixFree :
    Layout.PrefixFree charset PermissionLevel.elements (PermissionLevel.SameContent charset) :=
  (Layout.prefixFree_text.comap PermissionLevel.actor).append
    (Layout.prefixFree_text.comap PermissionLevel.permission)

lemma Action.prefixFree :
    Layout.PrefixFree charset Action.elements (Action.SameContent charset) :=
  (Layout.prefixFree_text.comap Action.account).append
    ((Layout.prefixFree_text.comap Action.name).append
      (((PermissionLevel.prefixFree charset).counted.comap Action.authorization).append
        (Layout.prefixFree_varBytes.comap Action.data)))

lemma Extension.prefixFree : Layout.PrefixFree charset Extension.elements (· = ·) := by
  have hdata : Layout.PrefixFree charset (fun e : Extension =>
      [.bytes (Varint.encode e.data.length), .bytes e.data]) fun e f => e.data = f.data :=
    Layout.prefixFree_varBytes.comap Extension.data
  have h := (Layout.prefixFree_varint fun e : Extension => e.kind.toNat).append hdata
  refine h.congr fun ⟨kind, data⟩ ⟨kind', data'⟩ => ?_
  rw [UInt16.toNat_inj, Extension.mk.injEq]

lemma Header.prefixFree_expiration :
    Layout.PrefixFree charset (fun h : Header => [h.expirationElement])
      fun h k => h.expiration.seconds = k.expiration.seconds := by
  intro h k hh hk s t
  have hlt : ∀ header : Header, header.ExpirationFits →
      header.expiration.seconds.toNat < Nat.pow 256 4 := by
    rintro header ⟨hlo, hhi⟩
    have hsize : (UInt32.size : ℤ) = 4294967296 := rfl
    have hpow : Nat.pow 256 4 = 4294967296 := rfl
    omega
  have hh := expirationFits_of_refusal? hh
  have hk := expirationFits_of_refusal? hk
  rw [written_expirationElement hh, written_expirationElement hk,
    Layout.littleEndian_append_eq_iff (hlt h hh) (hlt k hk)]
  show _ ↔ h.expiration.seconds = k.expiration.seconds ∧ s = t
  refine and_congr_left fun _ => ?_
  have hlo := hh.1
  have hlo' := hk.1
  omega

lemma Header.prefixFree : Layout.PrefixFree charset Header.elements Header.SameContent := by
  have hreference : Layout.PrefixFree charset (fun h : Header =>
      [.bytes (littleEndian 2 h.refBlockNum.toNat), .bytes (littleEndian 4 h.refBlockPrefix.toNat)])
      fun h k => h.refBlockNum.toNat = k.refBlockNum.toNat
        ∧ h.refBlockPrefix.toNat = k.refBlockPrefix.toNat :=
    (Layout.prefixFree_littleEndian fun h => h.refBlockNum.toNat_lt).append
      (Layout.prefixFree_littleEndian fun h => h.refBlockPrefix.toNat_lt)
  have hcpu : Layout.PrefixFree charset (fun h : Header => [.bytes [h.maxCpuUsageMs]])
      fun h k => h.maxCpuUsageMs = k.maxCpuUsageMs :=
    Layout.prefixFree_bytes fun _ _ _ _ => List.cons_eq_cons
  have hlimits := (Layout.prefixFree_varint fun h : Header => h.maxNetUsageWords.toNat).append
    (hcpu.append (Layout.prefixFree_varint fun h => h.delaySec.toNat))
  refine ((Header.prefixFree_expiration charset).append (hreference.append hlimits)).congr
    fun h k => ?_
  simp only [UInt16.toNat_inj, UInt32.toNat_inj, and_assoc, SameContent]

lemma Transaction.prefixFree :
    Layout.PrefixFree charset Transaction.elements (Transaction.SameContent charset) := by
  have hactions := (Action.prefixFree charset).counted
  have h := (((Header.prefixFree charset).comap Transaction.header).append
    (hactions.comap Transaction.contextFreeActions)).append (hactions.comap Transaction.actions)
  have hall := h.append ((Extension.prefixFree charset).counted.comap Transaction.extensions)
  refine hall.congr fun t u => ?_
  rw [List.forall₂_eq_eq_eq, and_assoc, and_assoc]
  rfl

end Kinds

/-! ### Content in UTF-8 -/

/-- UTF-8 keeps different strings apart. -/
lemma Charset.encode_utf8_inj {s t : String} : utf8.encode s = utf8.encode t ↔ s = t := by
  rw [encode_utf8, encode_utf8, Except.ok.injEq]
  exact ⟨utf8Bytes_injective, fun h => by rw [h]⟩

lemma PermissionLevel.sameContent_utf8 : PermissionLevel.SameContent .utf8 = Eq := by
  funext ⟨actor, permission⟩ ⟨actor', permission'⟩
  rw [SameContent, Charset.encode_utf8_inj, Charset.encode_utf8_inj, PermissionLevel.mk.injEq]

lemma Action.sameContent_utf8 : Action.SameContent .utf8 = Eq := by
  funext ⟨account, name, authorization, data⟩ ⟨account', name', authorization', data'⟩
  rw [SameContent, Charset.encode_utf8_inj, Charset.encode_utf8_inj,
    PermissionLevel.sameContent_utf8, List.forall₂_eq_eq_eq, Action.mk.injEq]

/-! ### Unique decodability -/

/-- What is written for a value in a charset tells where it ends, whatever follows, and
determines the value up to `same`, no more and no less. -/
def Put.PrefixFree {α : Type} (charset : Charset) (put : α → Put Unit) (same : α → α → Prop) :
    Prop :=
  ∀ (x y : α) (b c s t : List UInt8),
    (put x).output charset = .ok b → (put y).output charset = .ok c →
      (b ++ s = c ++ t ↔ s = t ∧ same x y)

/-- The packed form of the values of a kind is prefix-free, and so is that of lists of them. -/
structure UniquelyDecodable (charset : Charset) (α : Type) [Packable α] (same : α → α → Prop) :
    Prop where
  value : Put.PrefixFree charset (pack : α → Put Unit) same
  list : Put.PrefixFree charset (Put.collection : Option (List α) → Put Unit)
    fun xs ys => List.Forall₂ same (xs.getD []) (ys.getD [])

namespace Layout.PrefixFree

variable {α : Type} {charset : Charset} {layout : α → Layout} {same : α → α → Prop}

/-- A prefix-free layout makes the computation that lays it out prefix-free. -/
lemma put (h : PrefixFree charset layout same) {put : α → Put Unit}
    (hp : ∀ x, (put x).Lays (layout x)) : Put.PrefixFree charset put same := by
  intro x y b c s t hb hc
  obtain ⟨hx, rfl⟩ := (hp x).output_eq_ok_iff.mp hb
  obtain ⟨hy, rfl⟩ := (hp y).output_eq_ok_iff.mp hc
  rw [h hx hy, and_comm]

lemma uniquelyDecodable [Packable α] [HasLayout α] (h : PrefixFree charset layoutOf same) :
    UniquelyDecodable charset α same where
  value := h.put pack_lays
  list := (h.counted.comap fun items : Option (List α) => items.getD []).put Put.lays_collection

end Layout.PrefixFree

/-- **The wire format is uniquely decodable**: in every charset and for every kind of value, two
packed forms followed by any bytes are equal exactly if the bytes that follow are and the values
have the same content. For UTF-8 the same content means equal strings, lists and data. -/
theorem pack_append_eq_iff (charset : Charset) :
    UniquelyDecodable charset Transaction (Transaction.SameContent charset)
      ∧ UniquelyDecodable charset Action (Action.SameContent charset)
      ∧ UniquelyDecodable charset PermissionLevel (PermissionLevel.SameContent charset)
      ∧ UniquelyDecodable charset Extension (· = ·)
      ∧ UniquelyDecodable charset Header Header.SameContent
      ∧ UniquelyDecodable charset String (fun s t => charset.encode s = charset.encode t)
      ∧ (∀ s t : String, Charset.utf8.encode s = Charset.utf8.encode t ↔ s = t)
      ∧ (∀ l m : PermissionLevel, l.SameContent .utf8 m ↔ l = m)
      ∧ (∀ a b : Action, a.SameContent .utf8 b ↔ a = b)
      ∧ ∀ t u : Transaction, t.SameContent .utf8 u ↔ t.header.SameContent u.header
        ∧ t.contextFreeActions = u.contextFreeActions ∧ t.actions = u.actions
        ∧ t.extensions = u.extensions := by
  refine ⟨(Transaction.prefixFree charset).block.uniquelyDecodable,
    (Action.prefixFree charset).uniquelyDecodable,
    (PermissionLevel.prefixFree charset).uniquelyDecodable,
    (Extension.prefixFree charset).uniquelyDecodable,
    (Header.prefixFree charset).uniquelyDecodable,
    Layout.prefixFree_text.uniquelyDecodable, fun _ _ => Charset.encode_utf8_inj,
    fun l m => ?_, fun a b => ?_, fun t u => ?_⟩
  · rw [PermissionLevel.sameContent_utf8]
  · rw [Action.sameContent_utf8]
  · rw [Transaction.SameContent, Action.sameContent_utf8, List.forall₂_eq_eq_eq]

/-- Shift_JIS writes the yen sign and the backslash alike, so these two transactions differ and
have the same content. -/
theorem pack_append_eq_iff_yen :
    let shiftJis : Charset :=
      .multiByte .shiftJis (.ofOther _ fun text => if text = "¥" then some [92] else none)
    let yen : Transaction := { actions? := some [{ account := "a", name := "¥" }] }
    let backslash : Transaction := { actions? := some [{ account := "a", name := "\\" }] }
    let data : List UInt8 := [0, 0, 0, 0, 0, 0, 0, 0, 0, 0, 0, 0, 0, 0, 1, 1, 97, 1, 92, 0, 0, 0]
    (pack yen).output shiftJis = .ok data ∧ (pack backslash).output shiftJis = .ok data
      ∧ yen ≠ backslash
      ∧ ∀ s t, data ++ s = data ++ t ↔ s = t ∧ yen.SameContent shiftJis backslash := by
  intro shiftJis yen backslash data
  have hyen : (pack yen).output shiftJis = .ok data :=
    (pack_lays yen).output_eq_ok_iff.mpr (by decide +kernel)
  have hbackslash : (pack backslash).output shiftJis = .ok data :=
    (pack_lays backslash).output_eq_ok_iff.mpr (by decide +kernel)
  refine ⟨hyen, hbackslash, by decide, fun s t => ?_⟩
  exact (pack_append_eq_iff shiftJis).1.value yen backslash data data s t hyen hbackslash

end TxWire
