import TxWire.Proofs.Layout.Basic
import TxWire.Transaction.Basic

/-!
The layouts of strings, permission levels, actions, extensions, headers and transactions.

* `PermissionLevel.elements`, `Action.elements`, `Extension.elements`, `Header.elements`,
  `Transaction.elements`: the parts of each kind in the order of the wire format. The parts of a
  transaction form one block, since it is packed as a whole or not at all.
* The instances of `HasLayout` say that packing does what these layouts say.
-/

namespace TxWire

instance : HasLayout String where
  layoutOf text := [.text text]
  pack_lays text := Put.lays_string text

/-! ### Permission levels, actions and extensions -/

/-- The parts of a permission level. -/
def PermissionLevel.elements (level : PermissionLevel) : Layout :=
  [.text level.actor, .text level.permission]

instance : HasLayout PermissionLevel where
  layoutOf := PermissionLevel.elements
  pack_lays level := (Put.lays_string level.actor).bind (Put.lays_string level.permission)

/-- The parts of an action. -/
def Action.elements (action : Action) : Layout :=
  [.text action.account, .text action.name]
    ++ Layout.counted PermissionLevel.elements action.authorization
    ++ [.bytes (Varint.encode action.data.length), .bytes action.data]

instance : HasLayout Action where
  layoutOf := Action.elements
  pack_lays action := by
    rw [Action.elements, List.append_assoc]
    exact (Put.lays_string action.account).bind ((Put.lays_string action.name).bind
      ((Put.lays_collection (some action.authorization)).bind (Put.lays_varBytes action.data)))

/-- The parts of an extension. -/
def Extension.elements (extension : Extension) : Layout :=
  [.bytes (Varint.encode extension.kind.toNat), .bytes (Varint.encode extension.data.length),
    .bytes extension.data]

instance : HasLayout Extension where
  layoutOf := Extension.elements
  pack_lays extension := (Put.lays_bytes _).bind (Put.lays_varBytes extension.data)

/-! ### Headers -/

namespace Header

/-- The expiration in four bytes, refused where it does not fit. -/
def expirationElement (header : Header) : Element := fun _ =>
  header.expirationTimestamp.map fun seconds => littleEndian 4 seconds.toNat

/-- The wire format has room for the expiration: it is not before 1970 and its seconds fit in
32 bits. -/
def ExpirationFits (header : Header) : Prop :=
  0 ≤ header.expiration.seconds ∧ header.expiration.seconds < UInt32.size

lemma expirationElement_of_fits {header : Header} (h : header.ExpirationFits)
    (charset : Charset) : header.expirationElement charset
      = .ok (littleEndian 4 header.expiration.seconds.toNat) := by
  rw [ExpirationFits] at h
  have htoNat : (UInt32.ofNat header.expiration.seconds.toNat).toNat
      = header.expiration.seconds.toNat := by
    rw [UInt32.toNat_ofNat', Nat.mod_eq_of_lt]
    have hsize : UInt32.size = 2 ^ 32 := rfl
    omega
  rw [expirationElement, expirationTimestamp, if_pos h]
  show Except.ok (littleEndian 4 (UInt32.ofNat _).toNat) = _
  rw [htoNat]

lemma expirationElement_of_not_fits {header : Header} (h : ¬ header.ExpirationFits)
    (charset : Charset) : header.expirationElement charset
      = .error (.unpackable (.expiration header.expiration)) := by
  rw [ExpirationFits] at h
  rw [expirationElement, expirationTimestamp, if_neg h]
  rfl

/-- An expiration that is not refused fits. -/
lemma expirationFits_of_refusal? {header : Header} {charset : Charset}
    (h : Layout.refusal? charset [header.expirationElement] = none) : header.ExpirationFits := by
  by_contra hfits
  rw [Layout.refusal?_cons_error (expirationElement_of_not_fits hfits charset)] at h
  exact Option.some_ne_none _ h

lemma written_expirationElement {header : Header} (h : header.ExpirationFits)
    (charset : Charset) : Layout.written charset [header.expirationElement]
      = littleEndian 4 header.expiration.seconds.toNat := by
  rw [Layout.written_cons_ok (expirationElement_of_fits h charset), Layout.written_nil,
    List.append_nil]

/-- The parts of a header. -/
def elements (header : Header) : Layout :=
  [header.expirationElement,
    .bytes (littleEndian 2 header.refBlockNum.toNat),
    .bytes (littleEndian 4 header.refBlockPrefix.toNat),
    .bytes (Varint.encode header.maxNetUsageWords.toNat),
    .bytes [header.maxCpuUsageMs],
    .bytes (Varint.encode header.delaySec.toNat)]

instance : HasLayout Header where
  layoutOf := elements
  pack_lays _ := Put.lays_lift_bind fun seconds =>
    (Put.lays_bytes (littleEndian 4 seconds.toNat)).bind ((Put.lays_bytes _).bind
      ((Put.lays_bytes _).bind ((Put.lays_bytes _).bind
        ((Put.lays_bytes _).bind (Put.lays_bytes _)))))

end Header

/-! ### Transactions -/

namespace Transaction

/-- The parts of a transaction. -/
def elements (t : Transaction) : Layout :=
  t.header.elements ++ Layout.counted Action.elements t.contextFreeActions
    ++ Layout.counted Action.elements t.actions ++ Layout.counted Extension.elements t.extensions

lemma layout_lays (t : Transaction) : t.layout.Lays t.elements := by
  rw [elements, List.append_assoc, List.append_assoc]
  exact (pack_lays t.header).bind ((Put.lays_collection (some t.contextFreeActions)).bind
    ((Put.lays_collection t.actions?).bind (Put.lays_collection (some t.extensions))))

/-- The events and the count of the bytes leave no trace in the writer. -/
lemma pack_transaction_lays (t : Transaction) : (pack t).Lays [Layout.block t.elements] := by
  have hbody := Put.lays_length_bind fun start =>
    (Put.lays_atomic t.layout_lays).bind (Put.lays_length_bind fun stop => Put.lays_report
      (.packed t.contextFreeActions.length t.actions.length (stop - start)))
  show (if t.extensions.isEmpty then _ else _ : Put Unit).Lays _
  split
  · exact hbody
  · exact (Put.lays_report (.reservedExtensions t.extensions.length)).bind hbody

instance : HasLayout Transaction where
  layoutOf t := [Layout.block t.elements]
  pack_lays := pack_transaction_lays

end Transaction

end TxWire
