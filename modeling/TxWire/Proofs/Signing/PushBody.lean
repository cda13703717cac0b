import TxWire.Proofs.Json.RoundTrip
import TxWire.Proofs.Layout.PrefixFree

/-!
The body of a push request says what was signed: all of it, and nothing that a node could take for
something else.

* `SignedTransaction.packedContextFreeData_inj`: the packed context-free data determine the
  buffers. No buffers take no bytes, and any others start with their number.
* `Transaction.packedBytes_eq_iff`: the bytes of a transaction determine what the wire format
  carries of it.
* `SignedTransaction.pushBody_eq_ok_iff`: when there is a body, and what stands in it.
* `PushBody.text_inj`: the text of a body determines the body.
* `pushBody_text_eq_iff`: the texts of two bodies are equal exactly if the same was signed.
-/

namespace TxWire

namespace SignedTransaction

/-! ### Context-free data -/

/-- The layout of one buffer: its length, then its bytes. -/
def bufferElements (data : List UInt8) : Layout :=
  [.bytes (Varint.encode data.length), .bytes data]

/-- The bytes of one buffer. -/
def bufferWire (data : List UInt8) : List UInt8 := Varint.encode data.length ++ data

lemma refusal?_buffers (buffers : List (List UInt8)) :
    (Layout.counted bufferElements buffers).refusal? .utf8 = none := by
  induction buffers with
  | nil => rfl
  | cons data buffers ih => exact ih

lemma written_buffers (buffers : List (List UInt8)) :
    (Layout.counted bufferElements buffers).written .utf8 = countedWire bufferWire buffers := by
  refine written_counted (fun data _ => ?_) (refusal?_buffers buffers)
  rw [bufferElements, Layout.written_bytes_cons, Layout.written_bytes_cons, Layout.written_nil,
    List.append_nil, bufferWire]

/-- The number in front and the length of each tell the buffers apart, empty ones included. -/
lemma countedWire_buffers_inj {xs ys : List (List UInt8)} :
    countedWire bufferWire xs = countedWire bufferWire ys ↔ xs = ys := by
  have hcode : Layout.PrefixFree .utf8 bufferElements (· = ·) := Layout.prefixFree_varBytes
  rw [← written_buffers, ← written_buffers,
    hcode.counted.written_eq_iff (refusal?_buffers xs) (refusal?_buffers ys),
    List.forall₂_eq_eq_eq]

lemma countedWire_ne_nil (buffers : List (List UInt8)) : countedWire bufferWire buffers ≠ [] := by
  intro h
  have hcount := (List.append_eq_nil_iff.mp h).1
  exact Varint.encode_ne_nil _ hcount

lemma packedContextFreeData_of_nil {s : SignedTransaction} (h : s.contextFreeData = []) :
    s.packedContextFreeData = [] := by
  rw [packedContextFreeData, h]
  rfl

lemma packedContextFreeData_of_ne_nil {s : SignedTransaction} (h : s.contextFreeData ≠ []) :
    s.packedContextFreeData = countedWire bufferWire s.contextFreeData := by
  rw [packedContextFreeData, if_neg (by simpa using h)]
  rfl

lemma packedContextFreeData_eq_nil_iff {s : SignedTransaction} :
    s.packedContextFreeData = [] ↔ s.contextFreeData = [] := by
  refine ⟨fun h => ?_, packedContextFreeData_of_nil⟩
  by_contra hne
  rw [packedContextFreeData_of_ne_nil hne] at h
  exact countedWire_ne_nil _ h

/-- The packed context-free data determine the buffers. -/
lemma packedContextFreeData_inj {s t : SignedTransaction} :
    s.packedContextFreeData = t.packedContextFreeData ↔ s.contextFreeData = t.contextFreeData := by
  by_cases hs : s.contextFreeData = []
  · rw [packedContextFreeData_of_nil hs, hs, eq_comm, packedContextFreeData_eq_nil_iff, eq_comm]
  · by_cases ht : t.contextFreeData = []
    · rw [packedContextFreeData_of_nil ht, packedContextFreeData_eq_nil_iff, ht]
    · rw [packedContextFreeData_of_ne_nil hs, packedContextFreeData_of_ne_nil ht,
        countedWire_buffers_inj]

end SignedTransaction

/-! ### The packed transaction -/

/-- Two transactions have the same bytes exactly if they have the same content. -/
lemma Transaction.packedBytes_eq_iff {t u : Transaction} {b c : List UInt8}
    (ht : (packedBytes t).value = .ok b) (hu : (packedBytes u).value = .ok c) :
    b = c ↔ t.SameContent .utf8 u := by
  rw [Put.value_packedBytes] at ht hu
  have h := (Transaction.prefixFree .utf8).block.put pack_lays t u b c [] [] ht hu
  rwa [List.append_nil, List.append_nil, and_iff_right rfl] at h

lemma Transaction.sameContent_utf8_iff {t u : Transaction} : t.SameContent .utf8 u ↔
    t.header.SameContent u.header ∧ t.contextFreeActions = u.contextFreeActions
      ∧ t.actions = u.actions ∧ t.extensions = u.extensions := by
  rw [SameContent, Action.sameContent_utf8, List.forall₂_eq_eq_eq]

/-! ### The body -/

/-- There is a body if the transaction can be packed, and this is what stands in it. -/
lemma SignedTransaction.pushBody_eq_ok_iff {s : SignedTransaction} {body : PushBody} :
    s.pushBody.value = .ok body ↔ ∃ data, (packedBytes s.transaction).value = .ok data
      ∧ { signatures := s.signatures
          compression := .none
          packedContextFreeData := Hex.encode s.packedContextFreeData
          packedTransaction := Hex.encode data } = body := by
  rw [pushBody, Logged.value_bind]
  cases (packedBytes s.transaction).value with
  | error e => simp
  | ok data => simp

/-- The text of a body determines the body, since it is read back from it. -/
lemma PushBody.text_inj {a b : PushBody} : a.toJson.text = b.toJson.text ↔ a = b := by
  refine ⟨fun h => ?_, fun h => by rw [h]⟩
  have hread := Json.decode_text record.decode a.toJson
  rw [a.reads_toJson, h, Json.decode_text, b.reads_toJson, Except.ok.injEq] at hread
  exact hread.symm

/-- Hexadecimal text is empty only for no bytes. -/
lemma Hex.encode_eq_empty_iff {data : List UInt8} : Hex.encode data = "" ↔ data = [] :=
  Hex.encode_inj (b := [])

/-- **The push body is faithful**. There is one exactly if the transaction can be packed in UTF-8.
The texts of two bodies are equal exactly if the signatures, the buffers of context-free data and
what the wire format carries of the transactions are. The context-free data alone tell which
buffers there are, and are empty only if there are none. -/
theorem pushBody_text_eq_iff :
    (∀ s : SignedTransaction, (∃ body, s.pushBody.value = .ok body)
      ↔ ((pack s.transaction).on (Writer.empty .utf8)).value.1 = .ok ())
    ∧ ∀ (a b : SignedTransaction) (bodyA bodyB : PushBody),
      a.pushBody.value = .ok bodyA → b.pushBody.value = .ok bodyB →
        (bodyA.toJson.text = bodyB.toJson.text ↔ a.signatures = b.signatures
          ∧ a.contextFreeData = b.contextFreeData
          ∧ a.transaction.header.SameContent b.transaction.header
          ∧ a.transaction.contextFreeActions = b.transaction.contextFreeActions
          ∧ a.transaction.actions = b.transaction.actions
          ∧ a.transaction.extensions = b.transaction.extensions)
        ∧ (bodyA.packedContextFreeData = "" ↔ a.contextFreeData = [])
        ∧ (bodyA.packedContextFreeData = bodyB.packedContextFreeData
          ↔ a.contextFreeData = b.contextFreeData) := by
  refine ⟨fun s => ?_, fun a b bodyA bodyB ha hb => ?_⟩
  · rw [← Put.exists_output_iff, ← Put.value_packedBytes]
    simp only [SignedTransaction.pushBody_eq_ok_iff]
    exact ⟨fun ⟨_, data, hdata, _⟩ => ⟨data, hdata⟩, fun ⟨data, hdata⟩ => ⟨_, data, hdata, rfl⟩⟩
  · obtain ⟨dataA, hdataA, rfl⟩ := SignedTransaction.pushBody_eq_ok_iff.mp ha
    obtain ⟨dataB, hdataB, rfl⟩ := SignedTransaction.pushBody_eq_ok_iff.mp hb
    have htransaction := Transaction.packedBytes_eq_iff hdataA hdataB
    rw [Transaction.sameContent_utf8_iff] at htransaction
    refine ⟨?_, ?_, ?_⟩
    · rw [PushBody.text_inj, PushBody.mk.injEq, Hex.encode_inj, Hex.encode_inj,
        SignedTransaction.packedContextFreeData_inj, htransaction, and_iff_right rfl]
    · rw [Hex.encode_eq_empty_iff, SignedTransaction.packedContextFreeData_eq_nil_iff]
    · rw [Hex.encode_inj, SignedTransaction.packedContextFreeData_inj]

/-- No buffers and one empty buffer make different bodies. -/
theorem pushBody_text_eq_iff_empty_buffer :
    let bare : SignedTransaction := {}
    let one : SignedTransaction := { contextFreeData := [[]] }
    let body : PushBody :=
      { signatures := [], compression := .none, packedContextFreeData := ""
        packedTransaction := "00000000000000000000000000000000" }
    let bodyOne : PushBody := { body with packedContextFreeData := "0100" }
    bare.pushBody.value = .ok body ∧ one.pushBody.value = .ok bodyOne
      ∧ body.toJson.text ≠ bodyOne.toJson.text := by
  intro bare one body bodyOne
  have hzeros : (packedBytes ({} : Transaction)).value = .ok (List.replicate 16 0) :=
    (pack_lays ({} : Transaction)).output_eq_ok_iff.mpr (by decide +kernel)
  have hbare : bare.pushBody.value = .ok body :=
    SignedTransaction.pushBody_eq_ok_iff.mpr ⟨_, hzeros, by decide +kernel⟩
  have hone : one.pushBody.value = .ok bodyOne :=
    SignedTransaction.pushBody_eq_ok_iff.mpr ⟨_, hzeros, by decide +kernel⟩
  have hsame := (pushBody_text_eq_iff.2 bare one body bodyOne hbare hone).1
  refine ⟨hbare, hone, fun htext => ?_⟩
  exact absurd (hsame.mp htext).2.1 (by decide)

end TxWire
