import TxWire.Proofs.Layout.Kinds
import TxWire.Proofs.Signing.Freshness

/-!
A call for a signature asks its signer once or not at all, and does all or nothing.

* `SignedTransaction.question`: what a signer is asked. Neither the signatures nor the signer have
  a part in it.
* `SignedTransaction.signWith_of_error`, `signWith_of_refusal`, `signWith_of_signature`: the three
  ways in which a call ends.
* `SignedTransaction.signInTurn`: calls one after the other, with nothing done in between. By
  induction every call is the call that the first state would have made, because a call leaves the
  question as it is (`question_signWith`).
* `signing_asks_once`: the law for single calls and for all rows of calls.
-/

namespace TxWire

/-- A call for a signature: whom to ask, and for which chain. -/
structure Ask where
  signer : Signer
  chainId : ChainId

namespace SignedTransaction

variable {s : SignedTransaction} {signer : Signer} {chainId : ChainId} {request : SigningRequest}

/-! ### One call -/

/-- What a signer is asked, unless the transaction cannot be packed. -/
def question (s : SignedTransaction) (chainId : ChainId) : Except PackError SigningRequest :=
  (packedBytes s.transaction).value.map fun packedTransaction =>
    { chainId, packedTransaction, packedContextFreeData := s.packedContextFreeData }

lemma question_of_error {e : PackError} (h : (packedBytes s.transaction).value = .error e)
    (chainId : ChainId) : s.question chainId = .error e := by
  rw [question, h]
  rfl

lemma question_of_ok {data : List UInt8} (h : (packedBytes s.transaction).value = .ok data)
    (chainId : ChainId) : s.question chainId = .ok
      { chainId, packedTransaction := data, packedContextFreeData := s.packedContextFreeData } := by
  rw [question, h]
  rfl

/-- The question shows the transaction and the context-free data, and nothing else. -/
lemma question_congr {other : SignedTransaction} (htransaction : other.transaction = s.transaction)
    (hdata : other.contextFreeData = s.contextFreeData) : other.question = s.question := by
  funext chainId
  rw [question, question, packedContextFreeData, packedContextFreeData, htransaction, hdata]

/-- A call puts the question to the signer, if there is one. -/
lemma signWith_eq (s : SignedTransaction) (signer : Signer) (chainId : ChainId) :
    (s.signWith signer chainId).value = match s.question chainId with
      | .error e => { signed := s, result := .error (.pack e), requests := [] }
      | .ok request => match signer request with
        | .error e => { signed := s, result := .error (.signer e), requests := [request] }
        | .ok signature =>
          { signed := { s with signatures := s.signatures ++ [signature] }
            result := .ok ()
            requests := [request] } := by
  rw [signWith, Logged.value_bind]
  cases hpack : (packedBytes s.transaction).value with
  | error e => rw [question_of_error hpack]; rfl
  | ok data =>
      rw [question_of_ok hpack]
      dsimp only
      cases signer _ <;> rfl

/-- Without a question nobody is asked. -/
lemma signWith_of_error {e : PackError} (h : s.question chainId = .error e) :
    (s.signWith signer chainId).value
      = { signed := s, result := .error (.pack e), requests := [] } := by
  rw [signWith_eq, h]

/-- A refusal changes nothing. -/
lemma signWith_of_refusal {e : SignerError} (h : s.question chainId = .ok request)
    (hsigner : signer request = .error e) : (s.signWith signer chainId).value
      = { signed := s, result := .error (.signer e), requests := [request] } := by
  rw [signWith_eq, h]
  dsimp only
  rw [hsigner]

/-- A signature is added behind the others. -/
lemma signWith_of_signature {signature : String} (h : s.question chainId = .ok request)
    (hsigner : signer request = .ok signature) : (s.signWith signer chainId).value
      = { signed := { s with signatures := s.signatures ++ [signature] }
          result := .ok ()
          requests := [request] } := by
  rw [signWith_eq, h]
  dsimp only
  rw [hsigner]

/-- The requests of a call are the question and nothing else. -/
lemma requests_signWith (s : SignedTransaction) (signer : Signer) (chainId : ChainId) :
    (s.signWith signer chainId).value.requests = (s.question chainId).toOption.toList := by
  cases hquestion : s.question chainId with
  | error e => rw [signWith_of_error hquestion]; rfl
  | ok request =>
      cases hsigner : signer request with
      | error e => rw [signWith_of_refusal hquestion hsigner]; rfl
      | ok signature => rw [signWith_of_signature hquestion hsigner]; rfl

/-- The question and the answer to it decide how a call ends. -/
lemma result_signWith (s : SignedTransaction) (signer : Signer) (chainId : ChainId) :
    (s.signWith signer chainId).value.result = match s.question chainId with
      | .error e => .error (.pack e)
      | .ok request => ((signer request).mapError .signer).map fun _ => () := by
  cases hquestion : s.question chainId with
  | error e => rw [signWith_of_error hquestion]
  | ok request =>
      dsimp only
      cases hsigner : signer request with
      | error e => rw [signWith_of_refusal hquestion hsigner]; rfl
      | ok signature => rw [signWith_of_signature hquestion hsigner]; rfl

/-- The signature that a call comes to, if it comes to one. -/
def signature? (s : SignedTransaction) (ask : Ask) : Option String :=
  match s.question ask.chainId with
  | .error _ => none
  | .ok request => (ask.signer request).toOption

lemma signature?_of_error {e : PackError} (h : (packedBytes s.transaction).value = .error e) :
    s.signature? = fun _ => none := by
  funext ask
  rw [signature?, question_of_error h]

lemma signature?_of_ok {data : List UInt8} (h : (packedBytes s.transaction).value = .ok data) :
    s.signature? = fun ask => (ask.signer
      { chainId := ask.chainId, packedTransaction := data
        packedContextFreeData := s.packedContextFreeData }).toOption := by
  funext ask
  rw [signature?, question_of_ok h]

/-- All that a call changes is the list of signatures, at its end. -/
lemma signed_signWith (s : SignedTransaction) (ask : Ask) :
    (s.signWith ask.signer ask.chainId).value.signed
      = { s with signatures := s.signatures ++ (s.signature? ask).toList } := by
  have hsame : s = { s with signatures := s.signatures ++ [] } := by rw [List.append_nil]
  rw [signature?]
  cases hquestion : s.question ask.chainId with
  | error e => rw [signWith_of_error hquestion]; exact hsame
  | ok request =>
      cases hsigner : ask.signer request with
      | error e => rw [signWith_of_refusal hquestion hsigner]; dsimp only; rw [hsigner]; exact hsame
      | ok signature => rw [signWith_of_signature hquestion hsigner]; dsimp only; rw [hsigner]; rfl

/-- A call that fails changes nothing at all. -/
lemma signed_of_error {e : TransactionError}
    (h : (s.signWith signer chainId).value.result = .error e) :
    (s.signWith signer chainId).value.signed = s := by
  cases hquestion : s.question chainId with
  | error e => rw [signWith_of_error hquestion]
  | ok request =>
      cases hsigner : signer request with
      | error e => rw [signWith_of_refusal hquestion hsigner]
      | ok signature =>
          rw [signWith_of_signature hquestion hsigner] at h
          exact absurd h (by simp)

/-- A signer matters only by its answer to the one question, for the log too. -/
lemma signWith_congr {other : Signer}
    (h : ∀ request ∈ (s.signWith signer chainId).value.requests, other request = signer request) :
    s.signWith other chainId = s.signWith signer chainId := by
  rw [requests_signWith] at h
  rw [signWith, signWith]
  refine Logged.bind_congr_value ?_
  cases hpack : (packedBytes s.transaction).value with
  | error e => rfl
  | ok data =>
      rw [question_of_ok hpack] at h
      dsimp only
      rw [h _ (List.mem_singleton_self _)]

/-! ### Calls in a row -/

/-- Calls one after the other, with nothing done to the transaction in between: the signed
transaction in the end, and what came of each call. -/
def signInTurn (s : SignedTransaction) : List Ask → SignedTransaction × List Signing
  | [] => (s, [])
  | ask :: asks =>
    let signing := (s.signWith ask.signer ask.chainId).value
    let (last, signings) := signing.signed.signInTurn asks
    (last, signing :: signings)

/-- The signatures have no part in the question, so a call leaves it as it is. -/
lemma question_signWith (s : SignedTransaction) (ask : Ask) :
    (s.signWith ask.signer ask.chainId).value.signed.question = s.question := by
  rw [signed_signWith]
  rfl

lemma signInTurn_cons (s : SignedTransaction) (ask : Ask) (asks : List Ask) :
    s.signInTurn (ask :: asks) =
      let signing := (s.signWith ask.signer ask.chainId).value
      ((signing.signed.signInTurn asks).1, signing :: (signing.signed.signInTurn asks).2) := rfl

/-- The signatures in the end are the old ones and those that the calls came to, in order. -/
lemma signInTurn_fst (s : SignedTransaction) (asks : List Ask) : (s.signInTurn asks).1
    = { s with signatures := s.signatures ++ asks.filterMap s.signature? } := by
  induction asks generalizing s with
  | nil => rw [List.filterMap_nil, List.append_nil]; rfl
  | cons ask asks ih =>
      have hlater : (s.signWith ask.signer ask.chainId).value.signed.signature? = s.signature? := by
        funext later
        rw [signature?, question_signWith, signature?]
      rw [signInTurn_cons]
      dsimp only
      rw [ih, hlater, signed_signWith, List.append_assoc]
      cases hask : s.signature? ask with
      | none => rw [List.filterMap_cons_none hask]; rfl
      | some signature => rw [List.filterMap_cons_some hask]; rfl

/-- Each call asks what the first state would have asked, whatever the calls before it came to. -/
lemma requests_signInTurn (s : SignedTransaction) (asks : List Ask) :
    (s.signInTurn asks).2.map Signing.requests
      = asks.map fun ask => (s.question ask.chainId).toOption.toList := by
  induction asks generalizing s with
  | nil => rfl
  | cons ask asks ih =>
      rw [signInTurn_cons, List.map_cons, ih, question_signWith, requests_signWith, List.map_cons]

/-- The requests of a row depend on the chains only, not on the signers or on signatures. -/
lemma requests_signInTurn_congr {other : SignedTransaction} {asks asks' : List Ask}
    (hquestion : other.question = s.question)
    (hchains : asks'.map Ask.chainId = asks.map Ask.chainId) :
    (other.signInTurn asks').2.map Signing.requests
      = (s.signInTurn asks).2.map Signing.requests := by
  have hasks (row : List Ask) : row.map (fun ask => (s.question ask.chainId).toOption.toList)
      = (row.map Ask.chainId).map fun chainId => (s.question chainId).toOption.toList := by
    rw [List.map_map]
    rfl
  rw [requests_signInTurn, requests_signInTurn, hquestion, hasks, hasks, hchains]

/-- Each call ends as it would have ended on the first state. -/
lemma results_signInTurn (s : SignedTransaction) (asks : List Ask) :
    (s.signInTurn asks).2.map Signing.result
      = asks.map fun ask => (s.signWith ask.signer ask.chainId).value.result := by
  induction asks generalizing s with
  | nil => rfl
  | cons ask asks ih =>
      have hlater : ∀ later : Ask, ((s.signWith ask.signer ask.chainId).value.signed.signWith
          later.signer later.chainId).value.result
            = (s.signWith later.signer later.chainId).value.result := by
        intro later
        rw [result_signWith, question_signWith, result_signWith]
      rw [signInTurn_cons, List.map_cons, ih, List.map_cons]
      simp only [hlater]

end SignedTransaction

/-- **A call asks once, and does all or nothing.** If the transaction cannot be packed the call says
why and asks nobody. Otherwise it puts one question, with the bytes of the transaction and of the
context-free data, and nothing depends on how the signer would have answered any other. A failure
leaves the signed transaction as it is, and a signature is added behind the others.

In a row of calls, whatever the signers answer, all questions show the same bytes, and the
signatures in the end are the old ones followed by those given, in the order of the calls. Other
signatures before the row, or other signers in it, would not change one question. -/
theorem signing_asks_once (s : SignedTransaction) :
    (∀ (signer : Signer) (chainId : ChainId),
      let signing := (s.signWith signer chainId).value
      (∀ e, (packedBytes s.transaction).value = .error e →
        signing = { signed := s, result := .error (.pack e), requests := [] })
      ∧ (∀ data, (packedBytes s.transaction).value = .ok data →
        let request : SigningRequest :=
          { chainId, packedTransaction := data, packedContextFreeData := s.packedContextFreeData }
        signing.requests = [request]
        ∧ (∀ e, signer request = .error e → signing.result = .error (.signer e))
        ∧ ∀ signature, signer request = .ok signature → signing.result = .ok ()
          ∧ signing.signed = { s with signatures := s.signatures ++ [signature] })
      ∧ (∀ e, signing.result = .error e → signing.signed = s)
      ∧ ∀ other : Signer, (∀ request ∈ signing.requests, other request = signer request) →
        s.signWith other chainId = s.signWith signer chainId)
    ∧ (∀ asks : List Ask,
      (∀ e, (packedBytes s.transaction).value = .error e → (s.signInTurn asks).1 = s
        ∧ (s.signInTurn asks).2.map Signing.requests = asks.map (fun _ => [])
        ∧ (s.signInTurn asks).2.map Signing.result = asks.map fun _ => .error (.pack e))
      ∧ ∀ data, (packedBytes s.transaction).value = .ok data →
        let request (ask : Ask) : SigningRequest :=
          { chainId := ask.chainId, packedTransaction := data
            packedContextFreeData := s.packedContextFreeData }
        (s.signInTurn asks).2.map Signing.requests = asks.map (fun ask => [request ask])
        ∧ (s.signInTurn asks).2.map Signing.result = asks.map (fun ask =>
          ((ask.signer (request ask)).mapError .signer).map fun _ => ())
        ∧ (s.signInTurn asks).1 =
          { s with
            signatures := s.signatures
              ++ asks.filterMap fun ask => (ask.signer (request ask)).toOption })
    ∧ ∀ (s' : SignedTransaction) (asks asks' : List Ask), s'.transaction = s.transaction →
      s'.contextFreeData = s.contextFreeData → asks'.map Ask.chainId = asks.map Ask.chainId →
        (s'.signInTurn asks').2.map Signing.requests
          = (s.signInTurn asks).2.map Signing.requests := by
  refine ⟨fun signer chainId => ⟨fun e hpack => ?_, fun data hpack => ?_,
    fun e => SignedTransaction.signed_of_error, fun other => SignedTransaction.signWith_congr⟩,
    fun asks => ⟨fun e hpack => ?_, fun data hpack => ?_⟩,
    fun s' asks asks' htransaction hdata hchains => ?_⟩
  · exact SignedTransaction.signWith_of_error (SignedTransaction.question_of_error hpack chainId)
  · have hquestion := SignedTransaction.question_of_ok hpack chainId
    refine ⟨?_, fun e hsigner => ?_, fun signature hsigner => ?_⟩
    · rw [SignedTransaction.requests_signWith, hquestion]
      rfl
    · rw [SignedTransaction.signWith_of_refusal hquestion hsigner]
    · rw [SignedTransaction.signWith_of_signature hquestion hsigner]
      exact ⟨rfl, rfl⟩
  · have hquestion := SignedTransaction.question_of_error hpack
    refine ⟨?_, ?_, ?_⟩
    · rw [SignedTransaction.signInTurn_fst, SignedTransaction.signature?_of_error hpack,
        List.filterMap_none, List.append_nil]
    · rw [SignedTransaction.requests_signInTurn]
      simp only [hquestion]
      rfl
    · rw [SignedTransaction.results_signInTurn]
      simp only [SignedTransaction.result_signWith, hquestion]
  · have hquestion := SignedTransaction.question_of_ok hpack
    refine ⟨?_, ?_, ?_⟩
    · rw [SignedTransaction.requests_signInTurn]
      simp only [hquestion]
      rfl
    · rw [SignedTransaction.results_signInTurn]
      simp only [SignedTransaction.result_signWith, hquestion]
    · rw [SignedTransaction.signInTurn_fst, SignedTransaction.signature?_of_ok hpack]
  · exact SignedTransaction.requests_signInTurn_congr
      (SignedTransaction.question_congr htransaction hdata) hchains

/-- Three signers, of whom the second refuses and the third would sign for one chain only: all three
are asked about the same bytes, and two signatures come behind the one that was there. -/
theorem signing_asks_once_refusal :
    let chainId : ChainId := ⟨List.replicate digestSize 7, rfl⟩
    let alice : Signer := fun _ => .ok "alice"
    let bob : Signer := fun _ => .error (.keyUnavailable "bob")
    let carol : Signer := fun request =>
      if request.chainId = chainId then .ok "carol" else .error (.failed "other chain")
    let s : SignedTransaction := { signatures := ["old"], contextFreeData := [[1]] }
    let run := s.signInTurn [⟨alice, chainId⟩, ⟨bob, chainId⟩, ⟨carol, chainId⟩]
    let request : SigningRequest :=
      { chainId, packedTransaction := List.replicate 16 0, packedContextFreeData := [1, 1, 1] }
    run.2.map Signing.requests = [[request], [request], [request]]
      ∧ run.2.map Signing.result = [.ok (), .error (.signer (.keyUnavailable "bob")), .ok ()]
      ∧ run.1 = { s with signatures := ["old", "alice", "carol"] } := by
  intro chainId alice bob carol s run request
  have hpack : (packedBytes s.transaction).value = .ok (List.replicate 16 0) :=
    (pack_lays s.transaction).output_eq_ok_iff.mpr (by decide +kernel)
  obtain ⟨hrequests, hresults, hlast⟩ :=
    ((signing_asks_once s).2.1 [⟨alice, chainId⟩, ⟨bob, chainId⟩, ⟨carol, chainId⟩]).2 _ hpack
  have hdata : s.packedContextFreeData = [1, 1, 1] := by decide +kernel
  rw [hdata] at hrequests hresults hlast
  exact ⟨hrequests, hresults, hlast⟩

end TxWire
