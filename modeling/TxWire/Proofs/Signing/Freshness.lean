import Mathlib.Tactic
import TxWire.Signing.Basic

/-!
No signature is stale, whatever is done to signed transactions and in whatever order.

* `SignedTransaction.Operation`, `Session.Step`: what can be done to a signed transaction, and to
  all those at hand, which may be cloned. A session also keeps a record of what signers were asked
  and answered. Nothing reads the record but the statements here.
* `SignedTransaction.CoveredBy`: all signatures are answers to questions about the very bytes
  that the signed transaction packs to now. `CoveredBy.perform` says what an operation does to it,
  and `CoveredBy.pushBody` what it means for the body that is pushed.
* `Session.Fresh`: what one step preserves (`Session.Fresh.step`), and so a whole run
  (`Session.Fresh.run`).
* `signatures_fresh`: the law for every run.
-/

namespace TxWire

/-! ### Sessions -/

/-- What a signer was asked, and the answer. -/
structure Call where
  request : SigningRequest
  answer : Except SignerError String

/-- Something that can be done to a signed transaction. -/
inductive SignedTransaction.Operation
  /-- One of the changes that transactions offer, which may fail or come to nothing. -/
  | edit (e : Transaction.Edit)
  /-- Any change at all, made through the access to the transaction. -/
  | change (f : Transaction → Transaction)
  | addContextFreeData (data : List UInt8)
  | sign (signer : Signer) (chainId : ChainId)

/-- What becomes of a signed transaction, and the questions that a signer was asked for it. -/
def SignedTransaction.perform (s : SignedTransaction) :
    SignedTransaction.Operation → SignedTransaction × List Call
  | .edit e => ((s.editTransaction e).1, [])
  | .change f => ({ s.unsign with transaction := f s.transaction }, [])
  | .addContextFreeData data => (s.addContextFreeData data, [])
  | .sign signer chainId =>
    let signing := (s.signWith signer chainId).value
    (signing.signed, signing.requests.map fun request => ⟨request, signer request⟩)

/-- The signed transactions at hand, and all questions to signers so far. -/
structure Session where
  held : List SignedTransaction
  calls : List Call

namespace Session

/-- One step of a session. The signed transaction that it is about goes by its position. -/
inductive Step
  | perform (index : ℕ) (operation : SignedTransaction.Operation)
  | clone (index : ℕ)

/-- A session starts with a transaction that nobody has signed. -/
def start (t : Transaction) : Session := { held := [{ transaction := t }], calls := [] }

/-- Takes a step, if it is about a signed transaction that is there. -/
def step (session : Session) : Step → Session
  | .perform index operation => match session.held[index]? with
    | none => session
    | some s =>
      let (after, calls) := s.perform operation
      { held := session.held.set index after, calls := session.calls ++ calls }
  | .clone index => match session.held[index]? with
    | none => session
    | some s => { session with held := session.held ++ [s] }

/-- Takes steps one after the other. -/
def run (session : Session) (steps : List Step) : Session := steps.foldl step session

end Session

/-! ### Signatures and the bytes they cover -/

/-- A request shows the bytes that a signed transaction packs to. -/
def SigningRequest.Shows (request : SigningRequest) (s : SignedTransaction) : Prop :=
  (packedBytes s.transaction).value = .ok request.packedTransaction
    ∧ request.packedContextFreeData = s.packedContextFreeData

namespace SignedTransaction

variable {s : SignedTransaction} {calls : List Call}

/-- The signatures are the answers to some questions, one each and in that order, and all of
these questions showed the bytes as they are. -/
structure CoveredBy (s : SignedTransaction) (calls : List Call) : Prop where
  answers : calls.map Call.answer = s.signatures.map .ok
  shown : ∀ call ∈ calls, call.request.Shows s

/-- Without signatures there is nothing to cover. -/
lemma coveredBy_nil (h : s.signatures = []) : s.CoveredBy [] where
  answers := by rw [h]; rfl
  shown := by simp

/-- One more signature is covered by one more question about the bytes as they are. -/
lemma CoveredBy.sign (h : s.CoveredBy calls) {request : SigningRequest} {signature : String}
    (hshows : request.Shows s) :
    CoveredBy { s with signatures := s.signatures ++ [signature] }
      (calls ++ [⟨request, .ok signature⟩]) where
  answers := by rw [List.map_append, h.answers, List.map_append]; rfl
  shown := by
    intro call hcall
    cases List.mem_append.mp hcall with
    | inl hearlier => exact h.shown call hearlier
    | inr hlast => rw [List.mem_singleton.mp hlast]; exact hshows

/-- What signing comes to: no question at all, one that is refused, or one more signature. -/
lemma signWith_cases (s : SignedTransaction) (signer : Signer) (chainId : ChainId) :
    (∃ e, (s.signWith signer chainId).value
      = { signed := s, result := .error e, requests := [] })
    ∨ ∃ request : SigningRequest, request.Shows s
      ∧ ((∃ e, signer request = .error e ∧ (s.signWith signer chainId).value
          = { signed := s, result := .error (.signer e), requests := [request] })
        ∨ ∃ signature, signer request = .ok signature ∧ (s.signWith signer chainId).value
          = { signed := { s with signatures := s.signatures ++ [signature] }, result := .ok (),
              requests := [request] }) := by
  rw [signWith, Logged.value_bind]
  cases hpack : (packedBytes s.transaction).value with
  | error e => exact .inl ⟨.pack e, rfl⟩
  | ok packed =>
      refine .inr ⟨⟨chainId, packed, s.packedContextFreeData⟩, ⟨hpack, rfl⟩, ?_⟩
      dsimp only
      cases signer ⟨chainId, packed, s.packedContextFreeData⟩ with
      | error e => exact .inl ⟨e, rfl, rfl⟩
      | ok signature => exact .inr ⟨signature, rfl, rfl⟩

/-- A signed transaction can be pushed, with the bytes that its signers were shown. -/
lemma CoveredBy.pushBody (h : s.CoveredBy calls) (hsigned : s.signatures ≠ []) :
    ∃ body, s.pushBody.value = .ok body ∧ body.signatures = s.signatures
      ∧ ∀ call ∈ calls,
        body.packedTransaction = Hex.encode call.request.packedTransaction
        ∧ body.packedContextFreeData = Hex.encode call.request.packedContextFreeData := by
  have hcalls : calls ≠ [] := by
    rintro rfl
    exact hsigned (List.map_eq_nil_iff.mp h.answers.symm)
  obtain ⟨first, hfirst⟩ := List.exists_mem_of_ne_nil calls hcalls
  obtain ⟨hpacked, -⟩ := h.shown first hfirst
  rw [SignedTransaction.pushBody, Logged.value_bind, hpacked]
  refine ⟨_, rfl, rfl, fun call hcall => ?_⟩
  obtain ⟨hpacked', hdata⟩ := h.shown call hcall
  have hsame : first.request.packedTransaction = call.request.packedTransaction :=
    Except.ok.inj (hpacked.symm.trans hpacked')
  exact ⟨by rw [hsame], by rw [hdata]⟩

end SignedTransaction

/-! ### What an operation, a step and a run preserve -/

namespace SignedTransaction

/-- An operation drops the signatures or leaves what they cover as it is. -/
lemma CoveredBy.perform {s : SignedTransaction} {calls : List Call} (h : s.CoveredBy calls)
    (operation : Operation) :
    ∃ kept : List Call, kept.Sublist (calls ++ (s.perform operation).2)
      ∧ (s.perform operation).1.CoveredBy kept := by
  cases operation with
  | edit e => exact ⟨[], List.nil_sublist _, coveredBy_nil rfl⟩
  | change f => exact ⟨[], List.nil_sublist _, coveredBy_nil rfl⟩
  | addContextFreeData data => exact ⟨[], List.nil_sublist _, coveredBy_nil rfl⟩
  | sign signer chainId =>
      rw [SignedTransaction.perform]
      obtain ⟨e, hvalue⟩ | ⟨request, hshows, hanswer⟩ := s.signWith_cases signer chainId
      · rw [hvalue]
        exact ⟨calls, List.sublist_append_left calls _, h⟩
      · obtain ⟨e, -, hvalue⟩ | ⟨signature, hsignature, hvalue⟩ := hanswer
        · rw [hvalue]
          exact ⟨calls, List.sublist_append_left calls _, h⟩
        · rw [hvalue, List.map_singleton, hsignature]
          exact ⟨_, List.Sublist.refl _, h.sign hshows⟩

end SignedTransaction

namespace Session

/-- All signatures at hand are answers to questions of this session about the bytes as they
are. -/
def Fresh (session : Session) : Prop :=
  ∀ s ∈ session.held, ∃ calls, calls.Sublist session.calls ∧ s.CoveredBy calls

lemma fresh_start (t : Transaction) : (start t).Fresh := by
  intro s hs
  rw [start, List.mem_singleton] at hs
  rw [hs]
  exact ⟨[], List.nil_sublist _, SignedTransaction.coveredBy_nil rfl⟩

variable {session : Session}

/-- A step changes one signed transaction at most, and the record only grows. -/
lemma Fresh.step (h : session.Fresh) (step : Step) : (session.step step).Fresh := by
  cases step with
  | perform index operation =>
      rw [Session.step]
      cases hindex : session.held[index]? with
      | none => exact h
      | some s =>
          obtain ⟨calls, hsub, hcovered⟩ := h s (List.mem_of_getElem? hindex)
          intro s' hs'
          cases List.mem_or_eq_of_mem_set hs' with
          | inl hother =>
              obtain ⟨calls', hsub', hcovered'⟩ := h s' hother
              exact ⟨calls', hsub'.trans (List.sublist_append_left _ _), hcovered'⟩
          | inr hchanged =>
              obtain ⟨kept, hkept, hcovered'⟩ := hcovered.perform operation
              rw [hchanged]
              exact ⟨kept, hkept.trans (hsub.append (List.Sublist.refl _)), hcovered'⟩
  | clone index =>
      rw [Session.step]
      cases hindex : session.held[index]? with
      | none => exact h
      | some s =>
          intro s' hs'
          cases List.mem_append.mp hs' with
          | inl hother => exact h s' hother
          | inr hclone =>
              rw [List.mem_singleton.mp hclone]
              exact h s (List.mem_of_getElem? hindex)

lemma Fresh.run (h : session.Fresh) (steps : List Step) : (session.run steps).Fresh := by
  induction steps generalizing session with
  | nil => exact h
  | cons step steps ih => exact ih (h.step step)

end Session

/-- **No signature is stale.** After every run of edits, changes, clones and signings, whatever
the signers answer, the signatures of each signed transaction at hand are answers to questions of
this run, one each, and all of these questions were about the bytes that the transaction and its
context-free data have now. So what has a signature can be pushed, and what is pushed is what all
of its signers were shown. -/
theorem signatures_fresh (t : Transaction) (steps : List Session.Step) (s : SignedTransaction)
    (hs : s ∈ ((Session.start t).run steps).held) :
    ∃ calls : List Call, calls.Sublist ((Session.start t).run steps).calls
      ∧ calls.map Call.answer = s.signatures.map .ok
      ∧ (∀ call ∈ calls,
        (packedBytes s.transaction).value = .ok call.request.packedTransaction
        ∧ call.request.packedContextFreeData = s.packedContextFreeData)
      ∧ (s.signatures ≠ [] → ∃ body, s.pushBody.value = .ok body
        ∧ body.signatures = s.signatures
        ∧ ∀ call ∈ calls,
          body.packedTransaction = Hex.encode call.request.packedTransaction
          ∧ body.packedContextFreeData = Hex.encode call.request.packedContextFreeData) := by
  obtain ⟨calls, hsub, hcovered⟩ := (Session.fresh_start t).run steps s hs
  exact ⟨calls, hsub, hcovered.answers, hcovered.shown, hcovered.pushBody⟩

/-- Two signers, and a clone made between them: new context-free data costs the original its
signature, while the clone gets both and can be pushed. -/
theorem signatures_fresh_clone :
    let chainId : ChainId := ⟨List.replicate digestSize 0, rfl⟩
    let alice : Signer := fun _ => .ok "alice"
    let bob : Signer := fun _ => .ok "bob"
    let session := (Session.start {}).run [.perform 0 (.sign alice chainId), .clone 0,
      .perform 0 (.addContextFreeData [1]), .perform 1 (.sign bob chainId)]
    let clone : SignedTransaction := { signatures := ["alice", "bob"] }
    session.held = [{ contextFreeData := [[1]] }, clone]
      ∧ ∃ body, clone.pushBody.value = .ok body ∧ body.signatures = ["alice", "bob"] := by
  intro chainId alice bob session clone
  have hheld : session.held = [{ contextFreeData := [[1]] }, clone] := rfl
  have hclone : clone ∈ session.held := by
    rw [hheld]
    exact List.mem_cons_of_mem _ (List.mem_singleton_self clone)
  obtain ⟨calls, -, -, -, hpush⟩ := signatures_fresh {} _ clone hclone
  obtain ⟨body, hbody, hsignatures, -⟩ := hpush (List.cons_ne_nil _ _)
  exact ⟨hheld, body, hbody, hsignatures⟩

end TxWire
