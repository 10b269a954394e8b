import PolymeshRest.Datastore.OfflineEvents
import PolymeshRest.Machine.Queue
import PolymeshRest.Offline.Records
import PolymeshRest.Transactions.Submit

/-!
# The offline pipeline

A transaction that is signed offline passes four services that only share a broker.
`OfflineStarterService` makes the payload and sends a request, `OfflineSignerService` has it signed
and sends the signature, `OfflineSubmitterService` sends it to the chain and publishes the outcome,
and `OfflineRecorderService` records whatever has been sent.  `Requests`, `Signatures` and
`EventsLog` are queues of the broker, and each message to one of the three addresses is diverted to
`EventsLog` as well; nothing listens to `Finalizations`.

A service accepts a delivery after its handler has resolved.  When the handler has failed, or the
connection is lost, or the service is restarted, the message is delivered again or put aside, and
the handler may go on all the same.  So any number of handlers are at work on one message.

## Main definitions

* `SignerPayload`, `StartCall`, `OfflineMessage`
* `Pipeline`, `Pipeline.next`, `Pipeline.machine` : the services, the broker, and their steps.
* `Pipeline.StepCase`, `Pipeline.next_cases` : what each step does.

## Main results

* `Pipeline.run_beginTransaction` : a call of `beginTransaction` that nothing interrupts, as a run.
-/

namespace PolymeshRest

open Js SubmitTransaction

/-- `SignerPayloadJSON`, with the nonce that is read from it; `σ` is the rest of what is signed. -/
structure SignerPayload (σ : Type) where
  address : String
  /-- `parseInt(nonce, 16)` -/
  nonce : ℤ
  rest : σ
  deriving DecidableEq, Repr

/-- `TransactionPayload` -/
abbrev OfflinePayload (σ : Type) : Type := SubmitTransaction.TransactionPayload (SignerPayload σ)

/-- `OfflineRequestModel` -/
abbrev OfflineRequestModel (σ : Type) : Type := OfflineRequest (SignerPayload σ)

/-- `OfflineSignatureModel` -/
abbrev OfflineSignature (σ : Type) : Type := OfflineSignatureModel (OfflinePayload σ)

/-- A message that is sent to one of the addresses. -/
inductive OfflineMessage (σ : Type) where
  | request (message : OfflineRequestModel σ)
  | signature (message : OfflineSignature σ)
  | finalization (message : FinalizationMessage)

/-- What a call of `beginTransaction` awaits. -/
inductive StartPhase (σ : Type) where
  /-- `toSignablePayload` -/
  | preparing
  /-- `sendMessage`, with the payload. -/
  | sending (payload : OfflinePayload σ)
  | returned (receipt : OfflineReceipt (SignerPayload σ))
  | failed

/-- A call of `beginTransaction`. -/
structure StartCall (σ : Type) where
  /-- `internalTxId` -/
  id : String
  metadata : Option Metadata
  phase : StartPhase σ

/-- What a call of `autoSign` awaits. -/
inductive SignPhase where
  /-- `signPayload` -/
  | signing
  /-- `sendMessage`, with the signature. -/
  | sending (signature : String)
  | ended
  deriving DecidableEq, Repr

/-- What a call of `recordEvent` awaits. -/
inductive RecordPhase where
  | recording
  | ended
  deriving DecidableEq, Repr

/-- The services and the broker. -/
structure Pipeline (σ : Type) where
  starts : List (StartCall σ) := []
  requests : Queue (OfflineRequestModel σ) SignPhase := {}
  signatures : Queue (OfflineSignature σ) Unit := {}
  /-- The `i`-th call of `submit` is that of the `i`-th delivery of a signature. -/
  submitter : Submitter (OfflinePayload σ) := {}
  eventsLog : Queue (OfflineMessage σ) RecordPhase := {}
  events : PostgresOfflineEventRepo (OfflineMessage σ) := .empty
  /-- The payloads that the SDK has made, with the ids they were made for. -/
  prepared : List (OfflineRequestModel σ) := []
  /-- What the signing manager has signed. -/
  signed : List (SignerPayload σ × String) := []

/-- One atomic step. -/
inductive PipelineAct (σ : Type) where
  /-- A call of `beginTransaction`, whose `generateTxId` gives `id`. -/
  | beginTransaction (id : String) (metadata : Option Metadata)
  /-- `toSignablePayload` ends, with a payload or rejected. -/
  | toSignablePayload (i : ℕ) (payload : Option (OfflinePayload σ))
  | sendRequest (i : ℕ) (outcome : Outcome) (deliveryId : ℕ)
  | deliverRequest (k : ℕ)
  /-- `signPayload` ends, with a signature or rejected. -/
  | signPayload (i : ℕ) (signature : Option String)
  | sendSignature (i : ℕ) (outcome : Outcome)
  | settleRequest (i : ℕ) (how : Settlement)
  | deliverSignature (k : ℕ)
  /-- A call of `submit` goes on. -/
  | submit (act : SubmitterAct (OfflinePayload σ))
  | settleSignature (i : ℕ) (how : Settlement)
  | deliverEvent (k : ℕ)
  | recordEvent (i : ℕ) (outcome : Outcome)
  | settleEvent (i : ℕ) (how : Settlement)

variable {σ : Type}

/-- `{ ...metadata, internalTxId }` -/
def StartCall.requestMetadata (call : StartCall σ) : Metadata :=
  Record.assign "internalTxId" call.id (call.metadata.getD [])

/-- The receipt of a request that was sent. -/
def requestReceipt (request : OfflineRequestModel σ) (deliveryId : ℕ) :
    OfflineReceipt (SignerPayload σ) where
  id := request.id
  deliveryId
  payload := request.payload.payload
  metadata := request.payload.metadata
  topicName := .requests
  multiSig := request.payload.multiSig

/-- What `autoSign` sends, as `submit` reads it. -/
def signatureModel (request : OfflineRequestModel σ) (signature : String) : OfflineSignature σ where
  id := request.id
  signature
  payload := request.payload
  address := request.payload.payload.address
  nonce := request.payload.payload.nonce

/-- A step of `submit` is not a delivery. -/
def isDelivery {π : Type*} : SubmitterAct π → Bool
  | .deliver _ => true
  | _ => false

namespace Pipeline

/-- A request is sent. -/
def publishRequest (s : Pipeline σ) (request : OfflineRequestModel σ) : Pipeline σ :=
  { s with
    requests := s.requests.send request
    eventsLog := s.eventsLog.send (.request request) }

/-- A signature is sent. -/
def publishSignature (s : Pipeline σ) (signature : OfflineSignature σ) : Pipeline σ :=
  { s with
    signatures := s.signatures.send signature
    eventsLog := s.eventsLog.send (.signature signature) }

/-- A finalization, if there is one, is sent. -/
def publishFinalization (s : Pipeline σ) (finalization : Option FinalizationMessage) :
    Pipeline σ :=
  match finalization with
  | some message => { s with eventsLog := s.eventsLog.send (.finalization message) }
  | none => s

@[simp] theorem publishFinalization_signatures (s : Pipeline σ)
    (finalization : Option FinalizationMessage) :
    (s.publishFinalization finalization).signatures = s.signatures := by
  cases finalization <;> rfl

/-- The state with a call of `beginTransaction` changed. -/
def withStart (s : Pipeline σ) (i : ℕ) (call : StartCall σ) : Pipeline σ :=
  { s with starts := s.starts.set i call }

/-- The signatures after a step of `submit`: where its promise resolves, the handler has. -/
def afterSubmit (signatures : Queue (OfflineSignature σ) Unit) :
    SubmitterAct (OfflinePayload σ) → Queue (OfflineSignature σ) Unit
  | .settle i => signatures.advance i () true
  | _ => signatures

/-- The state a step leads to. -/
def next (s : Pipeline σ) : PipelineAct σ → Option (Pipeline σ)
  | .beginTransaction id metadata =>
    some { s with starts := s.starts ++ [⟨id, metadata, .preparing⟩] }
  | .toSignablePayload i payload =>
    match s.starts[i]?, payload with
    | some ⟨id, metadata, .preparing⟩, some payload =>
      some { s.withStart i ⟨id, metadata, .sending payload⟩ with
        prepared := ⟨id, payload⟩ :: s.prepared }
    | some ⟨id, metadata, .preparing⟩, none => some (s.withStart i ⟨id, metadata, .failed⟩)
    | _, _ => none
  | .sendRequest i outcome deliveryId =>
    match s.starts[i]? with
    | some ⟨id, metadata, .sending payload⟩ =>
      some ((outcome.apply s (s.publishRequest ⟨id, payload⟩)).withStart i ⟨id, metadata,
        if outcome.ok then .returned (requestReceipt ⟨id, payload⟩ deliveryId) else .failed⟩)
    | _ => none
  | .deliverRequest k =>
    (s.requests.deliver k .signing).map fun delivery => { s with requests := delivery.2 }
  | .signPayload i signature =>
    match s.requests.deliveries[i]?, signature with
    | some ⟨request, .signing, _, _, _⟩, some signature => some { s with
        requests := s.requests.advance i (.sending signature) false
        signed := (request.payload.payload, signature) :: s.signed }
    | some ⟨_, .signing, _, _, _⟩, none =>
      some { s with requests := s.requests.advance i .ended false }
    | _, _ => none
  | .sendSignature i outcome =>
    match s.requests.deliveries[i]? with
    | some ⟨request, .sending signature, _, _, _⟩ =>
      some { outcome.apply s (s.publishSignature (signatureModel request signature)) with
        requests := s.requests.advance i .ended outcome.ok }
    | _ => none
  | .settleRequest i how => (s.requests.settle i how).map fun queue => { s with requests := queue }
  | .deliverSignature k =>
    (s.signatures.deliver k ()).bind fun delivery =>
      (Submitter.machine.next s.submitter (.deliver delivery.1)).map fun submitter =>
        { s with signatures := delivery.2, submitter }
  | .submit act =>
    if isDelivery act then none
    else
      (Submitter.machine.next s.submitter act).map fun submitter =>
        { s.publishFinalization (s.submitter.finalization act) with
          signatures := afterSubmit s.signatures act
          submitter }
  | .settleSignature i how =>
    (s.signatures.settle i how).map fun queue => { s with signatures := queue }
  | .deliverEvent k =>
    (s.eventsLog.deliver k .recording).map fun delivery => { s with eventsLog := delivery.2 }
  | .recordEvent i outcome =>
    match s.eventsLog.deliveries[i]? with
    | some ⟨message, .recording, _, _, _⟩ => some { s with
        eventsLog := s.eventsLog.advance i .ended outcome.ok
        events := outcome.apply s.events (PostgresOfflineEventRepo.recordEvent s.events message).2 }
    | _ => none
  | .settleEvent i how => (s.eventsLog.settle i how).map fun queue => { s with eventsLog := queue }

/-- The services at work. -/
def machine : Machine (Pipeline σ) (PipelineAct σ) := ⟨next⟩

/-! ### What each step does -/

/-- What each step does. -/
inductive StepCase (s : Pipeline σ) : PipelineAct σ → Pipeline σ → Prop
  | beginTransaction (id : String) (metadata : Option Metadata) :
      StepCase s (.beginTransaction id metadata)
        { s with starts := s.starts ++ [⟨id, metadata, .preparing⟩] }
  | prepared {i : ℕ} {id : String} {metadata : Option Metadata}
      (hi : s.starts[i]? = some ⟨id, metadata, .preparing⟩) (payload : OfflinePayload σ) :
      StepCase s (.toSignablePayload i (some payload))
        { s.withStart i ⟨id, metadata, .sending payload⟩ with
          prepared := ⟨id, payload⟩ :: s.prepared }
  | unprepared {i : ℕ} {id : String} {metadata : Option Metadata}
      (hi : s.starts[i]? = some ⟨id, metadata, .preparing⟩) :
      StepCase s (.toSignablePayload i none) (s.withStart i ⟨id, metadata, .failed⟩)
  | sendRequest {i : ℕ} {id : String} {metadata : Option Metadata} {payload : OfflinePayload σ}
      (hi : s.starts[i]? = some ⟨id, metadata, .sending payload⟩) (outcome : Outcome)
      (deliveryId : ℕ) :
      StepCase s (.sendRequest i outcome deliveryId)
        ((outcome.apply s (s.publishRequest ⟨id, payload⟩)).withStart i ⟨id, metadata,
          if outcome.ok then .returned (requestReceipt ⟨id, payload⟩ deliveryId) else .failed⟩)
  | deliverRequest {k : ℕ} {request : OfflineRequestModel σ}
      {queue : Queue (OfflineRequestModel σ) SignPhase}
      (hq : s.requests.deliver k .signing = some (request, queue)) :
      StepCase s (.deliverRequest k) { s with requests := queue }
  | signPayload {i : ℕ} {d : Queue.Delivery (OfflineRequestModel σ) SignPhase}
      (hi : s.requests.deliveries[i]? = some d) (hphase : d.phase = .signing)
      (signature : String) :
      StepCase s (.signPayload i (some signature))
        { s with
          requests := s.requests.advance i (.sending signature) false
          signed := (d.message.payload.payload, signature) :: s.signed }
  | unsigned {i : ℕ} {d : Queue.Delivery (OfflineRequestModel σ) SignPhase}
      (hi : s.requests.deliveries[i]? = some d) (hphase : d.phase = .signing) :
      StepCase s (.signPayload i none) { s with requests := s.requests.advance i .ended false }
  | sendSignature {i : ℕ} {d : Queue.Delivery (OfflineRequestModel σ) SignPhase}
      (hi : s.requests.deliveries[i]? = some d) {signature : String}
      (hphase : d.phase = .sending signature) (outcome : Outcome) :
      StepCase s (.sendSignature i outcome)
        { outcome.apply s (s.publishSignature (signatureModel d.message signature)) with
          requests := s.requests.advance i .ended outcome.ok }
  | settleRequest {i : ℕ} {how : Settlement} {queue : Queue (OfflineRequestModel σ) SignPhase}
      (hq : s.requests.settle i how = some queue) :
      StepCase s (.settleRequest i how) { s with requests := queue }
  | deliverSignature {k : ℕ} {signature : OfflineSignature σ}
      {queue : Queue (OfflineSignature σ) Unit}
      (hq : s.signatures.deliver k () = some (signature, queue))
      {submitter : Submitter (OfflinePayload σ)}
      (hst : Submitter.machine.next s.submitter (.deliver signature) = some submitter) :
      StepCase s (.deliverSignature k) { s with signatures := queue, submitter }
  | submit {act : SubmitterAct (OfflinePayload σ)} (hact : ∀ body, act ≠ .deliver body)
      {submitter : Submitter (OfflinePayload σ)}
      (hst : Submitter.machine.next s.submitter act = some submitter) :
      StepCase s (.submit act)
        { s.publishFinalization (s.submitter.finalization act) with
          signatures := afterSubmit s.signatures act
          submitter }
  | settleSignature {i : ℕ} {how : Settlement} {queue : Queue (OfflineSignature σ) Unit}
      (hq : s.signatures.settle i how = some queue) :
      StepCase s (.settleSignature i how) { s with signatures := queue }
  | deliverEvent {k : ℕ} {message : OfflineMessage σ} {queue : Queue (OfflineMessage σ) RecordPhase}
      (hq : s.eventsLog.deliver k .recording = some (message, queue)) :
      StepCase s (.deliverEvent k) { s with eventsLog := queue }
  | recordEvent {i : ℕ} {d : Queue.Delivery (OfflineMessage σ) RecordPhase}
      (hi : s.eventsLog.deliveries[i]? = some d) (hphase : d.phase = .recording)
      (outcome : Outcome) :
      StepCase s (.recordEvent i outcome)
        { s with
          eventsLog := s.eventsLog.advance i .ended outcome.ok
          events := outcome.apply s.events
            (PostgresOfflineEventRepo.recordEvent s.events d.message).2 }
  | settleEvent {i : ℕ} {how : Settlement} {queue : Queue (OfflineMessage σ) RecordPhase}
      (hq : s.eventsLog.settle i how = some queue) :
      StepCase s (.settleEvent i how) { s with eventsLog := queue }

theorem next_cases {s s' : Pipeline σ} {a : PipelineAct σ} (h : machine.next s a = some s') :
    StepCase s a s' := by
  cases a with
  | beginTransaction id metadata =>
    cases h
    exact .beginTransaction id metadata
  | toSignablePayload i payload =>
    simp only [machine, next] at h
    split at h
    · rename_i hi
      cases h
      exact .prepared hi _
    · rename_i hi
      cases h
      exact .unprepared hi
    · cases h
  | sendRequest i outcome deliveryId =>
    simp only [machine, next] at h
    split at h
    · rename_i hi
      cases h
      exact .sendRequest hi outcome deliveryId
    · cases h
  | deliverRequest k =>
    obtain ⟨⟨request, queue⟩, hq, rfl⟩ := Option.map_eq_some_iff.1 h
    exact .deliverRequest hq
  | signPayload i signature =>
    simp only [machine, next] at h
    split at h
    · rename_i hi
      cases h
      exact .signPayload hi rfl _
    · rename_i hi
      cases h
      exact .unsigned hi rfl
    · cases h
  | sendSignature i outcome =>
    simp only [machine, next] at h
    split at h
    · rename_i hi
      cases h
      exact .sendSignature hi rfl outcome
    · cases h
  | settleRequest i how =>
    obtain ⟨queue, hq, rfl⟩ := Option.map_eq_some_iff.1 h
    exact .settleRequest hq
  | deliverSignature k =>
    obtain ⟨⟨signature, queue⟩, hq, hmap⟩ := Option.bind_eq_some_iff.1 h
    obtain ⟨submitter, hst, rfl⟩ := Option.map_eq_some_iff.1 hmap
    exact .deliverSignature hq hst
  | submit act =>
    simp only [machine, next] at h
    split at h
    · cases h
    · rename_i hact
      obtain ⟨submitter, hst, rfl⟩ := Option.map_eq_some_iff.1 h
      refine .submit (fun body hbody => hact ?_) hst
      rw [hbody]
      rfl
  | settleSignature i how =>
    obtain ⟨queue, hq, rfl⟩ := Option.map_eq_some_iff.1 h
    exact .settleSignature hq
  | deliverEvent k =>
    obtain ⟨⟨message, queue⟩, hq, rfl⟩ := Option.map_eq_some_iff.1 h
    exact .deliverEvent hq
  | recordEvent i outcome =>
    simp only [machine, next] at h
    split at h
    · rename_i hi
      cases h
      exact .recordEvent hi rfl outcome
    · cases h
  | settleEvent i how =>
    obtain ⟨queue, hq, rfl⟩ := Option.map_eq_some_iff.1 h
    exact .settleEvent hq

/-! ### One step after the other -/

theorem run_beginTransaction {φ ρ : Type} {services : Services (SignerPayload σ)}
    {procedure : Procedure φ ρ (SignerPayload σ)} {metadata : Option Metadata}
    {receipt : OfflineReceipt (SignerPayload σ)}
    (h : beginTransaction services procedure metadata = .ok receipt) (s : Pipeline σ) :
    ∃ payload s', machine.run s [.beginTransaction services.randomUUID metadata,
        .toSignablePayload s.starts.length (some payload),
        .sendRequest s.starts.length .resolved receipt.deliveryId] = some s' ∧
      s'.starts = s.starts ++ [⟨services.randomUUID, metadata, .returned receipt⟩] ∧
      s'.requests = s.requests.send ⟨services.randomUUID, payload⟩ := by
  obtain ⟨payload, -, h⟩ := bind_eq_ok_iff.1 h
  obtain ⟨deliveryId, -, h⟩ := bind_eq_ok_iff.1 h
  cases h
  refine ⟨payload, { (s.publishRequest ⟨services.randomUUID, payload⟩) with
    starts := s.starts ++ [⟨services.randomUUID, metadata, .returned _⟩]
    prepared := ⟨services.randomUUID, payload⟩ :: s.prepared }, ?_, rfl, rfl⟩
  simp [Machine.run, machine, next, withStart, publishRequest, requestReceipt, Outcome.ok]

/-- The payload that the SDK makes for a transaction with id `"7"`. -/
def transferPayload : OfflinePayload Unit := ⟨⟨"address", 1, ()⟩, [("internalTxId", "7")], none⟩

end Pipeline

end PolymeshRest
