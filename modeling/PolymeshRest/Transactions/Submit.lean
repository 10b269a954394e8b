import Mathlib.Data.List.Infix
import PolymeshRest.Common.Errors
import PolymeshRest.Js.BigNumber
import PolymeshRest.Js.Record
import PolymeshRest.Js.Rejection
import PolymeshRest.Messages.Basic
import PolymeshRest.Transactions.Basic

/-!
# Errors of submitted transactions

`TransactionsService.submit` looks the signer up, prepares the procedure and goes on as the process
mode says.  Rejections of what is awaited in its `try` go through `handleSdkError`; the lookup comes
before it, and the promises that the modes go on with are returned without being awaited.  Whatever
the service calls may throw anything.

## Main definitions

* `Thrown`, `handleSdkError` : what is thrown, and the error of the application that is made of it.
* `Services`, `Method`, `Procedure` : what the steps of `submit` call.
* `submit` : the process modes, step by step.
* `Normalised` : a rejection is what `handleSdkError` makes of the failure it comes from.
* `Expected` : of the steps outside the `try`, the first one that fails fails with an error of the
  application.

## Main results

* `normalised_processTransaction` : what is processed at once is always normalised.
* `normalised_iff` : the rejections of `submit` are normalised exactly if its failures are expected.
-/

namespace PolymeshRest

namespace SubmitTransaction

open Js

/-! ### Errors -/

/-- `ErrorCode` of the SDK, by the codes that are told apart. -/
inductive ErrorCode where
  | general
  | noDataChange
  | validationError
  | entityInUse
  | insufficientBalance
  | unmetPrerequisite
  | limitExceeded
  | dataUnavailable
  | notAuthorized
  | other (code : String)
  deriving DecidableEq, Repr

/-- A value that is thrown. -/
inductive Thrown where
  | app (error : AppError)
  /-- A `PolymeshError` of the SDK. -/
  | polymesh (code : ErrorCode) (message : String)
  /-- Any other `Error`. -/
  | error (message : String)
  | undefined
  | null
  /-- Any other value. -/
  | other
  deriving DecidableEq, Repr

/-- `isAppError` -/
def Thrown.isApp : Thrown → Bool
  | .app _ => true
  | _ => false

/-- `text.includes(part)` -/
def includes (text part : String) : Bool := part.toList <:+: text.toList

/-- `handleSdkError`; one of the errors is thrown and not returned. -/
def handleSdkError : Thrown → AppError
  | .app error => error
  | .polymesh code message =>
    if code = .general ∧ includes message "not part of the Signing Manager attached to the SDK" then
      .validation message
    else
      match code with
      | .noDataChange | .validationError | .entityInUse => .validation message
      | .insufficientBalance | .unmetPrerequisite | .limitExceeded => .unprocessable message
      | .dataUnavailable => .notFound message ""
      | .notAuthorized => .unauthorized message
      | _ => .internal message
  | .error message => .internal message
  | _ => .internal "An unexpected error occurred"

/-- `throw handleSdkError(error)` -/
def rethrow (e : Thrown) : Thrown := .app (handleSdkError e)

/-! ### What is called -/

/-- `ProcessMode` -/
inductive ProcessMode where
  | submit
  | submitWithCallback
  | offline
  | dryRun
  | AMQP
  deriving DecidableEq, Repr

/-- `MortalityDto` -/
structure Mortality where
  immortal : Bool
  lifetime : Option ℕ
  deriving DecidableEq, Repr

abbrev Metadata := List (String × String)

/-- `TransactionOptionsDto` -/
structure TransactionOptions where
  processMode : ProcessMode
  signer : String
  webhookUrl : Option String := none
  mortality : Option Mortality := none
  nonce : Option ℕ := none
  metadata : Option Metadata := none

/-- `ProcedureOpts` -/
structure ProcedureOpts where
  signingAccount : String
  mortality : Option Mortality
  nonce : Option ℕ

/-- What a call of `run` or of `runAsProposal` does. -/
inductive Running (α : Type) where
  | throws (e : Thrown)
  | rejects (e : Thrown)
  | resolves (a : α)

/-- A call that is awaited. -/
def Running.awaited {α : Type} : Running α → Except Thrown α
  | throws e | rejects e => .error e
  | resolves a => .ok a

/-- `MultiSigProposal` -/
structure Proposal where
  toHuman : Except Thrown String

/-- `TransactionPayload`, with payloads `γ`. -/
structure TransactionPayload (γ : Type) where
  payload : γ
  metadata : Metadata
  multiSig : Option String

/-- What `getTotalFees` resolves to, with fees `φ`. -/
structure TotalFees (φ : Type) where
  fees : φ
  balance : BigNumber
  type : String
  account : String

/-- A prepared procedure, with fees `φ`, results `ρ` and payloads `γ`. -/
structure Procedure (φ ρ γ : Type) where
  /-- `multiSig.address` -/
  multiSig : Option String
  status : TransactionStatus
  supportsSubsidy : Except Thrown Bool
  getTotalFees : Except Thrown (TotalFees φ)
  onStatusChange : Except Thrown Unit
  toSignablePayload : Option Metadata → Except Thrown (TransactionPayload γ)
  runAsProposal : Running Proposal
  run : Running ρ
  /-- What is read of it after that, if it is a transaction or a batch of the SDK. -/
  transaction : Option Transaction

/-- A method of the SDK, with arguments `α`; it need not do the same when it is called again. -/
structure Method (α φ ρ γ : Type) where
  length : ℕ
  call : ℕ → Option α → ProcedureOpts → Except Thrown (Procedure φ ρ γ)

/-- `OfflineRequestModel` -/
structure OfflineRequest (γ : Type) where
  id : String
  payload : TransactionPayload γ

/-- What the service calls, and what it has. -/
structure Services (γ : Type) where
  isAddress : String → Except Thrown Bool
  getAddressByHandle : String → Except Thrown String
  currentId : ℕ
  legitimacySecret : String
  createSubscription : String → Option String → String → Except Thrown ℕ
  /-- `updateSubscription`, with the next nonce. -/
  updateSubscription : ℕ → ℕ → Except Thrown Unit
  randomUUID : String
  sendMessage : AddressName → OfflineRequest γ → Except Thrown ℕ

/-! ### `submit` -/

section

variable {α φ ρ γ : Type}

/-- `getSigningAccount` -/
def getSigningAccount (services : Services γ) (signer : String) : Except Thrown String := do
  let isAddress ← services.isAddress signer
  if isAddress then return signer else services.getAddressByHandle signer

/-- The procedure that is prepared, the `k`-th time. -/
def prepared (method : Method α φ ρ γ) (k : ℕ) (args : α) (opts : ProcedureOpts) :
    Except Thrown (Procedure φ ρ γ) :=
  if method.length = 0 then method.call k none opts else method.call k (some args) opts

/-- `prepareProcedure` -/
def prepareProcedure (method : Method α φ ρ γ) (k : ℕ) (args : α) (opts : ProcedureOpts) :
    Attempt Thrown (Procedure φ ρ γ) :=
  (attempt (prepared method k args opts)).catching rethrow

/-- The `TypeError` of reading a property of `undefined`. -/
def cannotRead (property : String) : Thrown :=
  .error ("Cannot read properties of undefined (reading '" ++ property ++ "')")

/-- What is thrown where the block number or the error is not there. -/
def incompleteError (transaction : Transaction) : Thrown :=
  if transaction.inBlock ∧ transaction.blockNumber = none then cannotRead "toString"
  else cannotRead "message"

/-- What `assemblePayload` reads of the transaction itself. -/
def readPayload (procedure : Procedure φ ρ γ) (human : Option String) :
    Except Thrown TransactionUpdatePayload :=
  match procedure.transaction with
  | none => .error (cannotRead "map")
  | some transaction =>
    match transaction.assemblePayload human with
    | some payload => .ok payload
    | none => .error (incompleteError transaction)

/-- `assemblePayload` -/
def assemblePayload (procedure : Procedure φ ρ γ) :
    Option Proposal → Except Thrown TransactionUpdatePayload
  | none => readPayload procedure none
  | some proposal => do
    let human ← proposal.toHuman
    readPayload procedure (some human)

/-- The `TypeError` of taking `{ message, stack }` of what was thrown, if there is one. -/
def destructureError : Thrown → Option Thrown
  | .undefined =>
    some (.error "Cannot destructure property 'message' of 'undefined' as it is undefined.")
  | .null =>
    some (.error "Cannot destructure property 'message' of 'object null' as it is null.")
  | _ => none

/-- The transaction is run, and what its promise rejects with is logged and not passed on; the
handler takes `message` and `stack` of it. -/
def runLogged (procedure : Procedure φ ρ γ) : Except Thrown (Option Proposal) :=
  match procedure.multiSig with
  | some _ =>
    match procedure.runAsProposal with
    | .throws e => .error e
    | .rejects e =>
      match destructureError e with
      | some error => .error error
      | none => .ok none
    | .resolves proposal => .ok (some proposal)
  | none =>
    -- nobody waits for this promise
    match procedure.run with
    | .throws e => .error e
    | _ => .ok none

/-- `NotificationPayload` -/
structure NotificationPayload where
  subscriptionId : ℕ
  type : EventType
  scope : String
  payload : TransactionUpdatePayload
  nonce : ℕ

/-- `submitAndSubscribe` -/
def submitAndSubscribe (services : Services γ) (procedure : Procedure φ ρ γ)
    (webhookUrl : Option String) : Except Thrown NotificationPayload := do
  -- `addListener`
  procedure.onStatusChange
  let eventScope := (services.currentId + 1).repr
  let subscriptionId ←
    services.createSubscription eventScope webhookUrl services.legitimacySecret
  services.updateSubscription subscriptionId 1
  let txProposal ← runLogged procedure
  let payload ← assemblePayload procedure txProposal
  return ⟨subscriptionId, .transactionUpdate, eventScope, payload, 0⟩

/-- `OfflineReceiptModel` -/
structure OfflineReceipt (γ : Type) where
  id : String
  deliveryId : ℕ
  payload : γ
  metadata : Metadata
  topicName : AddressName
  multiSig : Option String

/-- `beginTransaction` -/
def beginTransaction (services : Services γ) (procedure : Procedure φ ρ γ)
    (metadata : Option Metadata) : Except Thrown (OfflineReceipt γ) := do
  let internalTxId := services.randomUUID
  let payload ←
    procedure.toSignablePayload
      (some (Record.assign "internalTxId" internalTxId (metadata.getD [])))
  let deliveryId ← services.sendMessage .requests ⟨internalTxId, payload⟩
  return ⟨internalTxId, deliveryId, payload.payload, payload.metadata, .requests, payload.multiSig⟩

/-- `TransactionDetails` -/
structure TransactionDetails (φ : Type) where
  status : TransactionStatus
  fees : φ
  supportsSubsidy : Bool
  balance : BigNumber
  type : String
  address : String

/-- `TransactionModel` and `BatchTransactionModel` -/
structure TransactionModel where
  blockHash : Option String
  transactionHash : Option String
  blockNumber : Option ℕ
  tags : TransactionTags

/-- What a processed transaction gives. -/
inductive Processed (φ ρ γ : Type) where
  | simulated (details : TransactionDetails φ) (multiSigAddress : Option String)
  | payload (details : TransactionDetails φ) (transactionPayload : TransactionPayload γ)
  | proposal (details : TransactionDetails φ) (result : Proposal) (transaction : TransactionModel)
  | direct (details : TransactionDetails φ) (result : ρ) (transaction : TransactionModel)

/-- `assembleTransactionResponse` -/
def assembleTransactionResponse (procedure : Procedure φ ρ γ) : Except Thrown TransactionModel :=
  match procedure.transaction with
  | some transaction => .ok ⟨transaction.blockHash, transaction.txHash, transaction.blockNumber,
      transaction.type⟩
  | none => .error (.app (.internal ("Unsupported transaction details received. " ++
      "Please report this issue to the Polymesh team")))

/-- `processTransaction`, which prepares the procedure for the second time. -/
def processTransaction (method : Method α φ ρ γ) (args : α) (opts : ProcedureOpts)
    (options : TransactionOptions) : Attempt Thrown (Processed φ ρ γ) :=
  Attempt.catching rethrow do
    let procedure ← prepareProcedure method 1 args opts
    let supportsSubsidy ← attempt procedure.supportsSubsidy
    let totalFees ← attempt procedure.getTotalFees
    let details := ⟨procedure.status, totalFees.fees, supportsSubsidy, totalFees.balance,
      totalFees.type, totalFees.account⟩
    match options.processMode with
    | .dryRun => return .simulated details procedure.multiSig
    | .offline => .payload details <$> attempt (procedure.toSignablePayload options.metadata)
    | _ =>
      match procedure.multiSig with
      | some _ => do
        let result ← attempt procedure.runAsProposal.awaited
        .proposal details result <$> attempt (assembleTransactionResponse procedure)
      | none => do
        let result ← attempt procedure.run.awaited
        .direct details result <$> attempt (assembleTransactionResponse procedure)

/-- What `submit` resolves to. -/
inductive SubmitResult (φ ρ γ : Type) where
  | notification (payload : NotificationPayload)
  | receipt (receipt : OfflineReceipt γ)
  | processed (result : Processed φ ρ γ)

/-- `submit` -/
def submit (services : Services γ) (method : Method α φ ρ γ) (args : α)
    (options : TransactionOptions) : Attempt Thrown (SubmitResult φ ρ γ) := do
  let signingAccount ← attempt (getSigningAccount services options.signer)
  let sdkOptions := ⟨signingAccount, options.mortality, options.nonce⟩
  let transaction ← (prepareProcedure method 0 args sdkOptions).catching rethrow
  -- the promises below are returned from the `try` without being awaited
  match options.processMode with
  | .submitWithCallback =>
    .notification <$> attempt (submitAndSubscribe services transaction options.webhookUrl)
  | .AMQP => .receipt <$> attempt (beginTransaction services transaction options.metadata)
  | _ => .processed <$> processTransaction method args sdkOptions options

/-! ### What rejections should be -/

/-- A rejection is what `handleSdkError` makes of the failure it comes from. -/
def Normalised (r : Rejection Thrown) : Prop := r.value = rethrow r.origin

/-- The first failure, if there is one, is an error of the application. -/
def AppFailure (failures : List (Option Thrown)) : Prop :=
  ∀ e, firstFailure failures = some e → e.isApp = true

/-- The failures of looking the signer up. -/
def signerFailures (services : Services γ) (signer : String) : List (Option Thrown) :=
  [failure (services.isAddress signer),
    if services.isAddress signer = .ok true then none
    else failure (services.getAddressByHandle signer)]

/-- The failure of running a transaction whose rejections are logged. -/
def runFailure (procedure : Procedure φ ρ γ) : Option Thrown :=
  match procedure.multiSig, procedure.runAsProposal, procedure.run with
  | some _, .throws e, _ => some e
  | some _, .rejects e, _ => destructureError e
  | none, _, .throws e => some e
  | _, _, _ => none

/-- The failure of writing the proposal out, if there is one. -/
def proposalFailure (procedure : Procedure φ ρ γ) : Option Thrown :=
  match procedure.multiSig, procedure.runAsProposal with
  | some _, .resolves proposal => failure proposal.toHuman
  | _, _ => none

/-- The failure of reading what the SDK has not set. -/
def payloadFailure (procedure : Procedure φ ρ γ) : Option Thrown :=
  match procedure.transaction with
  | none => some (cannotRead "map")
  | some transaction =>
    if transaction.Complete then none else some (incompleteError transaction)

/-- The failures after a procedure was prepared, in the order of the steps. -/
def modeFailures (services : Services γ) (procedure : Procedure φ ρ γ)
    (options : TransactionOptions) : List (Option Thrown) :=
  match options.processMode with
  | .submitWithCallback =>
    let subscription := services.createSubscription (services.currentId + 1).repr
      options.webhookUrl services.legitimacySecret
    [failure procedure.onStatusChange, failure subscription,
      failure (subscription >>= fun subscriptionId => services.updateSubscription subscriptionId 1),
      runFailure procedure, proposalFailure procedure, payloadFailure procedure]
  | .AMQP =>
    let payload := procedure.toSignablePayload
      (some (Record.assign "internalTxId" services.randomUUID (options.metadata.getD [])))
    [failure payload,
      failure (payload >>= fun payload =>
        services.sendMessage .requests ⟨services.randomUUID, payload⟩)]
  | _ => []

/-- Of the steps outside the `try`, the first one to fail fails with an error of the
application. -/
structure Expected (services : Services γ) (method : Method α φ ρ γ) (args : α)
    (options : TransactionOptions) : Prop where
  signer : AppFailure (signerFailures services options.signer)
  mode : ∀ signingAccount procedure,
    getSigningAccount services options.signer = .ok signingAccount →
    prepared method 0 args ⟨signingAccount, options.mortality, options.nonce⟩ = .ok procedure →
      AppFailure (modeFailures services procedure options)

/-! ### Steps -/

theorem normalised_self_iff {e : Thrown} : Normalised ⟨e, e⟩ ↔ e.isApp = true := by
  cases e with
  | app error => exact iff_of_true rfl rfl
  | _ => exact iff_of_false nofun nofun

theorem rethrow_rethrow (e : Thrown) : rethrow (rethrow e) = rethrow e := rfl

/-- The rejections of a step outside the `try` are as it fails. -/
theorem normalised_attempt_iff {β : Type} {step : Except Thrown β} :
    (attempt step).Rejects Normalised ↔ ∀ e, failure step = some e → e.isApp = true := by
  rw [Attempt.rejects_attempt_iff]
  exact forall₂_congr fun e _ => normalised_self_iff

/-- What is handled was a failure, or had been handled before. -/
def Raw (r : Rejection Thrown) : Prop := r.value = r.origin ∨ Normalised r

theorem raw_attempt {β : Type} (step : Except Thrown β) : (attempt step).Rejects Raw :=
  Attempt.rejects_attempt_iff.2 fun _ _ => .inl rfl

/-- Handling makes of it what `handleSdkError` makes of the failure. -/
theorem normalised_catching {β : Type} {x : Attempt Thrown β} (h : x.Rejects Raw) :
    (x.catching rethrow).Rejects Normalised := by
  rw [Attempt.rejects_catching_iff]
  refine h.imp fun r hr => ?_
  show rethrow r.value = rethrow r.origin
  rcases hr with hr | hr
  · rw [hr]
  · rw [hr, rethrow_rethrow]

theorem normalised_prepareProcedure (method : Method α φ ρ γ) (k : ℕ) (args : α)
    (opts : ProcedureOpts) : (prepareProcedure method k args opts).Rejects Normalised :=
  normalised_catching (raw_attempt _)

theorem prepareProcedure_eq_ok_iff {method : Method α φ ρ γ} {k : ℕ} {args : α}
    {opts : ProcedureOpts} {procedure : Procedure φ ρ γ} :
    prepareProcedure method k args opts = .ok procedure ↔
      prepared method k args opts = .ok procedure := by
  rw [prepareProcedure, Attempt.catching_eq_ok_iff, Attempt.attempt_eq_ok_iff]

/-- **What is processed at once is normalised**, whatever fails. -/
theorem normalised_processTransaction (method : Method α φ ρ γ) (args : α) (opts : ProcedureOpts)
    (options : TransactionOptions) :
    (processTransaction method args opts options).Rejects Normalised := by
  refine normalised_catching (Attempt.rejects_bind_iff.2 ⟨?_, fun procedure _ => ?_⟩)
  · exact (normalised_prepareProcedure method 1 args opts).imp fun _ => .inr
  refine Attempt.rejects_bind_iff.2 ⟨raw_attempt _, fun supportsSubsidy _ => ?_⟩
  refine Attempt.rejects_bind_iff.2 ⟨raw_attempt _, fun totalFees _ => ?_⟩
  split
  · exact Attempt.rejects_ok _
  · exact Attempt.rejects_map_iff.2 (raw_attempt _)
  · split
    · exact Attempt.rejects_bind_iff.2
        ⟨raw_attempt _, fun _ _ => Attempt.rejects_map_iff.2 (raw_attempt _)⟩
    · exact Attempt.rejects_bind_iff.2
        ⟨raw_attempt _, fun _ _ => Attempt.rejects_map_iff.2 (raw_attempt _)⟩

/-! ### Steps outside the `try` -/

theorem failure_getSigningAccount (services : Services γ) (signer : String) :
    failure (getSigningAccount services signer) =
      firstFailure (signerFailures services signer) := by
  rw [getSigningAccount, signerFailures]
  cases services.isAddress signer with
  | error e => rfl
  | ok isAddress =>
    cases isAddress with
    | true => rfl
    | false => cases services.getAddressByHandle signer <;> rfl

theorem failure_readPayload (procedure : Procedure φ ρ γ) (human : Option String) :
    failure (readPayload procedure human) = payloadFailure procedure := by
  rw [readPayload, payloadFailure]
  cases procedure.transaction with
  | none => rfl
  | some transaction =>
    have hcomplete := transaction.isSome_assemblePayload human
    simp only
    split
    · next payload hpayload =>
      rw [hpayload] at hcomplete
      rw [if_pos (hcomplete.1 rfl)]
      rfl
    · next hpayload =>
      rw [hpayload] at hcomplete
      rw [if_neg fun h => Bool.false_ne_true (hcomplete.2 h)]
      rfl

theorem failure_assemblePayload (procedure : Procedure φ ρ γ) (proposal : Option Proposal) :
    failure (assemblePayload procedure proposal) =
      firstFailure [proposal.bind fun proposal => failure proposal.toHuman,
        payloadFailure procedure] := by
  have hlast : firstFailure [none, payloadFailure procedure] = payloadFailure procedure := by
    cases payloadFailure procedure <;> rfl
  cases proposal with
  | none => exact (failure_readPayload procedure none).trans hlast.symm
  | some proposal =>
    rw [assemblePayload, Option.bind_some]
    cases proposal.toHuman with
    | error e => rfl
    | ok human => exact (failure_readPayload procedure (some human)).trans hlast.symm

theorem failure_run (procedure : Procedure φ ρ γ) :
    failure (runLogged procedure >>= assemblePayload procedure) =
      firstFailure [runFailure procedure, proposalFailure procedure, payloadFailure procedure] := by
  rw [runLogged, runFailure, proposalFailure]
  cases procedure.multiSig with
  | none =>
    cases procedure.run with
    | throws e => rfl
    | _ => exact failure_assemblePayload procedure none
  | some address =>
    cases procedure.runAsProposal with
    | throws e => rfl
    | rejects e =>
      cases e with
      | undefined => rfl
      | null => rfl
      | _ => exact failure_assemblePayload procedure none
    | resolves proposal => exact failure_assemblePayload procedure (some proposal)

theorem failure_submitAndSubscribe {services : Services γ} {procedure : Procedure φ ρ γ}
    {options : TransactionOptions} (hmode : options.processMode = .submitWithCallback) :
    failure (submitAndSubscribe services procedure options.webhookUrl) =
      firstFailure (modeFailures services procedure options) := by
  simp only [submitAndSubscribe, modeFailures, hmode]
  cases procedure.onStatusChange with
  | error e => rfl
  | ok _ =>
    generalize services.createSubscription _ _ _ = subscription
    cases subscription with
    | error e => rfl
    | ok subscriptionId =>
      show failure (services.updateSubscription subscriptionId 1 >>= _) =
        firstFailure (none :: none :: failure (services.updateSubscription subscriptionId 1) :: _)
      cases services.updateSubscription subscriptionId 1 with
      | error e => rfl
      | ok _ =>
        show failure (runLogged procedure >>= fun txProposal =>
          assemblePayload procedure txProposal >>= fun payload => pure _) = _
        rw [← bind_assoc, failure_bind_pure]
        exact failure_run procedure

theorem failure_beginTransaction {services : Services γ} {procedure : Procedure φ ρ γ}
    {options : TransactionOptions} (hmode : options.processMode = .AMQP) :
    failure (beginTransaction services procedure options.metadata) =
      firstFailure (modeFailures services procedure options) := by
  rw [beginTransaction, modeFailures, hmode]
  cases procedure.toSignablePayload
    (some (Record.assign "internalTxId" services.randomUUID (options.metadata.getD []))) with
  | error e => rfl
  | ok payload =>
    show failure (services.sendMessage .requests ⟨services.randomUUID, payload⟩ >>= _) =
      firstFailure [none, failure (services.sendMessage .requests ⟨services.randomUUID, payload⟩)]
    cases services.sendMessage .requests ⟨services.randomUUID, payload⟩ <;> rfl

/-- What the service goes on with after it has prepared the procedure is normalised if its failure
is expected. -/
theorem normalised_mode_iff (services : Services γ) (method : Method α φ ρ γ) (args : α)
    (opts : ProcedureOpts) (options : TransactionOptions) (procedure : Procedure φ ρ γ) :
    (match options.processMode with
      | .submitWithCallback =>
        .notification <$> attempt (submitAndSubscribe services procedure options.webhookUrl)
      | .AMQP => .receipt <$> attempt (beginTransaction services procedure options.metadata)
      | _ => .processed <$> processTransaction method args opts options :
        Attempt Thrown (SubmitResult φ ρ γ)).Rejects Normalised ↔
      AppFailure (modeFailures services procedure options) := by
  cases hmode : options.processMode with
  | submitWithCallback =>
    rw [Attempt.rejects_map_iff, normalised_attempt_iff, failure_submitAndSubscribe hmode]
    rfl
  | AMQP =>
    rw [Attempt.rejects_map_iff, normalised_attempt_iff, failure_beginTransaction hmode]
    rfl
  | _ =>
    refine iff_of_true (Attempt.rejects_map_iff.2 ?_) ?_
    · exact normalised_processTransaction method args opts options
    · rw [modeFailures, hmode]
      exact nofun

/-- **Rejections of `submit` are normalised** exactly if its failures are expected. -/
theorem normalised_iff (services : Services γ) (method : Method α φ ρ γ) (args : α)
    (options : TransactionOptions) :
    (submit services method args options).Rejects Normalised ↔
      Expected services method args options := by
  rw [submit, Attempt.rejects_bind_iff, normalised_attempt_iff, failure_getSigningAccount]
  constructor
  · rintro ⟨hsigner, hrest⟩
    refine ⟨hsigner, fun signingAccount procedure haccount hprepared => ?_⟩
    have hmode := (Attempt.rejects_bind_iff.1
      (hrest signingAccount (Attempt.attempt_eq_ok_iff.2 haccount))).2 procedure
        (Attempt.catching_eq_ok_iff.2 (prepareProcedure_eq_ok_iff.2 hprepared))
    exact (normalised_mode_iff ..).1 hmode
  · intro h
    refine ⟨h.signer, fun signingAccount haccount => Attempt.rejects_bind_iff.2 ⟨?_, ?_⟩⟩
    · have hprepare := normalised_prepareProcedure method 0 args
        ⟨signingAccount, options.mortality, options.nonce⟩
      exact normalised_catching (hprepare.imp fun _ => .inr)
    · intro procedure hprepared
      rw [Attempt.catching_eq_ok_iff, prepareProcedure_eq_ok_iff] at hprepared
      exact (normalised_mode_iff ..).2
        (h.mode signingAccount procedure (Attempt.attempt_eq_ok_iff.1 haccount) hprepared)

end

/-- Services whose broker fails. -/
def brokerFails : Services Unit where
  isAddress _ := .ok true
  getAddressByHandle handle := .ok handle
  currentId := 0
  legitimacySecret := "secret"
  createSubscription _ _ _ := .ok 1
  updateSubscription _ _ := .ok ()
  randomUUID := "id"
  sendMessage _ _ := .error (.error "connection lost")

/-- A procedure that succeeds. -/
def succeeds : Procedure Unit Unit Unit where
  multiSig := none
  status := .idle
  supportsSubsidy := .ok false
  getTotalFees := .ok ⟨(), .finite 0, "Caller", "address"⟩
  onStatusChange := .ok ()
  toSignablePayload metadata := .ok ⟨(), metadata.getD [], none⟩
  runAsProposal := .resolves ⟨.ok "1"⟩
  run := .resolves ()
  transaction := some { status := .succeeded, type := .single "tag", blockNumber := some 1 }

/-- The caller gets the error of the broker as it is. -/
theorem not_normalised :
    ¬(submit brokerFails ⟨1, fun _ _ _ => .ok succeeds⟩ ()
      { processMode := .AMQP, signer := "address" }).Rejects Normalised := by
  intro h
  cases h _ rfl

end SubmitTransaction

end PolymeshRest
