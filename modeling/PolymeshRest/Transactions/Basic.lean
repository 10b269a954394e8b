import PolymeshRest.Events.Basic

/-!
# Transactions and their status handlers

The SDK reports every status change of a transaction to `handleTransactionStatusChange`, which
nobody awaits, so the handlers of one transaction overlap.  A handler awaits `createEvent` and, if
the status is terminal, releases the listener and awaits `markSubsAsDone`; an error anywhere ends
it in its `catch`, while the calls of a `Promise.all` that have not ended go on.

## Main definitions

* `Transaction`, `Transaction.assemblePayload` : what the service reads of an SDK transaction, and
  the payload it makes of it; `none` where the code throws.
* `StatusHandler`, `Stores.handleTransactionStatusChange`, `StatusHandler.next`
* `StatusHandler.StepCase` : what a step of a handler can do.
-/

namespace PolymeshRest

/-- The statuses from which a transaction does not go on. -/
def TransactionStatus.isTerminal (status : TransactionStatus) : Bool :=
  ([.aborted, .failed, .rejected, .succeeded] : List TransactionStatus).contains status

/-- What the service reads of a `Transaction` of the SDK. -/
structure Transaction where
  status : TransactionStatus
  /-- The tag, or the tags of a batch. -/
  type : TransactionTags
  txHash : Option String := none
  blockHash : Option String := none
  blockNumber : Option ℕ := none
  /-- `error.message` -/
  error : Option String := none
  deriving DecidableEq, Repr

namespace Transaction

/-- It was signed, so its hash is included. -/
def signed (transaction : Transaction) : Bool :=
  !([.rejected, .unapproved, .idle] : List TransactionStatus).contains transaction.status

/-- It is in a block. -/
def inBlock (transaction : Transaction) : Bool :=
  ([.succeeded, .failed] : List TransactionStatus).contains transaction.status

/-- It ended with an error. -/
def erred (transaction : Transaction) : Bool :=
  ([.aborted, .failed, .rejected] : List TransactionStatus).contains transaction.status

/-- `assemblePayload`.  The block number and the error are read with `!`: where the SDK has not
set them, the code throws. -/
def assemblePayload (transaction : Transaction) (proposal : Option String) :
    Option TransactionUpdatePayload := do
  let blockNumber ← (if transaction.inBlock then transaction.blockNumber.map some else some none)
  let error ← (if transaction.erred then transaction.error.map some else some none)
  return {
    status := transaction.status
    proposal
    type := transaction.type
    transactionHash := if transaction.signed then transaction.txHash else none
    blockHash := if transaction.inBlock then transaction.blockHash else none
    blockNumber := blockNumber.map Nat.repr
    result := if transaction.status = .succeeded then some "placeholder" else none
    error }

/-- The SDK has set what `assemblePayload` takes for granted. -/
def Complete (transaction : Transaction) : Prop :=
  (transaction.inBlock → transaction.blockNumber.isSome) ∧
    (transaction.erred → transaction.error.isSome)

instance : DecidablePred Complete := fun _ => inferInstanceAs (Decidable (_ ∧ _))

/-- `assemblePayload` throws exactly for a transaction that is not complete. -/
theorem isSome_assemblePayload (transaction : Transaction) (proposal : Option String) :
    (transaction.assemblePayload proposal).isSome ↔ transaction.Complete := by
  obtain ⟨status, type, txHash, blockHash, blockNumber, error⟩ := transaction
  cases status <;> cases blockNumber <;> cases error <;>
    simp [assemblePayload, Complete, inBlock, erred]

end Transaction

/-! ### Status handlers -/

namespace StatusHandler

/-- The part of a handler that threw. -/
inductive Failure where
  | assemblePayload
  | createEvent
  /-- `transactionStore.get(id)!` is `undefined`. -/
  | transactionStore
  /-- The `findAll` of `markSubsAsDone`. -/
  | findAll
  | batchMarkAsDone
  deriving DecidableEq, Repr

/-- Where a handler is. -/
inductive Stage where
  /-- It awaits `createEvent`. -/
  | createEvent
  /-- It awaits the `findAll` of `markSubsAsDone`. -/
  | findAll
  /-- It awaits the `Promise.all` of `batchMarkAsDone`, with the updates that have not ended. -/
  | batchMarkAsDone (pending : List ℕ)
  /-- It has returned. -/
  | finished
  /-- It has returned through its `catch`; the updates that have not ended go on. -/
  | caught (failure : Failure) (pending : List ℕ)
  deriving DecidableEq, Repr

/-- What lets a handler go on. -/
inductive Reply where
  /-- A repository call of its `createEvent` ends. -/
  | event (reply : CreateEvent.Reply)
  /-- Its `createEvent` has resolved or rejected. -/
  | proceed
  /-- The `findAll` of `markSubsAsDone` ends. -/
  | findAll (resolved : Bool)
  /-- The update of the `j`-th subscription still pending ends. -/
  | update (j : ℕ) (outcome : Outcome)
  deriving DecidableEq, Repr

end StatusHandler

/-- A call of `handleTransactionStatusChange`. -/
structure StatusHandler where
  /-- The internal id of the transaction. -/
  id : ℕ
  /-- The status, saved before anything is awaited. -/
  status : TransactionStatus
  /-- Its `createEvent`; `none` if assembling the payload threw. -/
  call : Option CreateEvent
  stage : StatusHandler.Stage
  deriving DecidableEq, Repr

/-- `handleTransactionStatusChange`, up to its first repository call. -/
def Stores.handleTransactionStatusChange (w : Stores) (id : ℕ) (transaction : Transaction) :
    Stores × StatusHandler :=
  match transaction.assemblePayload none with
  | some payload =>
    let (w', call) := w.createEvent ⟨.transactionUpdate, id.repr, payload⟩
    (w', { id, status := transaction.status, call := some call, stage := .createEvent })
  | none =>
    (w, { id, status := transaction.status, call := none, stage := .caught .assemblePayload [] })

namespace StatusHandler

/-- After an update of `batchMarkAsDone` that resolved, or where there was none to make. -/
def Stage.afterUpdate : List ℕ → Stage
  | [] => .finished
  | pending => .batchMarkAsDone pending

/-- `affectedSubscriptions` of `markSubsAsDone` -/
def affectedSubscriptions (h : StatusHandler) (w : Stores) : List SubscriptionModel :=
  findAll w.subscriptions w.now (listening .transactionUpdate h.id.repr)

/-- The update of `batchMarkAsDone` for one subscription, which ended with `outcome`. -/
def markAsDone (w : Stores) (subscriptionId : ℕ) (outcome : Outcome) : Stores :=
  { w with
    subscriptions := outcome.apply w.subscriptions
      (w.subscriptions.update subscriptionId { status := some .done }) }

/-- `handleTransactionStatusChange`, from the end of a call it awaits to the next one.  `stored`
says whether `transactionStore` has an entry for the transaction; the `Bool` returned, whether
the handler takes that entry away and calls its `unsubCallback`. -/
def next (config : NotificationsConfig) (w : Stores) (stored : Bool) (h : StatusHandler) :
    Reply → Option (Stores × StatusHandler × Bool)
  | .event reply =>
    h.call.bind fun call => (call.next config w reply).map fun (w', call') =>
      (w', { h with call := some call' }, false)
  | .proceed =>
    match h.stage, h.call.map CreateEvent.phase with
    | .createEvent, some .resolved =>
      if h.status.isTerminal then
        if stored then some (w, { h with stage := .findAll }, true)
        else some (w, { h with stage := .caught .transactionStore [] }, false)
      else some (w, { h with stage := .finished }, false)
    | .createEvent, some (.rejected _ _) =>
      some (w, { h with stage := .caught .createEvent [] }, false)
    | _, _ => none
  | .findAll resolved =>
    match h.stage, resolved with
    | .findAll, true =>
      let pending := (h.affectedSubscriptions w).map SubscriptionModel.id
      some (w, { h with stage := .afterUpdate pending }, false)
    | .findAll, false => some (w, { h with stage := .caught .findAll [] }, false)
    | _, _ => none
  | .update j outcome =>
    match h.stage with
    | .batchMarkAsDone pending =>
      pending[j]?.map fun subscriptionId =>
        (markAsDone w subscriptionId outcome,
          { h with
            stage :=
              if outcome.ok then .afterUpdate (pending.eraseIdx j)
              else .caught .batchMarkAsDone (pending.eraseIdx j) },
          false)
    | .caught failure pending =>
      -- the `Promise.all` has rejected already, but this update had been asked for
      pending[j]?.map fun subscriptionId =>
        (markAsDone w subscriptionId outcome,
          { h with stage := .caught failure (pending.eraseIdx j) }, false)
    | _ => none

/-- The subscriptions the handler is yet to mark as Done. -/
def marking (h : StatusHandler) : List ℕ :=
  match h.stage with
  | .batchMarkAsDone pending => pending
  | .caught _ pending => pending
  | _ => []

/-- The handler has returned. -/
def returned (h : StatusHandler) : Bool :=
  match h.stage with
  | .finished => true
  | .caught _ _ => true
  | _ => false

/-- The handler of a terminal status has done all it has to do. -/
def completed (h : StatusHandler) : Bool := h.status.isTerminal && h.stage = .finished

@[simp] theorem marking_afterUpdate (id : ℕ) (status : TransactionStatus)
    (call : Option CreateEvent) (pending : List ℕ) :
    marking ⟨id, status, call, .afterUpdate pending⟩ = pending := by
  cases pending <;> rfl

/-- What a step of a handler can do. -/
inductive StepCase (config : NotificationsConfig) (w : Stores) (stored : Bool)
    (h : StatusHandler) : Reply → Stores → StatusHandler → Bool → Prop where
  | event (reply : CreateEvent.Reply) (c c' : CreateEvent) (w' : Stores) (call : h.call = some c)
    (step : CreateEvent.StepCase config w c reply w' c') :
    StepCase config w stored h (.event reply) w' { h with call := some c' } false
  | eventCreated (c : CreateEvent) (stage : h.stage = .createEvent) (call : h.call = some c)
    (resolved : c.phase = .resolved) (terminal : h.status.isTerminal = false) :
    StepCase config w stored h .proceed w { h with stage := .finished } false
  | release (c : CreateEvent) (stage : h.stage = .createEvent) (call : h.call = some c)
    (resolved : c.phase = .resolved) (terminal : h.status.isTerminal = true)
    (entry : stored = true) :
    StepCase config w stored h .proceed w { h with stage := .findAll } true
  | noEntry (c : CreateEvent) (stage : h.stage = .createEvent) (call : h.call = some c)
    (resolved : c.phase = .resolved) (terminal : h.status.isTerminal = true)
    (entry : stored = false) :
    StepCase config w stored h .proceed w { h with stage := .caught .transactionStore [] } false
  | eventRejected (c : CreateEvent) (stage : h.stage = .createEvent) (call : h.call = some c)
    (failed : CreateEvent.Call) (pending : List NewNotification)
    (rejected : c.phase = .rejected failed pending) :
    StepCase config w stored h .proceed w { h with stage := .caught .createEvent [] } false
  | lookUp (stage : h.stage = .findAll) :
    StepCase config w stored h (.findAll true) w
      { h with stage := .afterUpdate ((h.affectedSubscriptions w).map SubscriptionModel.id) } false
  | lookUpRejected (stage : h.stage = .findAll) :
    StepCase config w stored h (.findAll false) w { h with stage := .caught .findAll [] } false
  | update (j subscriptionId : ℕ) (pending : List ℕ) (stage : h.stage = .batchMarkAsDone pending)
    (pending_eq : pending[j]? = some subscriptionId) :
    StepCase config w stored h (.update j .resolved) (markAsDone w subscriptionId .resolved)
      { h with stage := .afterUpdate (pending.eraseIdx j) } false
  | updateRejected (j subscriptionId : ℕ) (pending : List ℕ) (outcome : Outcome)
    (stage : h.stage = .batchMarkAsDone pending) (pending_eq : pending[j]? = some subscriptionId)
    (failed : outcome.ok = false) :
    StepCase config w stored h (.update j outcome) (markAsDone w subscriptionId outcome)
      { h with stage := .caught .batchMarkAsDone (pending.eraseIdx j) } false
  | lateUpdate (j subscriptionId : ℕ) (failure : Failure) (pending : List ℕ) (outcome : Outcome)
    (stage : h.stage = .caught failure pending) (pending_eq : pending[j]? = some subscriptionId) :
    StepCase config w stored h (.update j outcome) (markAsDone w subscriptionId outcome)
      { h with stage := .caught failure (pending.eraseIdx j) } false

variable {config : NotificationsConfig} {w w' : Stores} {stored released : Bool}
  {h h' : StatusHandler} {reply : Reply}

/-- **Every step of a handler is one of these.** -/
theorem next_cases (hst : h.next config w stored reply = some (w', h', released)) :
    StepCase config w stored h reply w' h' released := by
  unfold next at hst
  split at hst
  · obtain ⟨c, hc, hst⟩ := Option.bind_eq_some_iff.1 hst
    obtain ⟨⟨w₁, c'⟩, hnext, hst⟩ := Option.map_eq_some_iff.1 hst
    cases hst
    exact .event _ c c' w' hc (CreateEvent.next_cases hnext)
  · split at hst
    · rename_i hstage hphase
      obtain ⟨c, hc, hresolved⟩ := Option.map_eq_some_iff.1 hphase
      split_ifs at hst with hterminal hstored <;> cases hst
      · exact .release c hstage hc hresolved hterminal hstored
      · exact .noEntry c hstage hc hresolved hterminal (by simpa using hstored)
      · exact .eventCreated c hstage hc hresolved (by simpa using hterminal)
    · rename_i failed pending hstage hphase
      obtain ⟨c, hc, hrejected⟩ := Option.map_eq_some_iff.1 hphase
      cases hst
      exact .eventRejected c hstage hc failed pending hrejected
    · cases hst
  · split at hst
    · rename_i hstage
      cases hst
      exact .lookUp hstage
    · rename_i hstage
      cases hst
      exact .lookUpRejected hstage
    · cases hst
  · split at hst
    · rename_i outcome _ pending hstage
      obtain ⟨subscriptionId, hid, hst⟩ := Option.map_eq_some_iff.1 hst
      cases hst
      by_cases hok : outcome.ok = true
      · cases Outcome.eq_resolved hok
        exact .update _ subscriptionId pending hstage hid
      · rw [if_neg hok]
        exact .updateRejected _ subscriptionId pending _ hstage hid (by simpa using hok)
    · rename_i failure pending hstage
      obtain ⟨subscriptionId, hid, hst⟩ := Option.map_eq_some_iff.1 hst
      cases hst
      exact .lateUpdate _ subscriptionId failure pending _ hstage hid
    · cases hst

theorem StepCase.id_eq (hcase : StepCase config w stored h reply w' h' released) :
    h'.id = h.id ∧ h'.status = h.status := by
  cases hcase <;> exact ⟨rfl, rfl⟩

/-- The handler is about to look up subscriptions, and will. -/
def looksUp (h : StatusHandler) : Reply → Bool
  | .event reply => h.call.any (·.looksUp reply)
  | .findAll resolved => h.stage = .findAll && resolved
  | _ => false

/-- The subscriptions that a handler has looked up and is yet to notify or to mark as Done. -/
def Concerns (h : StatusHandler) (k : ℕ) : Prop :=
  (∃ c ∈ h.call, ∃ new ∈ c.drafts, new.subscriptionId = k) ∨ k ∈ h.marking

/-- A handler is called for an event of its own transaction. -/
def Reports (h : StatusHandler) : Prop :=
  ∀ c ∈ h.call, c.event.type = .transactionUpdate ∧ c.event.scope = h.id.repr

theorem stores_of_call (w : Stores) (id : ℕ) (transaction : Transaction) :
    (w.handleTransactionStatusChange id transaction).1.subscriptions = w.subscriptions ∧
      (w.handleTransactionStatusChange id transaction).1.notifications = w.notifications := by
  unfold Stores.handleTransactionStatusChange
  split <;> exact ⟨rfl, rfl⟩

theorem id_of_call (w : Stores) (id : ℕ) (transaction : Transaction) :
    (w.handleTransactionStatusChange id transaction).2.id = id := by
  unfold Stores.handleTransactionStatusChange
  split <;> rfl

theorem reports_of_call (w : Stores) (id : ℕ) (transaction : Transaction) :
    (w.handleTransactionStatusChange id transaction).2.Reports := by
  unfold Stores.handleTransactionStatusChange
  split
  · rintro c ⟨⟩
    exact ⟨rfl, rfl⟩
  · rintro c ⟨⟩

theorem not_concerns_of_call (w : Stores) (id : ℕ) (transaction : Transaction) (k : ℕ) :
    ¬ (w.handleTransactionStatusChange id transaction).2.Concerns k := by
  unfold Stores.handleTransactionStatusChange
  split
  · rintro (⟨c, ⟨⟩, new, hnew, -⟩ | hmarking)
    · simp [CreateEvent.drafts, CreateEvent.looked, CreateEvent.pending] at hnew
    · simp [marking] at hmarking
  · rintro (⟨c, ⟨⟩, -⟩ | hmarking)
    simp [marking] at hmarking

theorem StepCase.reports (hcase : StepCase config w stored h reply w' h' released)
    (hreports : h.Reports) : h'.Reports := by
  cases hcase with
  | event reply c c' w' hc hstep =>
    intro d hd
    cases hd
    show c'.event.type = _ ∧ c'.event.scope = _
    rw [hstep.event_eq]
    exact hreports c hc
  | _ => exact hreports

/-- A handler comes to concern a subscription by looking it up. -/
theorem StepCase.concerns (hcase : StepCase config w stored h reply w' h' released)
    (hreports : h.Reports) {k : ℕ} (hk : h'.Concerns k) : h.Concerns k ∨
      h.looksUp reply = true ∧ ∃ sub ∈ h.affectedSubscriptions w, sub.id = k := by
  obtain ⟨id, status, call, stage⟩ := h
  cases hcase with
  | event reply c c' w' hc hstep =>
    cases hc
    obtain ⟨d, hd, new, hnew, rfl⟩ | hmarking := hk
    · cases hd
      obtain hold | ⟨hlooks, sub, hsub, rfl⟩ := hstep.mem_drafts hnew
      · exact .inl (.inl ⟨c, rfl, new, hold, rfl⟩)
      · refine .inr ⟨hlooks, sub, ?_, rfl⟩
        obtain ⟨htype, hscope⟩ := hreports c rfl
        rwa [Stores.affectedSubscriptions, htype, hscope] at hsub
    · exact .inl (.inr hmarking)
  | lookUp hstage =>
    cases hstage
    obtain hdrafts | hmarking := hk
    · exact .inl (.inl hdrafts)
    · rw [marking_afterUpdate] at hmarking
      obtain ⟨sub, hsub, rfl⟩ := List.mem_map.1 hmarking
      exact .inr ⟨rfl, sub, hsub, rfl⟩
  | update j subscriptionId pending hstage hid =>
    cases hstage
    obtain hdrafts | hmarking := hk
    · exact .inl (.inl hdrafts)
    · rw [marking_afterUpdate] at hmarking
      exact .inl (.inr (List.mem_of_mem_eraseIdx hmarking))
  | updateRejected j subscriptionId pending outcome hstage hid hfailed
  | lateUpdate j subscriptionId failure pending outcome hstage hid =>
    cases hstage
    obtain hdrafts | hmarking := hk
    · exact .inl (.inl hdrafts)
    · exact .inl (.inr (List.mem_of_mem_eraseIdx hmarking))
  | eventCreated | release | noEntry | eventRejected | lookUpRejected =>
    obtain hdrafts | hmarking := hk
    · exact .inl (.inl hdrafts)
    · simp [marking] at hmarking

/-- A handler changes only subscriptions it concerns. -/
theorem StepCase.rows_eq (hcase : StepCase config w stored h reply w' h' released) {k : ℕ}
    (hk : ¬ h.Concerns k) : w'.subscriptions.rows k = w.subscriptions.rows k := by
  have hmark : ∀ {j subscriptionId : ℕ} {pending : List ℕ} {outcome : Outcome},
      h.marking = pending → pending[j]? = some subscriptionId →
      (markAsDone w subscriptionId outcome).subscriptions.rows k = w.subscriptions.rows k := by
    rintro j subscriptionId pending outcome rfl hid
    have hne : k ≠ subscriptionId := by
      rintro rfl
      exact hk (.inr (List.mem_of_getElem? hid))
    cases outcome with
    | rejected => rfl
    | resolved | unconfirmed => exact SubscriptionRepo.update_rows_of_ne hne
  cases hcase with
  | event reply c c' w' hc hstep =>
    obtain hsubs | ⟨-, hsubs⟩ := hstep.subscriptions_cases
    · rw [hsubs]
    · rw [hsubs]
      refine SubscriptionRepo.incrementNonces_rows_of_notMem fun hmem => hk (.inl ?_)
      obtain ⟨new, hnew, hid⟩ := List.mem_map.1 hmem
      exact ⟨c, hc, new, hnew, hid⟩
  | update j subscriptionId pending hstage hid
  | updateRejected j subscriptionId pending outcome hstage hid
  | lateUpdate j subscriptionId failure pending outcome hstage hid =>
    exact hmark (by simp only [marking, hstage]) hid
  | _ => rfl

theorem StepCase.notifications_cases (hcase : StepCase config w stored h reply w' h' released) :
    w'.notifications = w.notifications ∨ ∃ r c new, reply = .event r ∧ h.call = some c ∧
      new ∈ c.drafts ∧ w'.notifications = w.notifications.create config w.now new := by
  cases hcase with
  | event r c c' w' hc hstep =>
    obtain hnotes | ⟨new, hnew, hnotes⟩ := hstep.notifications_cases
    · exact .inl hnotes
    · exact .inr ⟨r, c, new, rfl, hc, hnew, hnotes⟩
  | _ => exact .inl rfl

theorem StepCase.keeps (hcase : StepCase config w stored h reply w' h' released) :
    w.subscriptions.Keeps w'.subscriptions := by
  have hmark : ∀ (subscriptionId : ℕ) (outcome : Outcome),
      w.subscriptions.Keeps (markAsDone w subscriptionId outcome).subscriptions := by
    intro subscriptionId outcome
    cases outcome with
    | rejected => exact .refl _
    | resolved | unconfirmed => exact SubscriptionRepo.keeps_update _ _ _
  cases hcase with
  | event reply c c' w' hc hstep => exact hstep.keeps
  | update j subscriptionId pending hstage hid
  | updateRejected j subscriptionId pending outcome hstage hid
  | lateUpdate j subscriptionId failure pending outcome hstage hid => exact hmark _ _
  | _ => exact .refl _

end StatusHandler

end PolymeshRest
