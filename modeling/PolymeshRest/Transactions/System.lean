import PolymeshRest.Subscriptions.Handshake
import PolymeshRest.Transactions.Basic

/-!
# Instances of the service on one store

Any number of instances of the service share the subscriptions and the notifications, as the ones
on one Postgres database do.  What an instance keeps in memory (`Process`) is its own and is lost
when it restarts: the counter of internal transaction ids, `transactionStore`, the events, and the
timers of its handshakes.

## Main definitions

* `Submission` : a transaction given to `submitAndSubscribe`, with its status handlers.
* `Transactions.State`, `Transactions.Act`, `Transactions.machine π τ` : instances `π` and
  transactions `τ`, both of any number, in any interleaving.
* `Transactions.StepCase`, `Transactions.HandlerCase` : what a step can do, and what it makes of a
  handler.

The SDK reports a status to the listeners of a transaction that is running, until they
unsubscribe.
-/

namespace PolymeshRest

namespace Transactions

/-- The settings of an instance. -/
structure Config where
  subscriptions : SubscriptionsConfig
  notifications : NotificationsConfig
  legitimacySecret : String

/-- What an instance keeps in memory. -/
structure Process (τ : Type*) where
  /-- How often it has restarted. -/
  restarts : ℕ
  /-- `currentId` of `TransactionsService` -/
  currentId : ℕ
  transactionStore : ℕ → Option τ
  events : EventsRepo
  /-- The timers and the attempts of its handshakes. -/
  tasks : Attempts SendHandshake

/-- An instance that has just started. -/
def Process.init {τ : Type*} (restarts : ℕ) : Process τ :=
  ⟨restarts, 0, fun _ => none, .empty, .empty⟩

/-- The listener of a transaction of the SDK. -/
structure Listener where
  /-- The SDK calls it. -/
  attached : Bool := false
  /-- How often `unsubCallback` was called. -/
  unsubs : ℕ := 0
  deriving DecidableEq, Repr

/-- Where a call of `submitAndSubscribe` is. -/
inductive Phase where
  /-- It awaits `createSubscription`. -/
  | createSubscription
  /-- It awaits `updateSubscription`. -/
  | updateSubscription
  /-- It has run the transaction. -/
  | running
  /-- It was rejected before that. -/
  | rejected
  deriving DecidableEq, Repr

end Transactions

/-- A transaction given to `submitAndSubscribe`. -/
structure Submission (π : Type*) where
  process : π
  /-- How often the instance had restarted when it was called. -/
  restarts : ℕ
  /-- The internal id. -/
  id : ℕ
  webhookUrl : String
  phase : Transactions.Phase
  /-- The subscription created for it. -/
  subscriptionId : Option ℕ
  /-- Its status handlers, in the order in which the SDK called them. -/
  handlers : List StatusHandler

namespace Transactions

/-- The stores that are shared, the instances and the transactions. -/
structure State (π τ : Type*) where
  now : ℕ
  subscriptions : SubscriptionRepo
  notifications : NotificationRepo
  processes : π → Process τ
  transactions : τ → Option (Submission π)
  listeners : τ → Listener

/-- A step of the handshakes of an instance. -/
inductive HandshakeAct where
  /-- A timer fires. -/
  | fire (handle : ℕ)
  /-- The call the `i`-th attempt of subscription `id` awaits ends. -/
  | resume (id i : ℕ) (reply : Handshake.Reply)

def HandshakeAct.toAct : HandshakeAct → Handshake.Act
  | .fire handle => .fire handle
  | .resume id i reply => .resume id i reply

inductive Act (π τ : Type*) where
  /-- Time passes. -/
  | tick
  | submitAndSubscribe (T : τ) (p : π) (webhookUrl : String)
  /-- The `createSubscription` of `submitAndSubscribe` ends. -/
  | createSubscription (T : τ) (resolved : Bool)
  /-- Its `updateSubscription` ends. -/
  | updateSubscription (T : τ) (outcome : Outcome)
  /-- The SDK reports the status of a transaction. -/
  | statusChange (T : τ) (transaction : Transaction)
  /-- The `i`-th status handler of a transaction goes on. -/
  | handler (T : τ) (i : ℕ) (reply : StatusHandler.Reply)
  | handshake (p : π) (a : HandshakeAct)
  | restart (p : π)

variable {π τ : Type*} [DecidableEq π] [DecidableEq τ]

namespace State

omit [DecidableEq π] [DecidableEq τ] in
/-- The stores the services of the instance `p` work on. -/
def stores (s : State π τ) (p : π) : Stores where
  now := s.now
  subscriptions := s.subscriptions
  notifications := s.notifications
  events := (s.processes p).events

/-- The instance `p` has left its stores as `w`. -/
def withStores (s : State π τ) (p : π) (w : Stores) : State π τ :=
  { s with
    subscriptions := w.subscriptions
    notifications := w.notifications
    processes := Function.update s.processes p { s.processes p with events := w.events } }

omit [DecidableEq π] [DecidableEq τ] in
/-- The subscriptions with the handshakes of the instance `p`. -/
def handshakes (s : State π τ) (p : π) : Handshake.State where
  repo := s.subscriptions
  tasks := (s.processes p).tasks
  posts _ := []
  failures _ := 0
  now := s.now

/-- The instance `p` has left the subscriptions and its handshakes as `h`. -/
def withHandshakes (s : State π τ) (p : π) (h : Handshake.State) : State π τ :=
  { s with
    subscriptions := h.repo
    processes := Function.update s.processes p { s.processes p with tasks := h.tasks } }

omit [DecidableEq π] in
def withTransaction (s : State π τ) (T : τ) (x : Submission π) : State π τ :=
  { s with transactions := Function.update s.transactions T (some x) }

/-- `addListener`: the next id, the listener and the entry of `transactionStore`. -/
def addListener (s : State π τ) (T : τ) (p : π) (webhookUrl : String) : State π τ :=
  let id := (s.processes p).currentId + 1
  { s with
    processes := Function.update s.processes p
      { s.processes p with
        currentId := id
        transactionStore := Function.update (s.processes p).transactionStore id (some T) }
    transactions := Function.update s.transactions T
      (some { process := p, restarts := (s.processes p).restarts, id, webhookUrl
              phase := .createSubscription, subscriptionId := none, handlers := [] })
    listeners := Function.update s.listeners T { s.listeners T with attached := true } }

/-- `txData.unsubCallback()` and `transactionStore.delete(id)` -/
def release (s : State π τ) (p : π) (id : ℕ) : State π τ :=
  { s with
    processes := Function.update s.processes p
      { s.processes p with
        transactionStore := Function.update (s.processes p).transactionStore id none }
    listeners := fun T =>
      if (s.processes p).transactionStore id = some T then ⟨false, (s.listeners T).unsubs + 1⟩
      else s.listeners T }

/-- The instance `p` restarts: what it was doing is lost. -/
def restart (s : State π τ) (p : π) : State π τ :=
  { s with processes := Function.update s.processes p (.init ((s.processes p).restarts + 1)) }

/-- The `i`-th handler of the transaction `T` has gone on to `h`, has left the stores of its
instance as `w`, and has `released` the listener or not. -/
def commit (s : State π τ) (T : τ) (x : Submission π) (i : ℕ) (h : StatusHandler) (w : Stores)
    (released : Bool) : State π τ :=
  let s' := (s.withStores x.process w).withTransaction T { x with handlers := x.handlers.set i h }
  if released then s'.release x.process h.id else s'

omit [DecidableEq π] [DecidableEq τ] in
/-- The instance that `x` was given to has not restarted since. -/
def alive (s : State π τ) (x : Submission π) : Bool := (s.processes x.process).restarts = x.restarts

end State

/-- What `submitAndSubscribe` creates. -/
def Config.subscriptionFor (config : Config) (x : Submission π) : NewSubscription where
  eventType := .transactionUpdate
  eventScope := x.id.repr
  webhookUrl := x.webhookUrl
  legitimacySecret := config.legitimacySecret

/-- One step. -/
def next (config : Config) (s : State π τ) : Act π τ → Option (State π τ)
  | .tick => some { s with now := s.now + 1 }
  | .submitAndSubscribe T p webhookUrl =>
    if (s.transactions T).isNone then some (s.addListener T p webhookUrl) else none
  | .createSubscription T resolved =>
    (s.transactions T).bind fun x =>
      if s.alive x && x.phase = .createSubscription then
        if resolved then
          let h := (s.handshakes x.process).createSubscription config.subscriptions
            (config.subscriptionFor x)
          some ((s.withHandshakes x.process h).withTransaction T
            { x with phase := .updateSubscription, subscriptionId := some h.repo.currentId })
        else some (s.withTransaction T { x with phase := .rejected })
      else none
  | .updateSubscription T outcome =>
    (s.transactions T).bind fun x =>
      if s.alive x && x.phase = .updateSubscription then
        x.subscriptionId.map fun subscriptionId =>
          let subscriptions := outcome.apply s.subscriptions
            (s.subscriptions.update subscriptionId { nextNonce := some 1 })
          -- the transaction is run only if the caller sees the update succeed
          let phase := if outcome.ok then .running else .rejected
          { s with subscriptions }.withTransaction T { x with phase }
      else none
  | .statusChange T transaction =>
    (s.transactions T).bind fun x =>
      if s.alive x && (s.listeners T).attached && x.phase = .running then
        let (w, h) := (s.stores x.process).handleTransactionStatusChange x.id transaction
        some ((s.withStores x.process w).withTransaction T { x with handlers := x.handlers ++ [h] })
      else none
  | .handler T i reply =>
    (s.transactions T).bind fun x =>
      if s.alive x then
        x.handlers[i]?.bind fun h =>
          let stored := ((s.processes x.process).transactionStore h.id).isSome
          (h.next config.notifications (s.stores x.process) stored reply).map
            fun (w, h', released) => s.commit T x i h' w released
      else none
  | .handshake p a =>
    (Handshake.next config.subscriptions (s.handshakes p) a.toAct).map (s.withHandshakes p)
  | .restart p => some (s.restart p)

def machine (π τ : Type*) [DecidableEq π] [DecidableEq τ] (config : Config) :
    Machine (State π τ) (Act π τ) := ⟨next config⟩

omit [DecidableEq π] [DecidableEq τ] in
/-- Instances that have just started, on empty stores. -/
def init (now : ℕ) : State π τ where
  now := now
  subscriptions := .empty
  notifications := .empty
  processes _ := .init 0
  transactions _ := none
  listeners _ := {}

/-! ### What a step can do -/

namespace State

variable {s : State π τ} {T : τ} {x : Submission π} {i : ℕ} {h : StatusHandler} {w : Stores}
  {released : Bool}

@[simp] theorem commit_now : (s.commit T x i h w released).now = s.now := by
  cases released <;> rfl

@[simp] theorem commit_subscriptions :
    (s.commit T x i h w released).subscriptions = w.subscriptions := by
  cases released <;> rfl

@[simp] theorem commit_notifications :
    (s.commit T x i h w released).notifications = w.notifications := by
  cases released <;> rfl

@[simp] theorem commit_transactions : (s.commit T x i h w released).transactions =
    Function.update s.transactions T (some { x with handlers := x.handlers.set i h }) := by
  cases released <;> rfl

theorem commit_transactions_self : (s.commit T x i h w released).transactions T =
    some { x with handlers := x.handlers.set i h } := by
  rw [commit_transactions, Function.update_self]

theorem commit_process (p : π) :
    ((s.commit T x i h w released).processes p).restarts = (s.processes p).restarts ∧
      ((s.commit T x i h w released).processes p).currentId = (s.processes p).currentId ∧
      ((s.commit T x i h w released).processes p).tasks = (s.processes p).tasks ∧
      ((s.commit T x i h w released).processes p).events =
        if p = x.process then w.events else (s.processes p).events := by
  by_cases hp : p = x.process <;> cases released <;>
    simp [commit, withStores, withTransaction, release, hp]

@[simp] theorem commit_restarts (p : π) :
    ((s.commit T x i h w released).processes p).restarts = (s.processes p).restarts :=
  (commit_process p).1

@[simp] theorem commit_currentId (p : π) :
    ((s.commit T x i h w released).processes p).currentId = (s.processes p).currentId :=
  (commit_process p).2.1

@[simp] theorem commit_tasks (p : π) :
    ((s.commit T x i h w released).processes p).tasks = (s.processes p).tasks :=
  (commit_process p).2.2.1

@[simp] theorem commit_events (p : π) :
    ((s.commit T x i h w released).processes p).events =
      if p = x.process then w.events else (s.processes p).events :=
  (commit_process p).2.2.2

end State

omit [DecidableEq π] [DecidableEq τ] in
theorem handshake_cases {config : SubscriptionsConfig} {s : State π τ} {p : π} {a : HandshakeAct}
    {h : Handshake.State} (hst : Handshake.next config (s.handshakes p) a.toAct = some h) :
    h.repo = s.subscriptions ∨
      (∃ id i triesLeft outcome, a = .resume id i (.update outcome) ∧
        ((s.processes p).tasks.running id)[i]? = some (.activate triesLeft) ∧
        outcome.written = true ∧
        h.repo = s.subscriptions.update id { status := some .active }) ∨
      ∃ id i triesLeft status reply, a = .resume id i reply ∧
        ((s.processes p).tasks.running id)[i]? = some (.retry triesLeft) ∧
        status ≠ some .active ∧ status ≠ some .done ∧
        h.repo = s.subscriptions.update id { triesLeft := some triesLeft, status } := by
  cases a with
  | fire handle =>
    obtain ⟨t, hfire, rfl⟩ := Option.map_eq_some_iff.1 hst
    obtain ⟨tasks, -, rfl⟩ := Option.map_eq_some_iff.1 hfire
    exact .inl rfl
  | resume id i reply =>
    obtain ⟨t, hresume, rfl⟩ := Option.map_eq_some_iff.1 hst
    obtain ⟨pc, e, hpc, he, rfl⟩ := TaskStore.resume_eq_some.1 hresume
    obtain hwrite | ⟨triesLeft, outcome, rfl, rfl, hwritten, hwrite⟩ |
      ⟨triesLeft, status, rfl, hactive, hdone, hwrite⟩ := Handshake.write_cases he
    · refine .inl ?_
      simp only [TaskStore.commit, hwrite]
      rfl
    · refine .inr (.inl ⟨id, i, triesLeft, outcome, rfl, hpc, hwritten, ?_⟩)
      simp only [TaskStore.commit, hwrite]
      rfl
    · refine .inr (.inr ⟨id, i, triesLeft, status, reply, rfl, hpc, hactive, hdone, ?_⟩)
      simp only [TaskStore.commit, hwrite]
      rfl

omit [DecidableEq π] [DecidableEq τ] in
theorem keeps_handshake {config : SubscriptionsConfig} {s : State π τ} {p : π} {a : HandshakeAct}
    {h : Handshake.State} (hst : Handshake.next config (s.handshakes p) a.toAct = some h) :
    s.subscriptions.Keeps h.repo := by
  obtain hrepo | ⟨id, _, _, _, _, _, _, hrepo⟩ | ⟨id, _, _, _, _, _, _, _, _, hrepo⟩ :=
    handshake_cases hst
  · rw [hrepo]
    exact .refl _
  · rw [hrepo]
    exact SubscriptionRepo.keeps_update _ _ _
  · rw [hrepo]
    exact SubscriptionRepo.keeps_update _ _ _

omit [DecidableEq π] in
theorem eq_or_of_update {f : τ → Option (Submission π)} {T T' : τ} {x y : Submission π}
    (h : Function.update f T (some x) T' = some y) : T' = T ∧ y = x ∨ T' ≠ T ∧ f T' = some y := by
  rw [Function.update_apply] at h
  split_ifs at h with hT
  · exact .inl ⟨hT, (Option.some.inj h).symm⟩
  · exact .inr ⟨hT, h⟩

section

omit [DecidableEq π]

variable {f : τ → Option (Submission π)} {T T₁ : τ} {y y' : Submission π}
  {P : Submission π → Prop}

/-- What holds of a transaction holds after a step that sets one, if it is passed on to what is
set. -/
theorem exists_of_update (h : ∃ x, f T = some x ∧ P x) (hy : f T₁ = some y) (hset : P y → P y') :
    ∃ x, Function.update f T₁ (some y') T = some x ∧ P x := by
  obtain ⟨x, hx, hP⟩ := h
  by_cases hT : T = T₁
  · subst hT
    obtain rfl : x = y := Option.some.inj (hx.symm.trans hy)
    exact ⟨y', Function.update_self .., hset hP⟩
  · exact ⟨x, by rw [Function.update_of_ne hT, hx], hP⟩

theorem exists_of_insert (h : ∃ x, f T = some x ∧ P x) (hfree : f T₁ = none) :
    ∃ x, Function.update f T₁ (some y') T = some x ∧ P x := by
  obtain ⟨x, hx, hP⟩ := h
  have hT : T ≠ T₁ := by
    rintro rfl
    rw [hfree] at hx
    cases hx
  exact ⟨x, by rw [Function.update_of_ne hT, hx], hP⟩

end

/-- What a step can do. -/
inductive StepCase (config : Config) (s : State π τ) : Act π τ → State π τ → Prop where
  | tick : StepCase config s .tick { s with now := s.now + 1 }
  | submitAndSubscribe (T : τ) (p : π) (webhookUrl : String) (free : s.transactions T = none) :
    StepCase config s (.submitAndSubscribe T p webhookUrl) (s.addListener T p webhookUrl)
  | subscriptionCreated (T : τ) (x : Submission π) (transaction : s.transactions T = some x)
    (alive : s.alive x = true) (phase : x.phase = .createSubscription) :
    StepCase config s (.createSubscription T true)
      ((s.withHandshakes x.process ((s.handshakes x.process).createSubscription
        config.subscriptions (config.subscriptionFor x))).withTransaction T
        { x with
          phase := .updateSubscription
          subscriptionId := some (s.subscriptions.currentId + 1) })
  | subscriptionRejected (T : τ) (x : Submission π) (transaction : s.transactions T = some x)
    (alive : s.alive x = true) (phase : x.phase = .createSubscription) :
    StepCase config s (.createSubscription T false)
      (s.withTransaction T { x with phase := .rejected })
  | nonceSet (T : τ) (x : Submission π) (outcome : Outcome) (k : ℕ)
    (transaction : s.transactions T = some x) (alive : s.alive x = true)
    (phase : x.phase = .updateSubscription) (subscriptionId : x.subscriptionId = some k) :
    StepCase config s (.updateSubscription T outcome)
      ({ s with
        subscriptions := outcome.apply s.subscriptions
          (s.subscriptions.update k { nextNonce := some 1 }) }.withTransaction T
        { x with phase := if outcome.ok then .running else .rejected })
  | statusChange (T : τ) (x : Submission π) (transaction : Transaction)
    (submission : s.transactions T = some x) (alive : s.alive x = true)
    (attached : (s.listeners T).attached = true) (phase : x.phase = .running) :
    StepCase config s (.statusChange T transaction)
      ((s.withStores x.process
        ((s.stores x.process).handleTransactionStatusChange x.id transaction).1).withTransaction T
        { x with
          handlers := x.handlers ++
            [((s.stores x.process).handleTransactionStatusChange x.id transaction).2] })
  | handler (T : τ) (x : Submission π) (i : ℕ) (reply : StatusHandler.Reply)
    (h h' : StatusHandler) (w : Stores) (released : Bool)
    (transaction : s.transactions T = some x) (alive : s.alive x = true)
    (handler : x.handlers[i]? = some h)
    (step : StatusHandler.StepCase config.notifications (s.stores x.process)
      ((s.processes x.process).transactionStore h.id).isSome h reply w h' released) :
    StepCase config s (.handler T i reply) (s.commit T x i h' w released)
  | handshake (p : π) (a : HandshakeAct) (h : Handshake.State)
    (step : Handshake.next config.subscriptions (s.handshakes p) a.toAct = some h) :
    StepCase config s (.handshake p a) (s.withHandshakes p h)
  | restart (p : π) : StepCase config s (.restart p) (s.restart p)

/-- **Every step is one of these.** -/
theorem next_cases {config : Config} {s s' : State π τ} {a : Act π τ}
    (hst : next config s a = some s') : StepCase config s a s' := by
  cases a with
  | tick =>
    cases hst
    exact .tick
  | submitAndSubscribe T p webhookUrl =>
    simp only [next, Option.isNone_iff_eq_none, Option.ite_none_right_eq_some,
      Option.some.injEq] at hst
    obtain ⟨hfree, rfl⟩ := hst
    exact .submitAndSubscribe T p webhookUrl hfree
  | createSubscription T resolved =>
    obtain ⟨x, hx, hst⟩ := Option.bind_eq_some_iff.1 hst
    simp only [Bool.and_eq_true, decide_eq_true_eq, Option.ite_none_right_eq_some] at hst
    obtain ⟨⟨halive, hphase⟩, hst⟩ := hst
    cases resolved with
    | true =>
      cases hst
      exact .subscriptionCreated T x hx halive hphase
    | false =>
      cases hst
      exact .subscriptionRejected T x hx halive hphase
  | updateSubscription T outcome =>
    obtain ⟨x, hx, hst⟩ := Option.bind_eq_some_iff.1 hst
    simp only [Bool.and_eq_true, decide_eq_true_eq, Option.ite_none_right_eq_some,
      Option.map_eq_some_iff] at hst
    obtain ⟨⟨halive, hphase⟩, k, hk, rfl⟩ := hst
    exact .nonceSet T x outcome k hx halive hphase hk
  | statusChange T transaction =>
    obtain ⟨x, hx, hst⟩ := Option.bind_eq_some_iff.1 hst
    simp only [Bool.and_eq_true, decide_eq_true_eq, Option.ite_none_right_eq_some,
      Option.some.injEq] at hst
    obtain ⟨⟨⟨halive, hattached⟩, hphase⟩, rfl⟩ := hst
    exact .statusChange T x transaction hx halive hattached hphase
  | handler T i reply =>
    obtain ⟨x, hx, hst⟩ := Option.bind_eq_some_iff.1 hst
    simp only [Option.ite_none_right_eq_some, Option.bind_eq_some_iff,
      Option.map_eq_some_iff] at hst
    obtain ⟨halive, h, hh, ⟨w, h', released⟩, hnext, rfl⟩ := hst
    exact .handler T x i reply h h' w released hx halive hh (StatusHandler.next_cases hnext)
  | handshake p a =>
    obtain ⟨h, hnext, rfl⟩ := Option.map_eq_some_iff.1 hst
    exact .handshake p a h hnext
  | restart p =>
    cases hst
    exact .restart p

/-! ### What a step does to the handlers -/

/-- The `i`-th handler of `T`, which was given as `x`, after a step: it is as before, it was
called, or it has gone on. -/
inductive HandlerCase (config : Config) (s : State π τ) (T : τ) (x : Submission π) (i : ℕ) :
    Act π τ → State π τ → StatusHandler → Prop where
  | same (a : Act π τ) (s' : State π τ) (h : StatusHandler) (handler : x.handlers[i]? = some h)
    (other : ∀ reply, a ≠ .handler T i reply) : HandlerCase config s T x i a s' h
  | called (transaction : Transaction) (last : i = x.handlers.length) :
    HandlerCase config s T x i (.statusChange T transaction)
      ((s.withStores x.process
        ((s.stores x.process).handleTransactionStatusChange x.id transaction).1).withTransaction T
        { x with
          handlers := x.handlers ++
            [((s.stores x.process).handleTransactionStatusChange x.id transaction).2] })
      ((s.stores x.process).handleTransactionStatusChange x.id transaction).2
  | moved (reply : StatusHandler.Reply) (h h' : StatusHandler) (w : Stores) (released : Bool)
    (handler : x.handlers[i]? = some h)
    (step : StatusHandler.StepCase config.notifications (s.stores x.process)
      ((s.processes x.process).transactionStore h.id).isSome h reply w h' released) :
    HandlerCase config s T x i (.handler T i reply) (s.commit T x i h' w released) h'

/-- What a step keeps of a transaction: its instance and its internal id, and its subscription
unless the step has stored it. -/
structure Submission.KeptBy (s : State π τ) (x x' : Submission π) : Prop where
  process : x'.process = x.process
  restarts : x'.restarts = x.restarts
  id : x'.id = x.id
  subscriptionId : ∀ k, x'.subscriptionId = some k →
    x.subscriptionId = some k ∨ s.subscriptions.rows k = none
  created : x.phase ≠ .createSubscription → x'.subscriptionId = x.subscriptionId

/-- **Every handler after a step is one of these.** -/
theorem handlerCase_next {config : Config} {s s' : State π τ} {a : Act π τ}
    (hst : next config s a = some s') {T : τ} {x' : Submission π}
    (hx' : s'.transactions T = some x') {i : ℕ} {h' : StatusHandler}
    (hh' : x'.handlers[i]? = some h') : ∃ x, s.transactions T = some x ∧
      Submission.KeptBy s x x' ∧ HandlerCase config s T x i a s' h' := by
  have hother : s.transactions T = some x' → (∀ reply, a ≠ .handler T i reply) →
      ∃ x, s.transactions T = some x ∧ Submission.KeptBy s x x' ∧
        HandlerCase config s T x i a s' h' :=
    fun hx hne =>
      ⟨x', hx, ⟨rfl, rfl, rfl, fun k hk => .inl hk, fun _ => rfl⟩, .same a s' h' hh' hne⟩
  cases next_cases hst with
  | tick | restart | handshake => exact hother hx' fun _ h => nomatch h
  | submitAndSubscribe T₁ p webhookUrl hfree =>
    obtain ⟨-, rfl⟩ | ⟨-, hold⟩ := eq_or_of_update hx'
    · simp at hh'
    · exact hother hold fun _ h => nomatch h
  | subscriptionCreated T₁ x hx halive hphase =>
    obtain ⟨rfl, rfl⟩ | ⟨-, hold⟩ := eq_or_of_update hx'
    · refine ⟨x, hx, ⟨rfl, rfl, rfl, fun k hk => .inr ?_, fun hne => absurd hphase hne⟩,
        .same _ _ h' hh' fun _ h => nomatch h⟩
      cases hk
      exact Table.rows_next
    · exact hother hold fun _ h => nomatch h
  | subscriptionRejected T₁ x hx | nonceSet T₁ x _ _ hx =>
    obtain ⟨rfl, rfl⟩ | ⟨-, hold⟩ := eq_or_of_update hx'
    · exact ⟨x, hx, ⟨rfl, rfl, rfl, fun k hk => .inl hk, fun _ => rfl⟩,
        .same _ _ h' hh' fun _ h => nomatch h⟩
    · exact hother hold fun _ h => nomatch h
  | statusChange T₁ x transaction hx halive hattached hphase =>
    obtain ⟨rfl, rfl⟩ | ⟨-, hold⟩ := eq_or_of_update hx'
    · refine ⟨x, hx, ⟨rfl, rfl, rfl, fun k hk => .inl hk, fun _ => rfl⟩, ?_⟩
      rw [List.getElem?_append] at hh'
      split_ifs at hh' with hlt
      · exact .same _ _ h' hh' fun _ h => nomatch h
      · rw [List.getElem?_singleton] at hh'
        split_ifs at hh' with hlast
        cases hh'
        exact .called transaction (by omega)
    · exact hother hold fun _ h => nomatch h
  | handler T₁ x j reply g g' w released hx halive hg hcase =>
    rw [State.commit_transactions] at hx'
    obtain ⟨rfl, rfl⟩ | ⟨hT, hold⟩ := eq_or_of_update hx'
    · refine ⟨x, hx, ⟨rfl, rfl, rfl, fun k hk => .inl hk, fun _ => rfl⟩, ?_⟩
      by_cases hij : j = i
      · subst hij
        rw [List.getElem?_set_self (List.getElem?_eq_some_iff.1 hg).1] at hh'
        cases hh'
        exact .moved reply g _ w released hg hcase
      · rw [List.getElem?_set_ne hij] at hh'
        refine .same _ _ h' hh' fun _ h => ?_
        cases h
        exact hij rfl
    · refine hother hold fun _ h => ?_
      cases h
      exact hT rfl

omit [DecidableEq π] [DecidableEq τ]

/-- Subscriptions that live for a minute. -/
def oneMinute : Config := ⟨⟨60000, 3⟩, ⟨10, .postgres⟩, ""⟩

/-- The transaction `T` is submitted to the instance `p`, which runs it once its subscription
is stored. -/
def submission (T : τ) (p : π) : List (Act π τ) :=
  [.submitAndSubscribe T p "https://hook", .createSubscription T true,
    .updateSubscription T .resolved]

/-- The first handshake of the subscription `k` of the instance `p` is sent and echoed. -/
def activation (p : π) (k : ℕ) : List (Act π τ) :=
  [.handshake p (.fire 0), .handshake p (.resume k 0 (.read true)),
    .handshake p (.resume k 0 (.secret (some "secret"))),
    .handshake p (.resume k 0 (.response (some ⟨200, some "secret"⟩))),
    .handshake p (.resume k 0 (.update .resolved))]

/-- A transaction that was signed and sent. -/
def running : Transaction where
  status := .running
  type := .single "asset.createAsset"
  txHash := some "0x01"

/-- A transaction in a block. -/
def succeeded : Transaction where
  status := .succeeded
  type := .single "asset.createAsset"
  txHash := some "0x01"
  blockHash := some "0x02"
  blockNumber := some 7

end Transactions

end PolymeshRest
