import PolymeshRest.Events.Order
import PolymeshRest.Transactions.Isolation

/-!
# The notifications of a transaction, in order

The SDK reports the statuses of a transaction one after the other, and waits for none of the
handlers.  Each handler notifies the subscription of the transaction with the nonce it reads, if
it finds the subscription Active then, so the nonces follow the statuses only if the handlers read
them in the same order, and each after those before it have increased theirs.

## Main definitions

* `Transactions.creations` : the notifications that a step creates, and the handler that does.
* `Transactions.CallCase` : what a step does to the `createEvent` of a handler.
* `Transactions.InOrder` : the handlers of a transaction look up its subscription one after the
  other, while it is Active and unexpired.
* `Transactions.Ordered` : the invariant of the runs in order.

## Main results

* `Transactions.notified_in_order` : one notification for each status, with increasing nonces.
* `Transactions.out_of_order` : handlers that overlap.
-/

namespace PolymeshRest

namespace SubscriptionRepo

variable {repo : SubscriptionRepo} {k : ℕ}

theorem nextNonce_update {id : ℕ} {params : SubscriptionUpdate} (h : params.nextNonce = none) :
    (repo.update id params).nextNonce k = repo.nextNonce k := by
  unfold nextNonce
  rw [update_rows]
  split
  · cases repo.rows k with
    | none => rfl
    | some sub => simp [SubscriptionUpdate.apply, h]
  · rfl

theorem nextNonce_update_of_ne {id : ℕ} {params : SubscriptionUpdate} (h : k ≠ id) :
    (repo.update id params).nextNonce k = repo.nextNonce k := by
  unfold nextNonce
  rw [update_rows_of_ne h]

end SubscriptionRepo

namespace StatusHandler

variable {config : NotificationsConfig} {w w' : Stores} {stored released : Bool}
  {h h' : StatusHandler} {reply : Reply} {k : ℕ}

theorem nextNonce_markAsDone {subscriptionId : ℕ} {outcome : Outcome} :
    (markAsDone w subscriptionId outcome).subscriptions.nextNonce k =
      w.subscriptions.nextNonce k := by
  cases outcome with
  | rejected => rfl
  | resolved | unconfirmed => exact SubscriptionRepo.nextNonce_update rfl

theorem StepCase.nextNonce_le (hcase : StepCase config w stored h reply w' h' released)
    (hrow : ∃ sub, w.subscriptions.rows k = some sub) :
    w.subscriptions.nextNonce k ≤ w'.subscriptions.nextNonce k := by
  cases hcase with
  | event r c c' w' hc hstep =>
    obtain hsubs | ⟨-, hsubs⟩ := hstep.subscriptions_cases
    · rw [hsubs]
    · rw [hsubs, SubscriptionRepo.nextNonce_incrementNonces fun _ => hrow]
      split <;> omega
  | update | updateRejected | lateUpdate => rw [nextNonce_markAsDone]
  | _ => exact le_rfl

theorem StepCase.notifications_eq (hcase : StepCase config w stored h reply w' h' released)
    (hreply : ∀ r, reply ≠ .event r) : w'.notifications = w.notifications := by
  obtain hsame | ⟨r, -, -, hr, -⟩ := hcase.notifications_cases
  · exact hsame
  · exact absurd hr (hreply r)

/-- The `createEvent` of the handler was called, and the handler goes on if it has resolved. -/
def Called (h : StatusHandler) : Prop :=
  ∃ c, h.call = some c ∧ (c.phase = .resolved ∨ h.stage = .createEvent ∨
    ∃ pending, h.stage = .caught .createEvent pending)

theorem called_of_call {id : ℕ} {transaction : Transaction} (hcomplete : transaction.Complete) :
    (w.handleTransactionStatusChange id transaction).2.Called := by
  obtain ⟨payload, hpayload⟩ := Option.isSome_iff_exists.1
    ((transaction.isSome_assemblePayload none).2 hcomplete)
  simp only [Stores.handleTransactionStatusChange, hpayload]
  exact ⟨_, rfl, .inr (.inl rfl)⟩

/-- **One step of a handler** whose `createEvent` was called. -/
theorem StepCase.called (hcase : StepCase config w stored h reply w' h' released)
    (hcalled : h.Called) : h'.Called := by
  obtain ⟨c, hc, hphase⟩ := hcalled
  -- past the `createEvent`, the call has resolved
  have hresolved : h.stage ≠ .createEvent → (∀ pending, h.stage ≠ .caught .createEvent pending) →
      c.phase = .resolved := by
    intro hne hne'
    rcases hphase with hphase | hstage | ⟨pending, hstage⟩
    · exact hphase
    · exact absurd hstage hne
    · exact absurd hstage (hne' pending)
  cases hcase with
  | event r d c' w' hd hstep =>
    obtain rfl : c = d := Option.some.inj (hc.symm.trans hd)
    refine ⟨c', rfl, .inr ?_⟩
    rcases hphase with hphase | hstage
    · cases hstep <;> simp_all
    · exact hstage
  | eventCreated d hstage hd hres | release d hstage hd hres | noEntry d hstage hd hres =>
    exact ⟨d, hd, .inl hres⟩
  | eventRejected => exact ⟨c, hc, .inr (.inr ⟨[], rfl⟩)⟩
  | lookUp hstage | lookUpRejected hstage | update _ _ _ hstage
  | updateRejected _ _ _ _ hstage =>
    exact ⟨c, hc, .inl (hresolved (by simp [hstage]) (by simp [hstage]))⟩
  | lateUpdate j subscriptionId failure pending outcome hstage =>
    by_cases hfailure : failure = .createEvent
    · exact ⟨c, hc, .inr (.inr ⟨_, by rw [hfailure]⟩)⟩
    · exact ⟨c, hc, .inl (hresolved (by simp [hstage]) (by simp [hstage, hfailure]))⟩

/-- A repository call of the handler was rejected, and the handler with it. -/
def repositoryFailed (h : StatusHandler) : Bool :=
  match h.stage with
  | .caught .createEvent _ | .caught .findAll _ | .caught .batchMarkAsDone _ => true
  | _ => false

theorem Called.resolved (h' : h.Called) (hreturned : h.returned = true)
    (hfailed : h.repositoryFailed = false) : ∃ c, h.call = some c ∧ c.phase = .resolved := by
  obtain ⟨c, hc, hphase | hstage | ⟨pending, hstage⟩⟩ := h'
  · exact ⟨c, hc, hphase⟩
  · simp [returned, hstage] at hreturned
  · simp [repositoryFailed, hstage] at hfailed

end StatusHandler

/-- The `createEvent` of the `i`-th status handler. -/
def Submission.call {π : Type*} (x : Submission π) (i : ℕ) : Option CreateEvent :=
  x.handlers[i]?.bind StatusHandler.call

namespace Transactions

variable {π τ : Type*} [DecidableEq π] [DecidableEq τ] {config : Config} {s s' : State π τ}
  {a : Act π τ} {T : τ} {x x' : Submission π} {k i : ℕ}

/-! ### What a step does to a call -/

/-- The `i`-th call of `createEvent` for `T` after a step: it is as before, it was made, or it has
gone on. -/
inductive CallCase (config : Config) (s : State π τ) (T : τ) (x : Submission π) (i : ℕ) :
    Act π τ → State π τ → CreateEvent → Prop where
  | same (a : Act π τ) (s' : State π τ) (c : CreateEvent) (call : x.call i = some c)
    (other : ∀ reply, a ≠ .handler T i (.event reply)) : CallCase config s T x i a s' c
  | made (transaction : Transaction) (s' : State π τ) (c : CreateEvent)
    (last : i = x.handlers.length) (phase : c.phase = .findAll)
    (notifications : c.notifications = none) :
    CallCase config s T x i (.statusChange T transaction) s' c
  | resumed (reply : CreateEvent.Reply) (s' : State π τ) (c c' : CreateEvent) (w : Stores)
    (call : x.call i = some c)
    (step : CreateEvent.StepCase config.notifications (s.stores x.process) c reply w c')
    (subscriptions : s'.subscriptions = w.subscriptions)
    (notifications : s'.notifications = w.notifications) :
    CallCase config s T x i (.handler T i (.event reply)) s' c'

/-- **Every call after a step is one of these.** -/
theorem callCase_next (hst : next config s a = some s') (hx' : s'.transactions T = some x')
    {c' : CreateEvent} (hc' : x'.call i = some c') : ∃ x, s.transactions T = some x ∧
      Submission.KeptBy s x x' ∧ CallCase config s T x i a s' c' := by
  obtain ⟨h', hh', hc'⟩ := Option.bind_eq_some_iff.1 hc'
  obtain ⟨x, hx, hkept, hcase⟩ := handlerCase_next hst hx' hh'
  refine ⟨x, hx, hkept, ?_⟩
  cases hcase with
  | same _ _ _ hh hother =>
    exact .same _ _ c' (Option.bind_eq_some_iff.2 ⟨h', hh, hc'⟩) fun reply => hother (.event reply)
  | called transaction hlast =>
    unfold Stores.handleTransactionStatusChange at hc'
    split at hc'
    · cases hc'
      exact .made transaction _ _ hlast rfl rfl
    · cases hc'
  | moved reply h _ w released hh hcase =>
    cases hcase with
    | event r c d w hc hstep =>
      cases hc'
      exact .resumed r _ c c' w (Option.bind_eq_some_iff.2 ⟨h, hh, hc⟩) hstep
        State.commit_subscriptions State.commit_notifications
    | _ =>
      exact .same _ _ c' (Option.bind_eq_some_iff.2 ⟨h, hh, hc'⟩) fun _ ha => nomatch ha

omit [DecidableEq π] [DecidableEq τ] in
theorem handlers_ne_nil {c : CreateEvent} (hc : x.call i = some c) : x.handlers ≠ [] := by
  intro hnil
  simp [Submission.call, hnil] at hc

/-! ### The notifications that handlers create -/

/-- A notification, and the handler of a transaction that created it. -/
structure Creation (τ : Type*) where
  transaction : τ
  handler : ℕ
  notification : NotificationModel

omit [DecidableEq π] [DecidableEq τ] in
/-- The notifications that a step creates. -/
def creations (s : State π τ) (a : Act π τ) (s' : State π τ) : List (Creation τ) :=
  match a with
  | .handler T i _ => (s'.notifications.since s.notifications).map (⟨T, i, ·⟩)
  | _ => []

/-- The notifications for the subscription `k` that the `i`-th handler of `T` has created. -/
def createdBy (log : List (Creation τ)) (T : τ) (i k : ℕ) : List NotificationModel :=
  ((log.filter fun e => e.transaction = T ∧ e.handler = i).map Creation.notification).filter
    (·.subscriptionId = k)

theorem createdBy_append (log log' : List (Creation τ)) : createdBy (log ++ log') T i k =
    createdBy log T i k ++ createdBy log' T i k := by
  simp [createdBy]

omit [DecidableEq π] in
theorem createdBy_creations {reply : StatusHandler.Reply} :
    createdBy (creations s (.handler T i reply) s') T i k =
      (s'.notifications.since s.notifications).filter (·.subscriptionId = k) := by
  simp [createdBy, creations, List.filter_map, Function.comp_def]

theorem createdBy_creations_eq_nil (hst : next config s a = some s')
    (hother : ∀ reply, a ≠ .handler T i (.event reply)) :
    createdBy (creations s a s') T i k = [] := by
  cases next_cases hst with
  | handler T' x j reply h h' w released hx halive hh hcase =>
    by_cases hT : T' = T ∧ j = i
    · obtain ⟨rfl, rfl⟩ := hT
      have hreply : ∀ r, reply ≠ .event r := by
        rintro r rfl
        exact hother r rfl
      have hsame : s.notifications = w.notifications := (hcase.notifications_eq hreply).symm
      rw [createdBy_creations, State.commit_notifications, ← hsame, Table.since_self,
        List.filter_nil]
    · simp [createdBy, creations, List.filter_map, Function.comp_def, hT]
  | _ => rfl

/-! ### Runs in order -/

/-- The handlers of `T` look up its subscription while it is Active and unexpired, each after
those before it have increased the nonce; and the statuses the SDK reports are complete. -/
def InOrder (T : τ) (s : State π τ) : Act π τ → Prop
  | .statusChange T' transaction => T' = T → transaction.Complete
  | .handler T' i (.event reply) => T' = T → ∀ x ∈ s.transactions T, ∀ c ∈ x.call i,
      c.looksUp reply = true →
        s.listens T x.id = true ∧ ∀ j < i, ∀ d ∈ x.call j, d.bumped = true
  | _ => True

/-- What holds in every state of a run in order that has left the `log`. -/
structure Ordered (T : τ) (s : State π τ) (log : List (Creation τ)) : Prop where
  filed : Filed s
  running : ∀ x ∈ s.transactions T, x.handlers ≠ [] → x.phase = .running
  called : ∀ x ∈ s.transactions T, ∀ h ∈ x.handlers, h.Called
  known : ∀ e ∈ log, e.transaction = T → ∃ x ∈ s.transactions T, e.handler < x.handlers.length
  stored : ∀ e ∈ log, s.notifications.rows e.notification.id = some e.notification
  progress : ∀ x ∈ s.transactions T, ∀ k ∈ x.subscriptionId, ∀ i, ∀ c ∈ x.call i,
    c.failed = false → c.Progress (s.subscriptions.nextNonce k) k (createdBy log T i k)
  /-- Who has looked up the subscriptions came after those before it had increased the nonces. -/
  ahead : ∀ x ∈ s.transactions T, ∀ i j, i < j → ∀ c ∈ x.call i, ∀ d ∈ x.call j,
    d.notifications ≠ none → c.bumped = true
  increasing : ∀ x ∈ s.transactions T, ∀ k ∈ x.subscriptionId, ∀ i j, i < j →
    ∀ c ∈ x.call i, ∀ d ∈ x.call j, c.failed = false → d.failed = false →
      ∀ m ∈ c.nonceFor k, ∀ n ∈ d.nonceFor k, m < n

omit [DecidableEq π] in
theorem ordered_init (T : τ) (now : ℕ) : Ordered T (init now : State π τ) [] where
  filed := filed_init now
  running _ h := nomatch h
  called _ h := nomatch h
  known _ h := nomatch h
  stored _ h := nomatch h
  progress _ h := nomatch h
  ahead _ h := nomatch h
  increasing _ h := nomatch h

/-- The nonce of the subscription of a running transaction does not decrease. -/
theorem nextNonce_le_of_next (hfiled : Filed s) (hst : next config s a = some s')
    (hx : s.transactions T = some x) (hk : x.subscriptionId = some k)
    (hrunning : x.phase = .running) :
    s.subscriptions.nextNonce k ≤ s'.subscriptions.nextNonce k := by
  obtain ⟨sub, hrow⟩ := hfiled.stored T k ⟨x, hx, hk⟩
  have hupdate : ∀ {id : ℕ} {params : SubscriptionUpdate}, k ≠ id ∨ params.nextNonce = none →
      s.subscriptions.nextNonce k ≤ (s.subscriptions.update id params).nextNonce k := by
    rintro id params (hne | hnone)
    · exact (SubscriptionRepo.nextNonce_update_of_ne hne).ge
    · exact (SubscriptionRepo.nextNonce_update hnone).ge
  cases next_cases hst with
  | tick | submitAndSubscribe | subscriptionRejected | restart => exact le_rfl
  | subscriptionCreated T' y hy halive hphase =>
    have hrow' : Table.rows _ k = some sub :=
      Table.insert_rows_of_some (SubscriptionParams.toModel_id (config.subscriptions.paramsOf s.now
        (config.subscriptionFor y))) hrow
    exact ((SubscriptionRepo.nextNonce_of_row hrow).trans
      (SubscriptionRepo.nextNonce_of_row hrow').symm).le
  | nonceSet T' y outcome id hy halive hphase hid =>
    -- this is the subscription of another transaction
    have hne : k ≠ id := by
      rintro rfl
      obtain rfl := hfiled.unique T' T k ⟨y, hy, hid⟩ ⟨x, hx, hk⟩
      obtain rfl : x = y := Option.some.inj (hx.symm.trans hy)
      rw [hrunning] at hphase
      cases hphase
    cases outcome with
    | rejected => exact le_rfl
    | resolved | unconfirmed => exact hupdate (.inl hne)
  | statusChange T' y transaction hy =>
    obtain ⟨hsubs, -⟩ := StatusHandler.stores_of_call (s.stores y.process) y.id transaction
    exact (congrArg (SubscriptionRepo.nextNonce · k) hsubs).ge
  | handler T' y j reply h h' w released hy halive hh hcase =>
    rw [State.commit_subscriptions]
    exact hcase.nextNonce_le ⟨sub, hrow⟩
  | handshake p b h hstep =>
    show s.subscriptions.nextNonce k ≤ SubscriptionRepo.nextNonce h.repo k
    obtain hrepo | ⟨_, _, _, _, _, _, _, hrepo⟩ | ⟨_, _, _, _, _, _, _, _, _, hrepo⟩ :=
      handshake_cases hstep
    · rw [hrepo]
    · rw [hrepo]
      exact hupdate (.inr rfl)
    · rw [hrepo]
      exact hupdate (.inr rfl)

omit [DecidableEq π] [DecidableEq τ] in
/-- A lookup finds the subscription that listens. -/
theorem found_of_listens (hfiled : Filed s) (hx : s.transactions T = some x)
    (hk : x.subscriptionId = some k) {c : CreateEvent} (hc : x.call i = some c)
    (hlistens : s.listens T x.id = true) :
    ∃ sub ∈ (s.stores x.process).affectedSubscriptions c.event, sub.id = k := by
  obtain ⟨h, hh, hc⟩ := Option.bind_eq_some_iff.1 hc
  obtain ⟨hid, hreports⟩ := hfiled.handlers T x hx h (List.mem_of_getElem? hh)
  obtain ⟨htype, hscope⟩ := hreports c hc
  simp only [State.listens, hx, hk, Option.any_some, Option.bind_some] at hlistens
  obtain ⟨sub, hrow, hmatches⟩ := (Option.any_eq_true ..).1 hlistens
  have hsub := s.subscriptions.key_eq hrow
  refine ⟨sub, mem_findAll.2 ⟨hsub ▸ hrow, ?_⟩, hsub⟩
  rw [htype, hscope, hid]
  exact hmatches

namespace Ordered

variable {log : List (Creation τ)}

omit [DecidableEq π] in
theorem subscriptionId_eq (h : Ordered T s log) (hx : s.transactions T = some x)
    (hkept : Submission.KeptBy s x x') {c : CreateEvent} (hc : x.call i = some c)
    (hk : x'.subscriptionId = some k) : x.subscriptionId = some k := by
  have hrunning := h.running x hx (handlers_ne_nil hc)
  rw [← hkept.created (by simp [hrunning])]
  exact hk

omit [DecidableEq π] in
theorem createdBy_eq_nil (h : Ordered T s log) (hx : s.transactions T = some x)
    (hi : x.handlers.length ≤ i) : createdBy log T i k = [] := by
  have hnone : log.filter (fun e => e.transaction = T ∧ e.handler = i) = [] := by
    refine List.filter_eq_nil_iff.2 fun e he hboth => ?_
    obtain ⟨hT, rfl⟩ := of_decide_eq_true hboth
    obtain ⟨y, hy, hlt⟩ := h.known e he hT
    obtain rfl : x = y := Option.some.inj (hx.symm.trans hy)
    omega
  rw [createdBy, hnone]
  rfl

omit [DecidableEq π] in
theorem found (h : Ordered T s log) {reply : CreateEvent.Reply}
    (horder : InOrder T s (.handler T i (.event reply))) (hx : s.transactions T = some x)
    (hk : x.subscriptionId = some k) {c : CreateEvent} (hc : x.call i = some c)
    (hlooks : c.looksUp reply = true) :
    ∃ sub ∈ (s.stores x.process).affectedSubscriptions c.event, sub.id = k :=
  found_of_listens h.filed hx hk hc (horder rfl x hx c hc hlooks).1

theorem progress_next (h : Ordered T s log) (horder : InOrder T s a)
    (hst : next config s a = some s') (hx' : s'.transactions T = some x')
    (hk' : x'.subscriptionId = some k) {c' : CreateEvent} (hc' : x'.call i = some c')
    (hfailed' : c'.failed = false) : c'.Progress (s'.subscriptions.nextNonce k) k
      (createdBy (log ++ creations s a s') T i k) := by
  obtain ⟨x, hx, hkept, hcase⟩ := callCase_next hst hx' hc'
  rw [createdBy_append]
  cases hcase with
  | same _ _ _ hc hother =>
    have hk := h.subscriptionId_eq hx hkept hc hk'
    have hle := nextNonce_le_of_next h.filed hst hx hk (h.running x hx (handlers_ne_nil hc))
    rw [createdBy_creations_eq_nil hst hother, List.append_nil]
    exact (h.progress x hx k hk i c' hc hfailed').mono hle
  | made transaction _ _ hlast hphase hnone =>
    have hnew : createdBy (creations s (.statusChange T transaction) s') T i k = [] :=
      createdBy_creations_eq_nil hst fun _ ha => nomatch ha
    rw [hnew, List.append_nil, h.createdBy_eq_nil hx hlast.ge]
    exact .waiting hphase hnone
  | resumed reply _ c _ w hc hstep hsubs hnotes =>
    have hk := h.subscriptionId_eq hx hkept hc hk'
    rw [createdBy_creations, hsubs, hnotes]
    exact (h.progress x hx k hk i c hc (hstep.failed hfailed')).step hstep
      (h.found horder hx hk hc) (h.filed.stored T k ⟨x, hx, hk⟩) hfailed'

theorem ahead_next (h : Ordered T s log) (horder : InOrder T s a)
    (hst : next config s a = some s') (hx' : s'.transactions T = some x') {i j : ℕ} (hij : i < j)
    {c' d' : CreateEvent} (hc' : x'.call i = some c') (hd' : x'.call j = some d')
    (hlooked : d'.notifications ≠ none) : c'.bumped = true := by
  obtain ⟨x, hx, hkept, hci⟩ := callCase_next hst hx' hc'
  obtain ⟨y, hy, -, hcj⟩ := callCase_next hst hx' hd'
  obtain rfl : x = y := Option.some.inj (hx.symm.trans hy)
  cases hcj with
  | same _ _ _ hd _ =>
    cases hci with
    | same _ _ _ hc _ => exact h.ahead x hx i j hij c' hc d' hd hlooked
    | made _ _ _ hlast =>
      -- the call of `j` is later than one that is made now
      have hj := (List.getElem?_eq_some_iff.1 (Option.bind_eq_some_iff.1 hd).choose_spec.1).1
      omega
    | resumed reply _ c _ w hc hstep => exact hstep.bumped (h.ahead x hx i j hij c hc d' hd hlooked)
  | made _ _ _ _ _ hnone => exact absurd hnone hlooked
  | resumed reply _ d _ w hd hstep =>
    cases hci with
    | same _ _ _ hc _ =>
      rcases hstep.notifications with hsame | hlooks
      · exact h.ahead x hx i j hij c' hc d hd (hsame ▸ hlooked)
      · exact (horder rfl x hx d hd hlooks).2 i hij c' hc
    | resumed => exact absurd hij (lt_irrefl _)

theorem increasing_next (h : Ordered T s log) (horder : InOrder T s a)
    (hst : next config s a = some s') (hx' : s'.transactions T = some x')
    (hk' : x'.subscriptionId = some k) {i j : ℕ} (hij : i < j) {c' d' : CreateEvent}
    (hc' : x'.call i = some c') (hd' : x'.call j = some d') (hfc : c'.failed = false)
    (hfd : d'.failed = false) {m n : ℕ} (hm : c'.nonceFor k = some m)
    (hn : d'.nonceFor k = some n) : m < n := by
  -- a call that has read a nonce has looked up the subscriptions
  have hlooked : ∀ {c : CreateEvent} {n : ℕ}, c.nonceFor k = some n → c.notifications ≠ none := by
    intro c n hn hnone
    simp [CreateEvent.nonceFor, hnone] at hn
  have hnonce : ∀ {c c' : CreateEvent}, c'.notifications = c.notifications →
      c'.nonceFor k = c.nonceFor k := by
    intro c c' hsame
    rw [CreateEvent.nonceFor, hsame, CreateEvent.nonceFor]
  obtain ⟨x, hx, hkept, hci⟩ := callCase_next hst hx' hc'
  obtain ⟨y, hy, -, hcj⟩ := callCase_next hst hx' hd'
  obtain rfl : x = y := Option.some.inj (hx.symm.trans hy)
  cases hcj with
  | same _ _ _ hd _ =>
    have hk := h.subscriptionId_eq hx hkept hd hk'
    cases hci with
    | same _ _ _ hc _ => exact h.increasing x hx k hk i j hij c' hc d' hd hfc hfd m hm n hn
    | made _ _ _ hlast _ hnone => exact absurd hnone (hlooked hm)
    | resumed reply _ c _ w hc hstep =>
      rcases hstep.notifications with hsame | hlooks
      · exact h.increasing x hx k hk i j hij c hc d' hd (hstep.failed hfc) hfd m
          (hnonce hsame ▸ hm) n hn
      · -- the call of `j` has looked up the subscriptions, so that of `i` has before
        have hbumped := h.ahead x hx i j hij c hc d' hd (hlooked hn)
        simp only [CreateEvent.looksUp, Bool.and_eq_true, decide_eq_true_eq] at hlooks
        simp [CreateEvent.bumped, hlooks.1] at hbumped
  | made _ _ _ _ _ hnone => exact absurd hnone (hlooked hn)
  | resumed reply _ d _ w hd hstep =>
    have hk := h.subscriptionId_eq hx hkept hd hk'
    cases hci with
    | same _ _ _ hc _ =>
      rcases hstep.notifications with hsame | hlooks
      · exact h.increasing x hx k hk i j hij c' hc d hd hfc (hstep.failed hfd) m hm n
          (hnonce hsame ▸ hn)
      · -- the call of `j` reads the next nonce, and that of `i` has increased its own
        have hread := hstep.nonceFor_of_looksUp hlooks (h.found horder hx hk hd hlooks)
        obtain rfl : _ = n := Option.some.inj (hread.symm.trans hn)
        exact (h.progress x hx k hk i c' hc hfc).lt
          ((horder rfl x hx d hd hlooks).2 i hij c' hc) hm
    | resumed => exact absurd hij (lt_irrefl _)

theorem running_next (h : Ordered T s log) (hst : next config s a = some s')
    (hx' : s'.transactions T = some x') (hne : x'.handlers ≠ []) : x'.phase = .running := by
  cases next_cases hst with
  | tick | handshake | restart => exact h.running x' hx' hne
  | submitAndSubscribe T' p webhookUrl hfree =>
    obtain ⟨-, rfl⟩ | ⟨-, hold⟩ := eq_or_of_update hx'
    · exact absurd rfl hne
    · exact h.running x' hold hne
  | subscriptionCreated T' x hx halive hphase | subscriptionRejected T' x hx halive hphase
  | nonceSet T' x _ _ hx halive hphase =>
    obtain ⟨rfl, rfl⟩ | ⟨-, hold⟩ := eq_or_of_update hx'
    · have hrunning := h.running x hx hne
      rw [hphase] at hrunning
      cases hrunning
    · exact h.running x' hold hne
  | statusChange T' x transaction hx halive hattached hphase =>
    obtain ⟨-, rfl⟩ | ⟨-, hold⟩ := eq_or_of_update hx'
    · exact hphase
    · exact h.running x' hold hne
  | handler T' x i reply g g' w released hx halive hg hcase =>
    rw [State.commit_transactions] at hx'
    obtain ⟨rfl, rfl⟩ | ⟨-, hold⟩ := eq_or_of_update hx'
    · exact h.running x hx (List.ne_nil_of_mem (List.mem_of_getElem? hg))
    · exact h.running x' hold hne

theorem called_next (h : Ordered T s log) (horder : InOrder T s a)
    (hst : next config s a = some s') (hx' : s'.transactions T = some x') {g' : StatusHandler}
    (hg' : g' ∈ x'.handlers) : g'.Called := by
  obtain ⟨i, hi⟩ := List.mem_iff_getElem?.1 hg'
  obtain ⟨x, hx, -, hcase⟩ := handlerCase_next hst hx' hi
  cases hcase with
  | same _ _ _ hg => exact h.called x hx g' (List.mem_of_getElem? hg)
  | called transaction => exact StatusHandler.called_of_call (horder rfl)
  | moved reply g _ w released hg hcase =>
    exact hcase.called (h.called x hx g (List.mem_of_getElem? hg))

end Ordered

theorem handlers_of_next (hst : next config s a = some s') (hx : s.transactions T = some x) :
    ∃ x', s'.transactions T = some x' ∧ x.handlers.length ≤ x'.handlers.length := by
  have h : ∃ y, s.transactions T = some y ∧ x.handlers.length ≤ y.handlers.length :=
    ⟨x, hx, le_rfl⟩
  cases next_cases hst with
  | tick | handshake | restart => exact h
  | submitAndSubscribe T₁ p webhookUrl hfree => exact exists_of_insert h hfree
  | subscriptionCreated T₁ y hy | subscriptionRejected T₁ y hy | nonceSet T₁ y _ _ hy =>
    exact exists_of_update h hy id
  | statusChange T₁ y transaction hy =>
    refine exists_of_update h hy fun hle => hle.trans ?_
    simp
  | handler T₁ y i reply f f' w released hy =>
    rw [State.commit_transactions]
    exact exists_of_update h hy fun hle => hle.trans (List.length_set ..).ge

/-- **One step** in order. -/
theorem ordered_next {log : List (Creation τ)} (h : Ordered T s log) (horder : InOrder T s a)
    (hst : next config s a = some s') : Ordered T s' (log ++ creations s a s') where
  filed := filed_next h.filed hst
  running x' hx' := h.running_next hst hx'
  called x' hx' g' := h.called_next horder hst hx'
  known e he hT := by
    rcases List.mem_append.1 he with hold | hnew
    · obtain ⟨x, hx, hlt⟩ := h.known e hold hT
      obtain ⟨x', hx', hle⟩ := handlers_of_next hst hx
      exact ⟨x', hx', hlt.trans_le hle⟩
    · cases next_cases hst with
      | handler T' x i reply g g' w released hx halive hg hcase =>
        obtain ⟨m, -, rfl⟩ := List.mem_map.1 hnew
        obtain rfl : T' = T := hT
        refine ⟨_, State.commit_transactions_self, ?_⟩
        rw [List.length_set]
        exact (List.getElem?_eq_some_iff.1 hg).1
      | _ => cases hnew
  stored e he := by
    rcases List.mem_append.1 he with hold | hnew
    · exact notification_of_next hst (h.stored e hold)
    · cases next_cases hst with
      | handler T' x i reply g g' w released hx halive hg hcase =>
        obtain ⟨m, hm, rfl⟩ := List.mem_map.1 hnew
        exact Table.row_of_mem_since hm
      | _ => cases hnew
  progress x' hx' k hk i c hc hfailed := h.progress_next horder hst hx' hk hc hfailed
  ahead x' hx' i j hij c hc d hd := h.ahead_next horder hst hx' hij hc hd
  increasing x' hx' k hk i j hij c hc d hd hfc hfd m hm n hn :=
    h.increasing_next horder hst hx' hk hij hc hd hfc hfd hm hn

/-- Every status of the transaction `x` has produced one notification for the subscription `k`,
and their nonces increase in the order of the statuses. -/
structure NotifiedInOrder (s : State π τ) (x : Submission π) (k : ℕ)
    (created : ℕ → List NotificationModel) : Prop where
  once : ∀ i < x.handlers.length, ∃ c m, x.call i = some c ∧ created i = [m] ∧
    m.eventId = c.event.id ∧ s.notifications.rows m.id = some m
  increasing : ∀ i j, i < j → j < x.handlers.length → ∀ m ∈ created i, ∀ n ∈ created j,
    m.nonce < n.nonce

/-- **In a run in order**, when all handlers of a transaction have returned and none because a
repository failed, each status has produced one notification, with increasing nonces. -/
theorem notified_in_order {now : ℕ} {as : List (Act π τ)}
    (hrun : (machine π τ config).run (init now) as = some s)
    (horder : (machine π τ config).Meets (InOrder T) (init now) as)
    (hx : s.transactions T = some x) (hk : x.subscriptionId = some k)
    (hreturned : ∀ h ∈ x.handlers, h.returned = true ∧ h.repositoryFailed = false) :
    NotifiedInOrder s x k
      fun i => createdBy ((machine π τ config).log creations (init now) as) T i k := by
  have h : Ordered T s ((machine π τ config).log creations (init now) as) :=
    Machine.log_invariant hrun horder (ordered_init T now)
      fun _ _ _ _ h hC hst => ordered_next h hC hst
  set log := (machine π τ config).log creations (init now) as
  have hcall : ∀ i < x.handlers.length, ∃ c m, x.call i = some c ∧ c.failed = false ∧
      createdBy log T i k = [m] ∧ m.eventId = c.event.id ∧ c.nonceFor k = some m.nonce := by
    intro i hi
    have hg := List.getElem_mem hi
    obtain ⟨c, hc, hresolved⟩ := (h.called x hx _ hg).resolved (hreturned _ hg).1 (hreturned _ hg).2
    have hc' : x.call i = some c :=
      Option.bind_eq_some_iff.2 ⟨_, List.getElem?_eq_getElem hi, hc⟩
    have hfailed : c.failed = false := by simp [CreateEvent.failed, hresolved]
    obtain ⟨m, hm, hevent, hn⟩ := (h.progress x hx k hk i c hc' hfailed).of_resolved hresolved
    exact ⟨c, m, hc', hfailed, hm, hevent, hn⟩
  constructor
  · intro i hi
    obtain ⟨c, m, hc, -, hm, hevent, -⟩ := hcall i hi
    have hmem : m ∈ createdBy log T i k := by simp [hm]
    obtain ⟨e, he, rfl⟩ := List.mem_map.1 (List.mem_of_mem_filter hmem)
    exact ⟨c, _, hc, hm, hevent, h.stored e (List.mem_of_mem_filter he)⟩
  · intro i j hij hj m hm n hn
    obtain ⟨c, m', hc, hfc, hcreated, -, hm'⟩ := hcall i (hij.trans hj)
    obtain ⟨d, n', hd, hfd, hcreated', -, hn'⟩ := hcall j hj
    rw [hcreated, List.mem_singleton] at hm
    rw [hcreated', List.mem_singleton] at hn
    subst hm hn
    exact h.increasing x hx k hk i j hij c hc d hd hfc hfd _ hm' _ hn'

/-! ### Runs -/

/-- The SDK reports the statuses of `T` while its subscription is Active and unexpired. -/
def ReportedActive (T : τ) (s : State π τ) : Act π τ → Prop
  | .statusChange T' transaction => T' = T →
      transaction.Complete ∧ ∀ x ∈ s.transactions T, s.listens T x.id = true
  | _ => True

instance decidableInOrder (T : τ) (s : State π τ) : DecidablePred (InOrder T s)
  | .statusChange T' transaction => inferInstanceAs (Decidable (T' = T → transaction.Complete))
  | .handler T' i (.event reply) => inferInstanceAs (Decidable (T' = T → ∀ x ∈ s.transactions T,
      ∀ c ∈ x.call i, c.looksUp reply = true →
        s.listens T x.id = true ∧ ∀ j < i, ∀ d ∈ x.call j, d.bumped = true))
  | .handler _ _ .proceed | .handler _ _ (.findAll _) | .handler _ _ (.update _ _)
  | .tick | .submitAndSubscribe _ _ _ | .createSubscription _ _ | .updateSubscription _ _
  | .handshake _ _ | .restart _ => .isTrue trivial

instance decidableReportedActive (T : τ) (s : State π τ) : DecidablePred (ReportedActive T s)
  | .statusChange T' transaction => inferInstanceAs (Decidable (T' = T → transaction.Complete ∧
      ∀ x ∈ s.transactions T, s.listens T x.id = true))
  | .handler _ _ _ | .tick | .submitAndSubscribe _ _ _ | .createSubscription _ _
  | .updateSubscription _ _ | .handshake _ _ | .restart _ => .isTrue trivial

/-- Repository calls of the `i`-th handler end, one after the other. -/
def steps (i : ℕ) (replies : List StatusHandler.Reply) : List (Act Unit Unit) :=
  replies.map (.handler () i)

/-- All that a handler awaits, until it has notified the subscription. -/
def notifying : List StatusHandler.Reply :=
  [.event (.call true), .event (.call true), .event (.create 0 true), .event (.call true),
    .proceed]

/-- The handler of a terminal status marks the subscription as Done. -/
def marking : List StatusHandler.Reply := [.findAll true, .update 0 .resolved]

/-- A transaction that runs and succeeds, with the handlers one after the other. -/
def inTurn : List (Act Unit Unit) :=
  submission () () ++ activation () 1 ++ .statusChange () running :: steps 0 notifying ++
    .statusChange () succeeded :: steps 1 (notifying ++ marking)

/-- The nonces of a transaction that runs and succeeds. -/
theorem notified_in_turn : ∃ (s : State Unit Unit) (x : Submission Unit),
    x.handlers.length = 2 ∧ NotifiedInOrder s x 1
      fun i => createdBy ((machine Unit Unit oneMinute).log creations (init 0) inTurn) () i 1 := by
  have hrun : ((machine Unit Unit oneMinute).run (init 0) inTurn).any (fun s =>
      (s.transactions ()).any fun x => x.handlers.length = 2 && x.subscriptionId = some 1 &&
        x.handlers.all fun h => h.returned && !h.repositoryFailed) = true := by decide
  obtain ⟨s, hs, hany⟩ := (Option.any_eq_true ..).1 hrun
  obtain ⟨x, hx, hall⟩ := (Option.any_eq_true ..).1 hany
  simp only [Bool.and_eq_true, decide_eq_true_eq, List.all_eq_true, Bool.not_eq_true'] at hall
  exact ⟨s, x, hall.1.1, notified_in_order hs (by decide) hx hall.1.2 hall.2⟩

/-- The handlers of both statuses read the nonce before either increases it. -/
def overlapping : List (Act Unit Unit) :=
  submission () () ++ activation () 1 ++
    [.statusChange () running, .statusChange () succeeded] ++
    steps 0 (notifying.take 1) ++ steps 1 (notifying.take 1) ++ steps 0 (notifying.drop 1) ++
    steps 1 (notifying.drop 1 ++ marking)

/-- The handler of the second status marks the subscription as Done before that of the first one
looks for it. -/
def overtaken : List (Act Unit Unit) :=
  submission () () ++ activation () 1 ++
    [.statusChange () running, .statusChange () succeeded] ++ steps 1 (notifying ++ marking) ++
    steps 0 [.event (.call true), .event (.call true), .proceed]

/-- A run reports the statuses of a transaction while its subscription is Active, all handlers
have returned and no repository has failed, yet the statuses are not notified in order. -/
def OutOfOrder (as : List (Act Unit Unit)) : Prop :=
  ∃ (s : State Unit Unit) (x : Submission Unit),
    (machine Unit Unit oneMinute).run (init 0) as = some s ∧
      (machine Unit Unit oneMinute).Meets (ReportedActive ()) (init 0) as ∧
      s.transactions () = some x ∧ x.subscriptionId = some 1 ∧
      (∀ h ∈ x.handlers, h.returned = true ∧ h.repositoryFailed = false) ∧
      ¬ NotifiedInOrder s x 1
        fun i => createdBy ((machine Unit Unit oneMinute).log creations (init 0) as) () i 1

/-- Two handlers that overlap notify the same nonce twice, or the first one notifies nothing. -/
theorem out_of_order : OutOfOrder overlapping ∧ OutOfOrder overtaken := by
  have hrun : ∀ as ∈ [overlapping, overtaken],
      ((machine Unit Unit oneMinute).run (init 0) as).any (fun s =>
        (s.transactions ()).any fun x => x.handlers.length = 2 && x.subscriptionId = some 1 &&
          x.handlers.all fun h => h.returned && !h.repositoryFailed) = true ∧
      (machine Unit Unit oneMinute).Meets (ReportedActive ()) (init 0) as := by decide
  -- the nonces of the two runs
  have hnonces : ((createdBy ((machine Unit Unit oneMinute).log creations (init 0) overlapping) ()
        0 1).map NotificationModel.nonce = [1] ∧
      (createdBy ((machine Unit Unit oneMinute).log creations (init 0) overlapping) ()
        1 1).map NotificationModel.nonce = [1]) ∧
      createdBy ((machine Unit Unit oneMinute).log creations (init 0) overtaken) () 0 1 = [] := by
    decide
  have hall : ∀ as ∈ [overlapping, overtaken], OutOfOrder as := by
    intro as has
    obtain ⟨hany, hmeets⟩ := hrun as has
    obtain ⟨s, hs, hany⟩ := (Option.any_eq_true ..).1 hany
    obtain ⟨x, hx, hall⟩ := (Option.any_eq_true ..).1 hany
    simp only [Bool.and_eq_true, decide_eq_true_eq, List.all_eq_true, Bool.not_eq_true'] at hall
    refine ⟨s, x, hs, hmeets, hx, hall.1.2, hall.2, fun h => ?_⟩
    obtain ⟨c, m, -, hm, -⟩ := h.once 0 (by omega)
    obtain ⟨d, n, -, hn, -⟩ := h.once 1 (by omega)
    have hlt := h.increasing 0 1 (by omega) (by omega) m (by simp [hm]) n (by simp [hn])
    rcases List.mem_pair.1 has with rfl | rfl
    · obtain ⟨⟨h₀, h₁⟩, -⟩ := hnonces
      simp only [hm, hn, List.map_cons, List.map_nil, List.cons.injEq, and_true] at h₀ h₁
      omega
    · rw [hnonces.2] at hm
      cases hm
  exact ⟨hall overlapping (by simp), hall overtaken (by simp)⟩

end Transactions

end PolymeshRest
