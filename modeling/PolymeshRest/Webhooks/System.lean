import PolymeshRest.Notifications.Delivery
import PolymeshRest.Transactions.Order
import PolymeshRest.Transactions.Settling

/-!
# The webhooks and what they are sent

The instances of the service (`Transactions.State`) with the part of them that sends: a handshake
for every new subscription, and every notification, from timers of the instance that has created
it.  An instance that restarts loses these timers with the rest of its memory.  What goes over the
wire is kept: handshakes, the responses to them, and notifications.

## Main definitions

* `Webhooks.State`, `Webhooks.next`, `Webhooks.machine`
* `Webhooks.StepCase`, `Webhooks.next_cases` : what a step can do.

## Main results

* `Webhooks.attemptCase_next` : where an attempt to send a handshake comes from.
-/

namespace PolymeshRest

namespace Webhooks

open Transactions (HandshakeAct)

/-- The settings of the instances, and the HMAC of a payload under a secret. -/
structure Config where
  transactions : Transactions.Config
  signPayload : NotificationPayload → String → String

/-- What sends the notifications. -/
def Config.delivery (config : Config) : Delivery.Config where
  toNotificationsConfig := config.transactions.notifications
  signPayload := config.signPayload

/-- A notification that was sent. -/
structure Sent where
  post : Delivery.WebhookPost
  sentAt : ℕ
  deriving DecidableEq, Repr

/-- The instances, the timers and the attempts of their notifications, and the wire. -/
structure State (π τ : Type*) where
  services : Transactions.State π τ
  deliveries : π → Attempts SendNotification
  /-- The handshakes that were sent for a subscription. -/
  handshakes : ℕ → List Handshake.HandshakePost := fun _ => []
  /-- The responses to them. -/
  responses : ℕ → List Handshake.Response := fun _ => []
  /-- The event that a notification was created for. -/
  notified : ℕ → Option EventEntity := fun _ => none
  /-- What was sent for a notification. -/
  sent : ℕ → List Sent := fun _ => []

/-- A step of the sending of notifications. -/
inductive DeliveryAct where
  /-- A timer fires. -/
  | fire (handle : ℕ)
  /-- The call the `i`-th attempt of notification `id` awaits ends. -/
  | resume (id i : ℕ) (reply : Delivery.Reply)

def DeliveryAct.toAct : DeliveryAct → Delivery.Act
  | .fire handle => .fire handle
  | .resume id i reply => .resume id i reply

inductive Act (π τ : Type*) where
  | services (a : Transactions.Act π τ)
  | delivery (p : π) (a : DeliveryAct)

variable {π τ : Type*} [DecidableEq π] [DecidableEq τ]

namespace State

omit [DecidableEq π] [DecidableEq τ] in
/-- The notifications as the instance `p` sends them. -/
def delivery (s : State π τ) (p : π) : Delivery.State where
  repo := s.services.notifications
  tasks := s.deliveries p
  posts _ := []
  failures _ := 0
  now := s.services.now
  subscriptions := s.services.subscriptions
  events := (s.services.processes p).events

omit [DecidableEq τ] in
/-- The instance `p` has left the notifications as `d`. -/
def withDelivery (s : State π τ) (p : π) (d : Delivery.State) : State π τ :=
  { s with
    services := { s.services with notifications := d.repo }
    deliveries := Function.update s.deliveries p d.tasks
    sent := fun n => s.sent n ++ (d.posts n).map (⟨·, s.services.now⟩) }

omit [DecidableEq τ] in
/-- `scheduleSendNotification`, for a notification that was created for `event`. -/
def schedule (s : State π τ) (p : π) (event : EventEntity) (n : ℕ) : State π τ :=
  { s with
    deliveries :=
      Function.update s.deliveries p ((s.deliveries p).start Delivery.getTimeoutId n)
    notified := Function.update s.notified n (some event) }

omit [DecidableEq π] [DecidableEq τ] in
/-- The responses after a step of the handshakes. -/
def received (s : State π τ) : HandshakeAct → ℕ → List Handshake.Response
  | .resume k _ (.response (some response)) =>
    Function.update s.responses k (s.responses k ++ [response])
  | _ => s.responses

omit [DecidableEq π] [DecidableEq τ] in
/-- The `createEvent` of the `i`-th handler of `T`, and the instance it runs in. -/
def call (s : State π τ) (T : τ) (i : ℕ) : Option (π × CreateEvent) :=
  (s.services.transactions T).bind fun x => (x.call i).map (x.process, ·)

/-- The services have gone on to `t`. -/
def after (s : State π τ) (config : Config) (t : Transactions.State π τ) :
    Transactions.Act π τ → State π τ
  | .handler T i _ =>
    match s.call T i with
    | some (p, c) =>
      ((t.notifications.since s.services.notifications).map NotificationModel.id).foldl
        (·.schedule p c.event ·) { s with services := t }
    | none => { s with services := t }
  | .handshake p a =>
    let posts := (Handshake.next config.transactions.subscriptions (s.services.handshakes p)
      a.toAct).elim (fun _ => []) fun h => h.posts
    { s with
      services := t
      handshakes := fun k => s.handshakes k ++ posts k
      responses := s.received a }
  | .restart p => { s with services := t, deliveries := Function.update s.deliveries p .empty }
  | _ => { s with services := t }

end State

/-- One step. -/
def next (config : Config) (s : State π τ) : Act π τ → Option (State π τ)
  | .services a => (Transactions.next config.transactions s.services a).map (s.after config · a)
  | .delivery p a =>
    (Delivery.next config.delivery (s.delivery p) a.toAct).map (s.withDelivery p)

def machine (π τ : Type*) [DecidableEq π] [DecidableEq τ] (config : Config) :
    Machine (State π τ) (Act π τ) := ⟨next config⟩

omit [DecidableEq π] [DecidableEq τ] in
/-- Instances that have just started, on empty stores. -/
def init (now : ℕ) : State π τ where
  services := Transactions.init now
  deliveries _ := .empty

/-! ### What a step can do -/

/-- The step neither is one of the handshakes nor restarts an instance. -/
def Local : Transactions.Act π τ → Prop
  | .handshake _ _ | .restart _ => False
  | _ => True

/-- What a step can do. -/
inductive StepCase (config : Config) (s : State π τ) : Act π τ → State π τ → Prop where
  /-- Nothing is sent, and no notification created. -/
  | quiet (a : Transactions.Act π τ) (t : Transactions.State π τ) (isLocal : Local a)
    (step : Transactions.next config.transactions s.services a = some t)
    (notifications : t.notifications = s.services.notifications) :
    StepCase config s (.services a) { s with services := t }
  | created (T : τ) (i : ℕ) (reply : StatusHandler.Reply) (t : Transactions.State π τ) (p : π)
    (c : CreateEvent) (new : NewNotification)
    (step : Transactions.next config.transactions s.services (.handler T i reply) = some t)
    (call : s.call T i = some (p, c)) (alive : ∃ x, s.services.transactions T = some x ∧
      x.process = p ∧ s.services.alive x = true) (draft : new ∈ c.drafts)
    (notifications : t.notifications = s.services.notifications.create
      config.transactions.notifications s.services.now new) :
    StepCase config s (.services (.handler T i reply))
      (State.schedule { s with services := t } p c.event (s.services.notifications.currentId + 1))
  | handshake (p : π) (a : HandshakeAct) (h : Handshake.State)
    (step : Handshake.next config.transactions.subscriptions (s.services.handshakes p) a.toAct =
      some h) :
    StepCase config s (.services (.handshake p a))
      { s with
        services := s.services.withHandshakes p h
        handshakes := fun k => s.handshakes k ++ h.posts k
        responses := s.received a }
  | restart (p : π) :
    StepCase config s (.services (.restart p))
      { s with
        services := s.services.restart p
        deliveries := Function.update s.deliveries p .empty }
  | fire (p : π) (handle : ℕ) (tasks : Attempts SendNotification)
    (fired : (s.deliveries p).fire .findById handle = some tasks) :
    StepCase config s (.delivery p (.fire handle))
      { s with deliveries := Function.update s.deliveries p tasks }
  | resume (p : π) (n i : ℕ) (reply : Delivery.Reply) (pc : SendNotification) (e : Delivery.Effect)
    (attempt : ((s.deliveries p).running n)[i]? = some pc)
    (effect : (s.delivery p).sendNotification config.delivery n pc reply = some e) :
    StepCase config s (.delivery p (.resume n i reply))
      { s with
        services := { s.services with
          notifications := e.write.elim s.services.notifications
            fun w => Table.update s.services.notifications n w }
        deliveries := Function.update s.deliveries p
          ((s.deliveries p).proceed Delivery.getTimeoutId n i e.after)
        sent := Function.update s.sent n
          (s.sent n ++ e.post.toList.map (⟨·, s.services.now⟩)) }

variable {config : Config} {s s' : State π τ}

theorem notifications_cases {config : Transactions.Config} {s t : Transactions.State π τ}
    {a : Transactions.Act π τ} (hst : Transactions.next config s a = some t) :
    t.notifications = s.notifications ∨ ∃ T i reply x c new, a = .handler T i reply ∧
      s.transactions T = some x ∧ s.alive x = true ∧ x.call i = some c ∧ new ∈ c.drafts ∧
        t.notifications = s.notifications.create config.notifications s.now new := by
  cases Transactions.next_cases hst with
  | statusChange T x transaction =>
    exact .inl (StatusHandler.stores_of_call (s.stores x.process) x.id transaction).2
  | handler T x i reply h h' w released hx halive hh hcase =>
    rw [Transactions.State.commit_notifications]
    obtain hsame | ⟨r, c, new, rfl, hc, hnew, hnotes⟩ := hcase.notifications_cases
    · exact .inl hsame
    · refine .inr ⟨T, i, _, x, c, new, rfl, hx, halive, ?_, hnew, hnotes⟩
      exact Option.bind_eq_some_iff.2 ⟨h, hh, hc⟩
  | _ => exact .inl rfl

/-- **Every step is one of these.** -/
theorem next_cases {a : Act π τ} (hst : next config s a = some s') : StepCase config s a s' := by
  cases a with
  | services a =>
    obtain ⟨t, hnext, rfl⟩ := Option.map_eq_some_iff.1 hst
    cases a with
    | handshake p b =>
      obtain ⟨h, hstep, rfl⟩ := Option.map_eq_some_iff.1 hnext
      simp only [State.after, hstep, Option.elim_some]
      exact .handshake p b h hstep
    | restart p =>
      cases hnext
      exact .restart p
    | handler T i reply =>
      obtain hsame | ⟨T', i', r, x, c, new, heq, hx, halive, hc, hnew, hnotes⟩ :=
        notifications_cases hnext
      · have hquiet : s.after config t (.handler T i reply) = { s with services := t } := by
          simp only [State.after, hsame, Table.since_self, List.map_nil, List.foldl_nil]
          split <;> rfl
        rw [hquiet]
        exact .quiet _ t trivial hnext hsame
      · cases heq
        have hcall : s.call T i = some (x.process, c) := by
          rw [State.call, hx, Option.bind_some, hc, Option.map_some]
        have hcreated : s.after config t (.handler T i reply) = State.schedule
            { s with services := t } x.process c.event
              (s.services.notifications.currentId + 1) := by
          simp only [State.after, hcall, hnotes, NotificationRepo.create, Table.since_insert]
          rfl
        rw [hcreated]
        exact .created T i reply t x.process c new hnext hcall ⟨x, hx, rfl, halive⟩ hnew hnotes
    | _ =>
      obtain hsame | ⟨_, _, _, _, _, _, heq, -⟩ := notifications_cases hnext
      · exact .quiet _ t trivial hnext hsame
      · cases heq
  | delivery p a =>
    obtain ⟨d, hnext, rfl⟩ := Option.map_eq_some_iff.1 hst
    cases a with
    | fire handle =>
      obtain ⟨t, hfire, rfl⟩ := Option.map_eq_some_iff.1 hnext
      obtain ⟨tasks, htasks, rfl⟩ := Option.map_eq_some_iff.1 hfire
      have hstate : s.withDelivery p
          { s.delivery p with toTaskStore := { (s.delivery p).toTaskStore with tasks } } =
          { s with deliveries := Function.update s.deliveries p tasks } := by
        simp [State.withDelivery, State.delivery]
      rw [hstate]
      exact .fire p handle tasks htasks
    | resume n i reply =>
      obtain ⟨t, hresume, rfl⟩ := Option.map_eq_some_iff.1 hnext
      obtain ⟨pc, e, hpc, he, rfl⟩ := TaskStore.resume_eq_some.1 hresume
      have hstate : s.withDelivery p { s.delivery p with
          toTaskStore := (s.delivery p).toTaskStore.commit Delivery.getTimeoutId n i e } =
          { s with
            services := { s.services with
              notifications := e.write.elim s.services.notifications
                fun w => Table.update s.services.notifications n w }
            deliveries := Function.update s.deliveries p
              ((s.deliveries p).proceed Delivery.getTimeoutId n i e.after)
            sent := Function.update s.sent n
              (s.sent n ++ e.post.toList.map (⟨·, s.services.now⟩)) } := by
        simp only [State.withDelivery, State.delivery, TaskStore.commit]
        congr 1
        · cases e.write <;> rfl
        · funext k
          by_cases hk : k = n
          · subst hk
            simp
          · simp [Function.update_of_ne hk]
      rw [hstate]
      exact .resume p n i reply pc e hpc he

theorem services_next {a : Transactions.Act π τ} (hst : next config s (.services a) = some s') :
    Transactions.next config.transactions s.services a = some s'.services := by
  cases next_cases hst with
  | quiet a t hlocal hnext hnotes => exact hnext
  | created T i reply t p c new hnext => exact hnext
  | handshake p b h hstep => exact Option.map_eq_some_iff.2 ⟨h, hstep, rfl⟩
  | restart p => rfl

theorem wire_of_resume {p : π} {k i : ℕ} {reply : Handshake.Reply}
    (hst : next config s (.services (.handshake p (.resume k i reply))) = some s')
    {pc : SendHandshake} (hpc : ((s.services.processes p).tasks.running k)[i]? = some pc)
    {e : Handshake.Effect}
    (he : (s.services.handshakes p).sendHandshake k pc reply = some e) :
    s'.handshakes k = s.handshakes k ++ e.post.toList ∧
      ∀ response, reply = .response (some response) → response ∈ s'.responses k := by
  cases next_cases hst with
  | quiet a t hlocal => exact hlocal.elim
  | handshake p b h hstep =>
    obtain ⟨t, hresume, rfl⟩ := Option.map_eq_some_iff.1 hstep
    obtain ⟨pc', e', hpc', he', rfl⟩ := TaskStore.resume_eq_some.1 hresume
    cases hpc.symm.trans hpc'
    cases he.symm.trans he'
    refine ⟨?_, ?_⟩
    · simp [TaskStore.commit, Transactions.State.handshakes]
    · rintro response rfl
      simp [State.received]

theorem written_rows {repo : NotificationRepo} (e : Delivery.Effect) (m k : ℕ) :
    (e.write.elim repo fun w => Table.update repo m w).rows k =
      if k = m then (repo.rows k).map (TaskStore.rewrite e) else repo.rows k := by
  unfold TaskStore.rewrite
  cases e.write with
  | none => simp
  | some w => exact Table.update_rows k

omit [DecidableEq τ] in
theorem busy_update {d : π → Attempts SendNotification} {p q : π}
    {tasks : Attempts SendNotification} {n : ℕ} (h : (Function.update d p tasks q).Busy n) :
    q = p ∧ tasks.Busy n ∨ (d q).Busy n := by
  by_cases hq : q = p
  · subst hq
    rw [Function.update_self] at h
    exact .inl ⟨rfl, h⟩
  · rw [Function.update_of_ne hq] at h
    exact .inr h

/-! ### What every step keeps -/

/-- Nothing that is stored is taken away or becomes another one's, and the wire is not forgotten. -/
structure Extends (s s' : State π τ) : Prop where
  subscriptions : ∀ k sub, s.services.subscriptions.rows k = some sub →
    ∃ sub', s'.services.subscriptions.rows k = some sub' ∧ sub'.fixed = sub.fixed
  notifications : ∀ n row, s.services.notifications.rows n = some row →
    ∃ row', s'.services.notifications.rows n = some row' ∧ row'.toNew = row.toNew
  notified : ∀ n row, s.services.notifications.rows n = some row → s'.notified n = s.notified n
  handshakes : ∀ k, s.handshakes k ⊆ s'.handshakes k
  responses : ∀ k, s.responses k ⊆ s'.responses k

theorem subscriptions_of_next {config : Transactions.Config} {s t : Transactions.State π τ}
    {a : Transactions.Act π τ} (hst : Transactions.next config s a = some t) (k : ℕ)
    (sub : SubscriptionModel) (hrow : s.subscriptions.rows k = some sub) :
    ∃ sub', t.subscriptions.rows k = some sub' ∧ sub'.fixed = sub.fixed := by
  have hkeeps : ∀ {repo : SubscriptionRepo}, s.subscriptions.Keeps repo →
      ∃ sub', repo.rows k = some sub' ∧ sub'.fixed = sub.fixed := fun h => h.row' hrow
  cases Transactions.next_cases hst with
  | subscriptionCreated T x =>
    exact ⟨sub, Table.insert_rows_of_some (SubscriptionParams.toModel_id _) hrow, rfl⟩
  | nonceSet T x outcome id =>
    cases outcome with
    | rejected => exact ⟨sub, hrow, rfl⟩
    | resolved | unconfirmed => exact hkeeps (SubscriptionRepo.keeps_update _ _ _)
  | statusChange T x transaction =>
    refine hkeeps ?_
    show s.subscriptions.Keeps
      ((s.stores x.process).handleTransactionStatusChange x.id transaction).1.subscriptions
    rw [(StatusHandler.stores_of_call (s.stores x.process) x.id transaction).1]
    exact .refl _
  | handler T x i reply h h' w released hx halive hh hcase =>
    rw [Transactions.State.commit_subscriptions]
    exact hkeeps hcase.keeps
  | handshake p b h hstep => exact hkeeps (Transactions.keeps_handshake hstep)
  | _ => exact ⟨sub, hrow, rfl⟩

/-- What an attempt writes is an update of its notification. -/
theorem exists_rewrite {config : Delivery.Config} {d : Delivery.State} {n : ℕ}
    {pc : SendNotification} {reply : Delivery.Reply} {e : Delivery.Effect}
    (he : d.sendNotification config n pc reply = some e)
    {w : Table.Rewrite NotificationModel.id} (hw : e.write = some w) :
    ∃ params : NotificationUpdate, w = params.rewrite := by
  have hwritten : ∀ {outcome : Outcome} {params : NotificationUpdate},
      Delivery.written outcome params = some w → w = params.rewrite := by
    intro outcome params h
    cases outcome with
    | rejected => cases h
    | resolved | unconfirmed => exact (Option.some.inj h).symm
  unfold Delivery.State.sendNotification at he
  split at he <;> cases he
  · split at hw <;> cases hw
  · split at hw
    · split at hw <;> cases hw
    · cases hw
  · exact ⟨_, hwritten hw⟩
  · cases hw
  · exact ⟨_, hwritten hw⟩
  · split at hw <;> exact ⟨_, hwritten hw⟩

theorem extends_next {a : Act π τ} (hst : next config s a = some s') : Extends s s' := by
  have hrefl : ∀ n row, s.services.notifications.rows n = some row →
      ∃ row', s.services.notifications.rows n = some row' ∧ row'.toNew = row.toNew :=
    fun n row hrow => ⟨row, hrow, rfl⟩
  cases next_cases hst with
  | quiet a t hlocal hnext hnotes =>
    refine ⟨subscriptions_of_next hnext, ?_, fun _ _ _ => rfl, fun _ => List.Subset.refl _,
      fun _ => List.Subset.refl _⟩
    rw [hnotes]
    exact hrefl
  | created T i reply t p c new hnext hcall halive hnew hnotes =>
    refine ⟨subscriptions_of_next hnext, fun n row hrow => ?_, fun n row hrow => ?_,
      fun _ => List.Subset.refl _, fun _ => List.Subset.refl _⟩
    · refine ⟨row, ?_, rfl⟩
      show t.notifications.rows n = some row
      rw [hnotes]
      exact Table.insert_rows_of_some
        (config.transactions.notifications.model_id s.services.now new) hrow
    · -- an old notification is not the new one, so what was sent for it stays
      have hne : n ≠ s.services.notifications.currentId + 1 := by
        rintro rfl
        simp at hrow
      exact Function.update_of_ne hne _ _
  | handshake p b h hstep =>
    refine ⟨fun k sub hrow => (Transactions.keeps_handshake hstep).row' hrow, hrefl,
      fun _ _ _ => rfl, fun k => List.subset_append_left _ _, fun k => ?_⟩
    simp only [State.received]
    split
    · rename_i id _ response
      by_cases hk : k = id
      · subst hk
        rw [Function.update_self]
        exact List.subset_append_left _ _
      · rw [Function.update_of_ne hk]
        exact List.Subset.refl _
    · exact List.Subset.refl _
  | restart p =>
    exact ⟨fun k sub hrow => ⟨sub, hrow, rfl⟩, hrefl, fun _ _ _ => rfl,
      fun _ => List.Subset.refl _, fun _ => List.Subset.refl _⟩
  | fire p handle tasks hfired =>
    exact ⟨fun k sub hrow => ⟨sub, hrow, rfl⟩, hrefl, fun _ _ _ => rfl,
      fun _ => List.Subset.refl _, fun _ => List.Subset.refl _⟩
  | resume p n i reply pc e hattempt heffect =>
    refine ⟨fun k sub hrow => ⟨sub, hrow, rfl⟩, fun m row hrow => ?_, fun _ _ _ => rfl,
      fun _ => List.Subset.refl _, fun _ => List.Subset.refl _⟩
    cases hw : e.write with
    | none => exact ⟨row, by simpa only [hw, Option.elim_none] using hrow, rfl⟩
    | some w =>
      obtain ⟨params, rfl⟩ := exists_rewrite heffect hw
      simp only [Option.elim_some, Table.update_rows, hrow]
      split_ifs
      · exact ⟨params.apply row, rfl, rfl⟩
      · exact ⟨row, rfl, rfl⟩

/-! ### The attempts to send a handshake -/

/-- **Where an attempt to send a handshake comes from**: it was there, a timer has started it, or
one has gone on to it. -/
theorem attemptCase_next {config : Transactions.Config} {s t : Transactions.State π τ}
    {a : Transactions.Act π τ} (hst : Transactions.next config s a = some t) {p : π} {k : ℕ}
    {pc' : SendHandshake} (hpc : pc' ∈ (t.processes p).tasks.running k) :
    pc' ∈ (s.processes p).tasks.running k ∨ pc' = .findOne ∨ ∃ i reply pc e,
      a = .handshake p (.resume k i reply) ∧ ((s.processes p).tasks.running k)[i]? = some pc ∧
        (s.handshakes p).sendHandshake k pc reply = some e ∧ e.after = .suspend pc' := by
  cases Transactions.next_cases hst with
  | tick | subscriptionRejected | nonceSet => exact .inl hpc
  | submitAndSubscribe T q webhookUrl =>
    refine .inl ?_
    by_cases hp : p = q <;> simpa [Transactions.State.addListener, hp] using hpc
  | subscriptionCreated T x =>
    refine .inl ?_
    by_cases hp : p = x.process
    · subst hp
      simpa [Transactions.State.withHandshakes, Transactions.State.withTransaction,
        Transactions.State.handshakes, Handshake.State.createSubscription, TaskStore.create,
        Attempts.start] using hpc
    · simpa [Transactions.State.withHandshakes, Transactions.State.withTransaction, hp] using hpc
  | statusChange T x transaction =>
    refine .inl ?_
    by_cases hp : p = x.process <;>
      simpa [Transactions.State.withStores, Transactions.State.withTransaction, hp] using hpc
  | handler => exact .inl (by rwa [Transactions.State.commit_tasks] at hpc)
  | restart q =>
    by_cases hp : p = q
    · subst hp
      simp [Transactions.State.restart, Transactions.Process.init, Attempts.empty] at hpc
    · exact .inl (by simpa [Transactions.State.restart, hp] using hpc)
  | handshake q b h hstep =>
    by_cases hp : p = q
    · subst hp
      simp only [Transactions.State.withHandshakes, Function.update_self] at hpc
      cases b with
      | fire handle =>
        obtain ⟨t, hfire, rfl⟩ := Option.map_eq_some_iff.1 hstep
        obtain ⟨tasks, htasks, rfl⟩ := Option.map_eq_some_iff.1 hfire
        exact (Attempts.mem_running_fire htasks hpc).imp_right .inl
      | resume id i reply =>
        obtain ⟨t, hresume, rfl⟩ := Option.map_eq_some_iff.1 hstep
        obtain ⟨pc, e, hattempt, he, rfl⟩ := TaskStore.resume_eq_some.1 hresume
        obtain hold | ⟨rfl, hafter⟩ := Attempts.mem_running_proceed hpc
        · exact .inl hold
        · exact .inr (.inr ⟨i, reply, pc, e, rfl, hattempt, he, hafter⟩)
    · exact .inl (by simpa [Transactions.State.withHandshakes, hp] using hpc)

omit [DecidableEq π] [DecidableEq τ]

/-- Subscriptions that live for a minute. -/
def oneMinute : Config := ⟨Transactions.oneMinute, fun payload secret => payload.scope ++ secret⟩

/-- What the services do for a transaction whose webhook answers the handshake, and that is reported
to be running. -/
def notifying : List (Transactions.Act Unit Unit) :=
  Transactions.submission () () ++ Transactions.activation () 1 ++
    [.statusChange () Transactions.running, .handler () 0 (.event (.call true)),
      .handler () 0 (.event (.call true)), .handler () 0 (.event (.create 0 true))]

/-- The notification of this is sent, and, since the webhook does not answer, sent again. -/
def resending : List (Act Unit Unit) :=
  notifying.map .services ++
    [.delivery () (.fire 0), .delivery () (.resume 1 0 (.read true)),
      .delivery () (.resume 1 0 (.read true)), .delivery () (.resume 1 0 (.response none)),
      .delivery () (.resume 1 0 (.update .resolved)), .services .tick, .delivery () (.fire 1),
      .delivery () (.resume 1 0 (.read true)), .delivery () (.resume 1 0 (.read true))]

end Webhooks

end PolymeshRest
