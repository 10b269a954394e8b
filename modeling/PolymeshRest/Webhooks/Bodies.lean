import PolymeshRest.Transactions.Leaks
import PolymeshRest.Webhooks.Consent

/-!
# What notifications say

A notification is stored with the id of its event only, and the event with the rest of the memory
of one instance, which counts its ids up from 1 again after a restart; other instances use the same
ids.  All the same, what is sent for a notification is the event that it was created for, however
often it is sent: the timers that send it are in the same memory.

## Main definitions

* `Webhooks.State.Faithful` : what was sent for a notification.
* `Webhooks.Recorded` : what the steps keep of this.

## Main results

* `Webhooks.recorded_next`
* `Webhooks.faithful_of_reaches` : what is sent is the event of the notification, signed with the
  secret of its subscription.
* `Webhooks.resent_of_reaches` : what is sent again is the same.
-/

namespace PolymeshRest

/-- What does not change about an event. -/
def EventEntity.fixed (event : EventEntity) : EventEntity := { event with processed := false }

/-- What is sent depends on nothing that changes. -/
theorem Delivery.Config.webhookPost_congr {config : Delivery.Config}
    {sub sub' : SubscriptionModel} {row row' : NotificationModel} {event event' : EventEntity}
    (hsub : sub'.fixed = sub.fixed) (hrow : row'.toNew = row.toNew)
    (hevent : event'.fixed = event.fixed) :
    config.webhookPost sub' row' event' = config.webhookPost sub row event := by
  have hurl : sub'.webhookUrl = sub.webhookUrl :=
    SubscriptionModel.congr_of_fixed _ (fun _ => rfl) hsub
  have hsecret : sub'.legitimacySecret = sub.legitimacySecret :=
    SubscriptionModel.congr_of_fixed _ (fun _ => rfl) hsub
  have hid : row'.subscriptionId = row.subscriptionId :=
    congrArg NewNotification.subscriptionId hrow
  have hnonce : row'.nonce = row.nonce := congrArg NewNotification.nonce hrow
  have htype : event'.type = event.type := (congrArg EventEntity.type hevent :)
  have hscope : event'.scope = event.scope := (congrArg EventEntity.scope hevent :)
  have hpayload : event'.payload = event.payload := (congrArg EventEntity.payload hevent :)
  simp only [webhookPost, hurl, hsecret, hid, hnonce, htype, hscope, hpayload]

namespace Transactions

variable {π τ : Type*} [DecidableEq π] [DecidableEq τ] {config : Config} {s t : State π τ}
  {a : Act π τ}

/-- The events of `w'` are those of `w`, some of them processed since, and new ones. -/
def EventsKept (w w' : EventsRepo) : Prop :=
  ∀ id e, w.rows id = some e → ∃ e', w'.rows id = some e' ∧ e'.fixed = e.fixed

theorem EventsKept.refl (w : EventsRepo) : EventsKept w w := fun _ e he => ⟨e, he, rfl⟩

theorem eventsKept_create (w : EventsRepo) (now : ℕ) (data : EventData) :
    EventsKept w (w.create now data) :=
  fun _ e he => ⟨e, Table.insert_rows_of_some (EventsRepo.entity_id data now) he, rfl⟩

theorem eventsKept_markEventAsProcessed (w : EventsRepo) (id : ℕ) :
    EventsKept w (w.markEventAsProcessed id) := by
  intro k e he
  rw [EventsRepo.markEventAsProcessed_rows, he]
  split
  · exact ⟨_, rfl, rfl⟩
  · exact ⟨e, rfl, rfl⟩

theorem eventsKept_handler {config : NotificationsConfig} {w w' : Stores} {stored released : Bool}
    {h h' : StatusHandler} {reply : StatusHandler.Reply}
    (hcase : StatusHandler.StepCase config w stored h reply w' h' released) :
    EventsKept w.events w'.events := by
  cases hcase with
  | event reply c c' w' hc hstep =>
    cases hstep with
    | processed => exact eventsKept_markEventAsProcessed _ _
    | _ => exact .refl _
  | _ => exact .refl _

theorem eventsKept_call (w : Stores) (id : ℕ) (transaction : Transaction) :
    EventsKept w.events (w.handleTransactionStatusChange id transaction).1.events ∧
      ∀ c, (w.handleTransactionStatusChange id transaction).2.call = some c →
        (w.handleTransactionStatusChange id transaction).1.events.rows c.event.id =
          some c.event := by
  unfold Stores.handleTransactionStatusChange
  split
  · refine ⟨eventsKept_create _ _ _, ?_⟩
    rintro c ⟨⟩
    show (w.events.create w.now _).rows (w.events.currentId + 1) = _
    rw [EventsRepo.create_rows, if_pos rfl]
  · refine ⟨.refl _, ?_⟩
    rintro c ⟨⟩

/-- An instance restarts, or keeps its events. -/
theorem process_of_next (hst : next config s a = some t) (p : π) :
    a = .restart p ∨ (t.processes p).restarts = (s.processes p).restarts ∧
      EventsKept (s.processes p).events (t.processes p).events := by
  cases next_cases hst with
  | tick | subscriptionRejected | nonceSet => exact .inr ⟨rfl, .refl _⟩
  | submitAndSubscribe T q webhookUrl =>
    refine .inr ?_
    by_cases hp : p = q <;> simp [State.addListener, hp, EventsKept.refl]
  | subscriptionCreated T x =>
    refine .inr ?_
    by_cases hp : p = x.process <;>
      simp [State.withHandshakes, State.withTransaction, hp, EventsKept.refl]
  | statusChange T x transaction =>
    refine .inr ?_
    by_cases hp : p = x.process
    · subst hp
      simp only [State.withStores, State.withTransaction, Function.update_self, true_and]
      exact (eventsKept_call (s.stores x.process) x.id transaction).1
    · simp [State.withStores, State.withTransaction, hp, EventsKept.refl]
  | handler T x i reply h h' w released hx halive hh hcase =>
    refine .inr ⟨State.commit_restarts p, ?_⟩
    rw [State.commit_events]
    split
    · rename_i hp
      subst hp
      exact eventsKept_handler hcase
    · exact .refl _
  | handshake q b h hstep =>
    refine .inr ?_
    by_cases hp : p = q <;> simp [State.withHandshakes, hp, EventsKept.refl]
  | restart q =>
    by_cases hp : p = q
    · exact .inl (by rw [hp])
    · exact .inr (by simp [State.restart, hp, EventsKept.refl])

theorem alive_of_next (h : Registered s) (hst : next config s a = some t) {T : τ}
    {x x' : Submission π} (hx : s.transactions T = some x) (hprocess : x'.process = x.process)
    (hrestarts : x'.restarts = x.restarts) (halive : t.alive x' = true) :
    s.alive x = true ∧ a ≠ .restart x.process := by
  have hne : a ≠ .restart x.process := by
    rintro rfl
    cases hst
    have hle := h.restarts_le T x hx
    simp only [State.alive, hprocess, hrestarts, State.restart, Function.update_self,
      Process.init, decide_eq_true_eq] at halive
    omega
  refine ⟨?_, hne⟩
  have hsame := ((process_of_next hst x.process).resolve_left hne).1
  simp only [State.alive, hprocess, hrestarts, hsame] at halive
  exact halive

/-- A call of `createEvent` is for the event it was made for, which is stored then. -/
theorem call_next (hst : next config s a = some t) {T : τ} {x' : Submission π}
    (hx' : t.transactions T = some x') {i : ℕ} {c' : CreateEvent} (hc' : x'.call i = some c') :
    ∃ x, s.transactions T = some x ∧ Submission.KeptBy s x x' ∧
      ((∃ c, x.call i = some c ∧ c.event = c'.event) ∨
        (t.processes x.process).events.rows c'.event.id = some c'.event) := by
  obtain ⟨h', hh', hc'⟩ := Option.bind_eq_some_iff.1 hc'
  obtain ⟨x, hx, hkept, hcase⟩ := handlerCase_next hst hx' hh'
  refine ⟨x, hx, hkept, ?_⟩
  cases hcase with
  | same _ _ _ hh => exact .inl ⟨c', Option.bind_eq_some_iff.2 ⟨h', hh, hc'⟩, rfl⟩
  | called transaction hlast =>
    refine .inr ?_
    simp only [State.withStores, State.withTransaction, Function.update_self]
    exact (eventsKept_call (s.stores x.process) x.id transaction).2 c' hc'
  | moved reply h _ w released hh hcase =>
    refine .inl ?_
    cases hcase with
    | event reply c d w hc hstep =>
      cases hc'
      exact ⟨c, Option.bind_eq_some_iff.2 ⟨h, hh, hc⟩, hstep.event_eq.symm⟩
    | _ => exact ⟨c', Option.bind_eq_some_iff.2 ⟨h, hh, hc'⟩, rfl⟩

end Transactions

namespace Webhooks

open Transactions

variable {π τ : Type*} [DecidableEq π] [DecidableEq τ] {config : Config} {s s' : State π τ}
  {a : Act π τ} {k n : ℕ}

namespace State

omit [DecidableEq π] [DecidableEq τ]

/-- The instance has the event in its memory. -/
def Holds (s : State π τ) (p : π) (id : ℕ) (event : EventEntity) : Prop :=
  ∃ e, (s.services.processes p).events.rows id = some e ∧ e.fixed = event.fixed

/-- The subscription is one to the event. -/
def Listens (s : State π τ) (k : ℕ) (event : EventEntity) : Prop :=
  ∃ sub, s.services.subscriptions.rows k = some sub ∧ sub.eventType = event.type ∧
    sub.eventScope = event.scope

/-- What was sent is the event that the notification was created for, which its subscription is
to, with the HMAC under the secret of the subscription. -/
def Faithful (s : State π τ) (config : Config) (n : ℕ) (m : Sent) : Prop :=
  ∃ row sub event, s.services.notifications.rows n = some row ∧
    s.services.subscriptions.rows row.subscriptionId = some sub ∧ s.notified n = some event ∧
    sub.eventType = event.type ∧ sub.eventScope = event.scope ∧
    m.post = config.delivery.webhookPost sub row event

end State

/-- What the steps keep. -/
structure Recorded (config : Config) (s : State π τ) : Prop where
  permitted : Permitted s
  filed : Filed s.services
  registered : Registered s.services
  events : ∀ T x i c, s.services.transactions T = some x → s.services.alive x = true →
    x.call i = some c → s.Holds x.process c.event.id c.event
  drafts : ∀ T x i c, s.services.transactions T = some x → x.call i = some c →
    ∀ new ∈ c.drafts, new.eventId = c.event.id ∧ s.Listens new.subscriptionId c.event
  /-- The timers and the attempts of a notification are where its event is. -/
  busy : ∀ p n, (s.deliveries p).Busy n → ∃ row event, s.services.notifications.rows n = some row ∧
    s.notified n = some event ∧ s.Holds p row.eventId event
  notified : ∀ n row, s.services.notifications.rows n = some row →
    ∃ event, s.notified n = some event ∧ s.Listens row.subscriptionId event
  sent : ∀ n, ∀ m ∈ s.sent n, s.Faithful config n m

omit [DecidableEq π] [DecidableEq τ] in
theorem recorded_init (now : ℕ) : Recorded config (init now : State π τ) where
  permitted := permitted_init now
  filed := filed_init now
  registered := registered_init now
  events _ _ _ _ h := nomatch h
  drafts _ _ _ _ h := nomatch h
  busy _ _ h := absurd h (Attempts.not_busy_empty _)
  notified _ _ h := nomatch h
  sent _ _ h := nomatch h

/-! ### What is recorded stays so -/

omit [DecidableEq π] [DecidableEq τ] in
theorem Extends.listens (h : Extends s s') {event : EventEntity} (hk : s.Listens k event) :
    s'.Listens k event := by
  obtain ⟨sub, hrow, htype, hscope⟩ := hk
  obtain ⟨sub', hrow', hfixed⟩ := h.subscriptions k sub hrow
  exact ⟨sub', hrow', (SubscriptionModel.eventType_eq_of_fixed hfixed).trans htype,
    (SubscriptionModel.eventScope_eq_of_fixed hfixed).trans hscope⟩

omit [DecidableEq π] [DecidableEq τ] in
theorem Extends.faithful (h : Extends s s') {m : Sent} (hm : s.Faithful config n m) :
    s'.Faithful config n m := by
  obtain ⟨row, sub, event, hrow, hsub, hevent, htype, hscope, hpost⟩ := hm
  obtain ⟨row', hrow', hnew⟩ := h.notifications n row hrow
  have hid : row'.subscriptionId = row.subscriptionId :=
    congrArg NewNotification.subscriptionId hnew
  obtain ⟨sub', hsub', hfixed⟩ := h.subscriptions _ sub hsub
  refine ⟨row', sub', event, hrow', by rw [hid, hsub'], by rw [h.notified n row hrow, hevent],
    (SubscriptionModel.eventType_eq_of_fixed hfixed).trans htype,
    (SubscriptionModel.eventScope_eq_of_fixed hfixed).trans hscope, ?_⟩
  rw [hpost, Delivery.Config.webhookPost_congr hfixed hnew rfl]

theorem holds_next (hst : next config s a = some s') {p : π} (ha : a ≠ .services (.restart p))
    {id : ℕ} {event : EventEntity} (h : s.Holds p id event) : s'.Holds p id event := by
  obtain ⟨e, he, hfixed⟩ := h
  cases a with
  | delivery q b =>
    cases next_cases hst with
    | fire | resume => exact ⟨e, he, hfixed⟩
  | services a =>
    have hne : a ≠ .restart p := fun heq => ha (by rw [heq])
    obtain ⟨-, hkept⟩ := (process_of_next (services_next hst) p).resolve_left hne
    obtain ⟨e', he', hfixed'⟩ := hkept id e he
    exact ⟨e', he', hfixed'.trans hfixed⟩

theorem Recorded.busy_mono (h : Recorded config s) (hst : next config s a = some s') {p : π}
    (ha : a ≠ .services (.restart p)) (hbusy : (s.deliveries p).Busy n) :
    ∃ row event, s'.services.notifications.rows n = some row ∧ s'.notified n = some event ∧
      s'.Holds p row.eventId event := by
  have hextends := extends_next hst
  obtain ⟨row, event, hrow, hevent, hholds⟩ := h.busy p n hbusy
  obtain ⟨row', hrow', hnew⟩ := hextends.notifications n row hrow
  have hid : row'.eventId = row.eventId := congrArg NewNotification.eventId hnew
  refine ⟨row', event, hrow', by rw [hextends.notified n row hrow, hevent], ?_⟩
  rw [hid]
  exact holds_next hst ha hholds

omit [DecidableEq π] [DecidableEq τ] in
theorem Recorded.notified_mono (h : Recorded config s) (hextends : Extends s s')
    {row : NotificationModel} (hrow : s.services.notifications.rows n = some row) :
    ∃ event, s'.notified n = some event ∧ s'.Listens row.subscriptionId event := by
  obtain ⟨event, hevent, hlistens⟩ := h.notified n row hrow
  exact ⟨event, by rw [hextends.notified n row hrow, hevent], hextends.listens hlistens⟩

/-! ### One step -/

theorem events_next (h : Recorded config s) (hst : next config s a = some s') {T : τ}
    {x' : Submission π} (hx' : s'.services.transactions T = some x')
    (halive' : s'.services.alive x' = true) {i : ℕ} {c' : CreateEvent}
    (hc' : x'.call i = some c') : s'.Holds x'.process c'.event.id c'.event := by
  cases a with
  | delivery q b =>
    refine holds_next hst nofun ?_
    cases next_cases hst with
    | fire | resume => exact h.events T x' i c' hx' halive' hc'
  | services a =>
    have hnext := services_next hst
    obtain ⟨x, hx, hkept, hcase⟩ := call_next hnext hx' hc'
    obtain ⟨halive, hne⟩ := alive_of_next h.registered hnext hx hkept.process hkept.restarts halive'
    rw [hkept.process]
    obtain ⟨c, hc, hevent⟩ | hstored := hcase
    · rw [← hevent]
      exact holds_next hst (fun heq => hne (Act.services.inj heq)) (h.events T x i c hx halive hc)
    · exact ⟨c'.event, hstored, rfl⟩

/-- A notification is drafted for the event of its call and a subscription to this. -/
theorem listens_next (h : Recorded config s) (hst : next config s a = some s') {T : τ}
    {x' : Submission π} (hx' : s'.services.transactions T = some x') {i : ℕ} {c' : CreateEvent}
    (hc' : x'.call i = some c') {new : NewNotification} (hnew : new ∈ c'.drafts) :
    new.eventId = c'.event.id ∧ s'.Listens new.subscriptionId c'.event := by
  refine And.imp_right (extends_next hst).listens ?_
  cases a with
  | delivery q b =>
    cases next_cases hst with
    | fire | resume => exact h.drafts T x' i c' hx' hc' new hnew
  | services a =>
    obtain ⟨x, hx, -, hcase⟩ := callCase_next (services_next hst) hx' hc'
    cases hcase with
    | same _ _ _ hc => exact h.drafts T x i c' hx hc new hnew
    | made transaction _ _ hlast hphase hnone =>
      simp [CreateEvent.drafts, CreateEvent.looked, CreateEvent.pending, hphase] at hnew
    | resumed reply _ c _ w hc hstep =>
      rw [hstep.event_eq]
      obtain hold | ⟨-, sub, hsub, rfl⟩ := hstep.mem_drafts hnew
      · exact h.drafts T x i c hx hc new hold
      · obtain ⟨g, hg, hcall⟩ := Option.bind_eq_some_iff.1 hc
        obtain ⟨-, hreports⟩ := h.filed.handlers T x hx g (List.mem_of_getElem? hg)
        have hscope : c.event.scope ≠ "" := by
          rw [(hreports c hcall).2]
          exact Nat.repr_ne_empty
        obtain ⟨hrow, -, hsubScope, hsubType, -⟩ := (mem_findAll_listening hscope).1 hsub
        exact ⟨rfl, sub, hrow, hsubType, hsubScope⟩

theorem busy_next (h : Recorded config s) (hst : next config s a = some s') {p : π}
    (hbusy : (s'.deliveries p).Busy n) : ∃ row event,
      s'.services.notifications.rows n = some row ∧ s'.notified n = some event ∧
        s'.Holds p row.eventId event := by
  cases next_cases hst with
  | quiet a t hlocal =>
    refine h.busy_mono hst ?_ hbusy
    rintro heq
    cases heq
    exact hlocal
  | handshake q b => exact h.busy_mono hst (by simp) hbusy
  | created T i reply t q c new hnext hcall halive hnew hnotes =>
    obtain ⟨rfl, hstarted⟩ | hother := busy_update hbusy
    · obtain hold | rfl := Attempts.busy_start hstarted
      · exact h.busy_mono hst (by simp) hold
      · -- the notification is new, and the call that has created it has its event stored
        obtain ⟨x, hx, hprocess, halive⟩ := halive
        obtain ⟨y, hy, hcall⟩ := Option.bind_eq_some_iff.1 hcall
        cases hx.symm.trans hy
        obtain ⟨c, hc, heq⟩ := Option.map_eq_some_iff.1 hcall
        cases heq
        obtain ⟨hid, -⟩ := h.drafts T x i c hx hc new hnew
        have hholds := holds_next hst (by simp) (h.events T x i c hx halive hc)
        rw [← hid] at hholds
        refine ⟨config.transactions.notifications.model s.services.now new
          (s.services.notifications.currentId + 1), c.event, ?_, Function.update_self .., hholds⟩
        show t.notifications.rows _ = _
        rw [hnotes, NotificationRepo.create_rows, if_pos rfl]
    · exact h.busy_mono hst (by simp) hother
  | restart q =>
    by_cases hp : p = q
    · subst hp
      simp only [Function.update_self] at hbusy
      exact absurd hbusy (Attempts.not_busy_empty n)
    · simp only [Function.update_of_ne hp] at hbusy
      exact h.busy_mono hst (by simpa using Ne.symm hp) hbusy
  | fire q handle tasks hfired =>
    obtain ⟨rfl, hstarted⟩ | hother := busy_update hbusy
    · exact h.busy_mono hst (by simp) (Attempts.busy_fire hfired hstarted)
    · exact h.busy_mono hst (by simp) hother
  | resume q m i reply pc e hattempt heffect =>
    obtain ⟨rfl, hgone⟩ | hother := busy_update hbusy
    · exact h.busy_mono hst (by simp) (Attempts.busy_proceed hattempt hgone)
    · exact h.busy_mono hst (by simp) hother

theorem notified_next (h : Recorded config s) (hst : next config s a = some s')
    {row : NotificationModel} (hrow : s'.services.notifications.rows n = some row) :
    ∃ event, s'.notified n = some event ∧ s'.Listens row.subscriptionId event := by
  have hextends := extends_next hst
  cases next_cases hst with
  | quiet a t hlocal hnext hnotes =>
    refine h.notified_mono hextends ?_
    rw [← hnotes]
    exact hrow
  | created T i reply t p c new hnext hcall halive hnew hnotes =>
    change t.notifications.rows n = some row at hrow
    rw [hnotes, NotificationRepo.create_rows] at hrow
    split_ifs at hrow with hn
    · cases hrow
      subst hn
      obtain ⟨x, hx, hcall⟩ := Option.bind_eq_some_iff.1 hcall
      obtain ⟨c, hc, heq⟩ := Option.map_eq_some_iff.1 hcall
      cases heq
      exact ⟨c.event, Function.update_self .., hextends.listens (h.drafts T x i c hx hc new hnew).2⟩
    · exact h.notified_mono hextends hrow
  | handshake | restart | fire => exact h.notified_mono hextends hrow
  | resume p m i reply pc e hattempt heffect =>
    cases hw : e.write with
    | none => exact h.notified_mono hextends (by simpa only [hw, Option.elim_none] using hrow)
    | some w =>
      obtain ⟨params, rfl⟩ := exists_rewrite heffect hw
      simp only [hw, Option.elim_some, Table.update_rows] at hrow
      split_ifs at hrow
      · obtain ⟨old, hold, rfl⟩ := Option.map_eq_some_iff.1 hrow
        obtain ⟨event, hevent, hlistens⟩ := h.notified_mono hextends hold
        exact ⟨event, hevent, hlistens⟩
      · exact h.notified_mono hextends hrow

/-- An attempt sends the event that its notification was created for. -/
theorem faithful_next (h : Recorded config s) (hst : next config s a = some s') {m : Sent}
    (hm : m ∈ s'.sent n) : s'.Faithful config n m := by
  refine (extends_next hst).faithful ?_
  obtain hold | ⟨p, i, reply, pc, e, rfl, hpc, he, hpost, -⟩ := mem_sent_next hst hm
  · exact h.sent n m hold
  · obtain ⟨notification, sub, event, rfl, hsub, hevent, -, hwebhook⟩ :=
      Delivery.post_cases he hpost
    obtain ⟨row, hrow, hnew⟩ := h.permitted.lookups p n notification (List.mem_of_getElem? hpc)
    obtain ⟨row', event', hrow', hnotified, e', he', hfixed⟩ :=
      h.busy p n (Attempts.busy_of_getElem? hpc)
    cases hrow.symm.trans hrow'
    have hid : row.subscriptionId = notification.subscriptionId :=
      congrArg NewNotification.subscriptionId hnew
    have heventId : row.eventId = notification.eventId := congrArg NewNotification.eventId hnew
    -- the event in the memory of the instance is that of the notification
    rw [heventId] at he'
    cases hevent.symm.trans he'
    obtain ⟨event'', hnotified', sub', hsub', hsubType, hsubScope⟩ := h.notified n row hrow
    cases hnotified.symm.trans hnotified'
    have hrow : s.services.subscriptions.rows row.subscriptionId = some sub := hid ▸ hsub
    cases hrow.symm.trans hsub'
    refine ⟨row, sub, event', hrow', hrow, hnotified, hsubType, hsubScope, ?_⟩
    rw [hwebhook, Delivery.Config.webhookPost_congr rfl hnew.symm hfixed]

/-- **The step lemma.** -/
theorem recorded_next (h : Recorded config s) (hst : next config s a = some s') :
    Recorded config s' where
  permitted := permitted_next h.permitted hst
  filed := by
    cases a with
    | services a => exact filed_next h.filed (services_next hst)
    | delivery p b =>
      cases next_cases hst with
      | fire => exact h.filed
      | resume =>
        exact ⟨h.filed.owner, h.filed.stored, h.filed.unique, h.filed.unset, h.filed.scope,
          h.filed.handlers, h.filed.concerns⟩
  registered := by
    cases a with
    | services a => exact registered_next h.registered (services_next hst)
    | delivery p b =>
      cases next_cases hst with
      | fire => exact h.registered
      | resume => exact h.registered.congr (fun _ => ⟨rfl, rfl, rfl⟩) rfl rfl
  events T x i c hx halive hc := events_next h hst hx halive hc
  drafts T x i c hx hc new hnew := listens_next h hst hx hc hnew
  busy p n hbusy := busy_next h hst hbusy
  notified n row hrow := notified_next h hst hrow
  sent n m hm := faithful_next h hst hm

/-! ### Runs -/

theorem recorded_of_reaches {now : ℕ}
    (h : (machine π τ config).Reaches Machine.Unrestricted (init now) s) : Recorded config s :=
  h.invariant (recorded_init now) fun _ _ _ hinv _ hst => recorded_next hinv hst

/-- **Notifications say what has happened**: in every run, what is sent for a notification is the
event that it was created for, to the subscription to this, signed with its secret, though the ids
of events are used again by other instances and after restarts. -/
theorem faithful_of_reaches {now : ℕ}
    (h : (machine π τ config).Reaches Machine.Unrestricted (init now) s) (n : ℕ) (m : Sent)
    (hm : m ∈ s.sent n) : s.Faithful config n m :=
  (recorded_of_reaches h).sent n m hm

theorem faithful_resending : ∃ (s : State Unit Unit) (m : Sent), m ∈ s.sent 1 ∧
    s.Faithful oneMinute 1 m := by
  obtain ⟨s, hreaches, hs⟩ := Machine.exists_reaches_of_run (M := machine Unit Unit oneMinute)
    (C := Machine.Unrestricted) (init 0) resending (fun s => (s.sent 1).length == 2) (by decide)
    (Machine.meets_unrestricted _ _)
  obtain ⟨m, hm⟩ := List.exists_mem_of_length_pos (l := s.sent 1) (by
    rw [eq_of_beq hs]
    decide)
  exact ⟨s, m, hm, faithful_of_reaches hreaches 1 m hm⟩

/-- **What is sent again is the same**: in every run, all that is sent for a notification has the
same URL, body and signature. -/
theorem resent_of_reaches {now : ℕ}
    (h : (machine π τ config).Reaches Machine.Unrestricted (init now) s) (n : ℕ) (m m' : Sent)
    (hm : m ∈ s.sent n) (hm' : m' ∈ s.sent n) : m.post = m'.post := by
  have hinv := recorded_of_reaches h
  obtain ⟨row, sub, event, hrow, hsub, hevent, -, -, hpost⟩ := hinv.sent n m hm
  obtain ⟨row', sub', event', hrow', hsub', hevent', -, -, hpost'⟩ := hinv.sent n m' hm'
  cases hrow.symm.trans hrow'
  cases hsub.symm.trans hsub'
  cases hevent.symm.trans hevent'
  rw [hpost, hpost']

/-- Two notifications were sent, at different times. -/
def sentTwice : List Sent → Bool
  | [m, m'] => m.sentAt ≠ m'.sentAt
  | _ => false

theorem resent_resending : ∃ (s : State Unit Unit) (m m' : Sent), s.sent 1 = [m, m'] ∧
    m.sentAt ≠ m'.sentAt ∧ m.post = m'.post := by
  obtain ⟨s, hreaches, hs⟩ := Machine.exists_reaches_of_run (M := machine Unit Unit oneMinute)
    (C := Machine.Unrestricted) (init 0) resending (fun s => sentTwice (s.sent 1)) (by decide)
    (Machine.meets_unrestricted _ _)
  unfold sentTwice at hs
  split at hs
  · rename_i m m' hsent
    refine ⟨s, m, m', hsent, of_decide_eq_true hs, ?_⟩
    exact resent_of_reaches hreaches 1 m m' (by simp [hsent]) (by simp [hsent])
  · cases hs

end Webhooks

end PolymeshRest
