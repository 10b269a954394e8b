import PolymeshRest.Webhooks.System

/-!
# Webhooks are notified with their consent

Anyone can name any URL as the webhook of a transaction.  A subscription becomes Active only when
its webhook has sent back a secret that was sent to it, and notifications are created for Active
subscriptions only.  So nothing but handshakes is sent to a URL that has not answered one, whatever
fails, in whatever order the instances take their steps, and after any restarts.

## Main definitions

* `Webhooks.State.Consented`
* `Webhooks.Permitted` : what the steps keep of this.
* `Webhooks.State.Addressed` : where and when a notification was sent.

## Main results

* `Webhooks.permitted_next`, `Webhooks.addressed_next`
* `Webhooks.consented_of_reaches`
-/

namespace PolymeshRest

namespace Handshake

variable {s : State} {pc pc' : SendHandshake} {reply : Reply} {e : Effect} {k : ℕ}

theorem suspend_cases (he : s.sendHandshake k pc reply = some e) (hafter : e.after = .suspend pc') :
    (∃ sub, s.repo.rows k = some sub ∧ pc' = .generateBase64Secret sub s.now) ∨
      (∃ sub readAt secret, pc = .generateBase64Secret sub readAt ∧
        pc' = .post sub.triesLeft secret ∧
          e.post = some ⟨sub.webhookUrl, secret, readAt, s.now⟩) ∨
      (∃ triesLeft secret response, pc = .post triesLeft secret ∧
        reply = .response (some response) ∧ Response.accepts (some response) secret = true ∧
          pc' = .activate triesLeft) ∨
      ∃ triesLeft, pc' = .retry triesLeft := by
  unfold State.sendHandshake at he
  split at he <;> cases he
  · split at hafter
    · rename_i sub hrow
      split at hafter
      · cases hafter
      · cases hafter
        exact .inl ⟨sub, hrow, rfl⟩
    · cases hafter
  · rename_i sub readAt value
    split at hafter
    · cases hafter
      exact .inr (.inl ⟨sub, readAt, _, rfl, rfl, rfl⟩)
    · cases hafter
      exact .inr (.inr (.inr ⟨_, rfl⟩))
  · rename_i triesLeft secret response
    simp only at hafter
    split at hafter
    · rename_i haccepts
      cases hafter
      cases response with
      | none => cases haccepts
      | some response =>
        exact .inr (.inr (.inl ⟨triesLeft, secret, response, rfl, rfl, haccepts, rfl⟩))
    · cases hafter
      exact .inr (.inr (.inr ⟨_, rfl⟩))
  · simp only at hafter
    split at hafter
    · cases hafter
    · cases hafter
      exact .inr (.inr (.inr ⟨_, rfl⟩))
  · split at hafter
    · cases hafter
    · simp only at hafter
      split at hafter <;> cases hafter

end Handshake

namespace Delivery

variable {config : Config} {s : State} {n : ℕ} {pc : SendNotification} {reply : Reply} {e : Effect}

/-- The POST for a notification of `event` to a subscription. -/
def Config.webhookPost (config : Config) (subscription : SubscriptionModel)
    (notification : NotificationModel) (event : EventEntity) : WebhookPost :=
  let payload := assembleNotificationPayload notification.subscriptionId event.type event.scope
    event.payload notification.nonce
  ⟨subscription.webhookUrl, payload, config.signPayload payload subscription.legitimacySecret⟩

theorem post_cases (he : s.sendNotification config n pc reply = some e) {post : WebhookPost}
    (hpost : e.post = some post) : ∃ notification subscription event, pc = .lookup notification ∧
      s.subscriptions.rows notification.subscriptionId = some subscription ∧
      s.events.rows notification.eventId = some event ∧ subscription.isExpired s.now = false ∧
      post = config.webhookPost subscription notification event := by
  unfold State.sendNotification at he
  split at he <;> cases he
  · split at hpost <;> cases hpost
  · rename_i notification resolved
    split at hpost
    · rename_i subscription event hsub hevent
      split at hpost
      · cases hpost
      · rename_i hexpired
        cases hpost
        exact ⟨notification, subscription, event, rfl, hsub, hevent, by simpa using hexpired, rfl⟩
    · cases hpost
  · cases hpost
  · cases hpost
  · cases hpost
  · split at hpost <;> cases hpost

theorem row_of_suspend (he : s.sendNotification config n pc reply = some e)
    {notification : NotificationModel} (hafter : e.after = .suspend (.lookup notification)) :
    s.repo.rows n = some notification := by
  unfold State.sendNotification at he
  split at he <;> cases he
  · split at hafter
    · rename_i row hrow
      cases hafter
      exact hrow
    · cases hafter
  · split at hafter
    · split at hafter <;> cases hafter
    · cases hafter
  · simp only at hafter
    split at hafter <;> cases hafter
  · simp only at hafter
    split at hafter <;> cases hafter
  · simp only at hafter
    split at hafter <;> cases hafter
  · split at hafter
    · cases hafter
    · simp only at hafter
      split at hafter <;> cases hafter

end Delivery

namespace Webhooks

variable {π τ : Type*} [DecidableEq π] [DecidableEq τ] {config : Config} {s s' : State π τ}
  {a : Act π τ} {k n : ℕ}

namespace State

omit [DecidableEq π] [DecidableEq τ]

/-- The webhook of the subscription has echoed a secret that was sent to it. -/
def Consented (s : State π τ) (k : ℕ) : Prop :=
  ∃ sub, s.services.subscriptions.rows k = some sub ∧
    ∃ post ∈ s.handshakes k, post.url = sub.webhookUrl ∧
      ∃ response ∈ s.responses k, Handshake.Response.accepts (some response) post.secret = true

/-- What an attempt to send a handshake has to show for itself. -/
def Shows (s : State π τ) (k : ℕ) : SendHandshake → Prop
  | .generateBase64Secret read _ =>
    ∃ sub, s.services.subscriptions.rows k = some sub ∧ read.webhookUrl = sub.webhookUrl
  | .post _ secret => ∃ sub, s.services.subscriptions.rows k = some sub ∧
      ∃ post ∈ s.handshakes k, post.url = sub.webhookUrl ∧ post.secret = secret
  | .activate _ => s.Consented k
  | _ => True

/-- The notification went to the webhook of its subscription, which has consented, and before the
subscription expired. -/
def Addressed (s : State π τ) (n : ℕ) (m : Sent) : Prop :=
  ∃ row sub, s.services.notifications.rows n = some row ∧
    s.services.subscriptions.rows row.subscriptionId = some sub ∧
    m.post.url = sub.webhookUrl ∧ sub.isExpired m.sentAt = false ∧ s.Consented row.subscriptionId

end State

/-- What the steps keep. -/
structure Permitted (s : State π τ) : Prop where
  attempts : ∀ p k, ∀ pc ∈ (s.services.processes p).tasks.running k, s.Shows k pc
  active : ∀ k, s.services.subscriptions.status k = some .active → s.Consented k
  drafts : ∀ T x i c, s.services.transactions T = some x → x.call i = some c →
    ∀ new ∈ c.drafts, s.Consented new.subscriptionId
  notified : ∀ n row, s.services.notifications.rows n = some row → s.Consented row.subscriptionId
  /-- An attempt works with the notification as it was created. -/
  lookups : ∀ p n notification, .lookup notification ∈ (s.deliveries p).running n →
    ∃ row, s.services.notifications.rows n = some row ∧ row.toNew = notification.toNew
  sent : ∀ n, ∀ m ∈ s.sent n, s.Addressed n m

omit [DecidableEq π] [DecidableEq τ] in
theorem permitted_init (now : ℕ) : Permitted (init now : State π τ) where
  attempts _ _ _ h := nomatch h
  active _ h := nomatch h
  drafts _ _ _ _ h := nomatch h
  notified _ _ h := nomatch h
  lookups _ _ _ h := nomatch h
  sent _ _ h := nomatch h

/-! ### Consent is not withdrawn -/

omit [DecidableEq π] [DecidableEq τ]

theorem Extends.webhookUrl (h : Extends s s') {sub : SubscriptionModel}
    (hrow : s.services.subscriptions.rows k = some sub) :
    ∃ sub', s'.services.subscriptions.rows k = some sub' ∧ sub'.webhookUrl = sub.webhookUrl := by
  obtain ⟨sub', hrow', hfixed⟩ := h.subscriptions k sub hrow
  exact ⟨sub', hrow', SubscriptionModel.congr_of_fixed _ (fun _ => rfl) hfixed⟩

theorem Extends.consented (h : Extends s s') (hk : s.Consented k) : s'.Consented k := by
  obtain ⟨sub, hrow, post, hpost, hurl, response, hresponse, haccepts⟩ := hk
  obtain ⟨sub', hrow', hurl'⟩ := h.webhookUrl hrow
  exact ⟨sub', hrow', post, h.handshakes k hpost, hurl.trans hurl'.symm, response,
    h.responses k hresponse, haccepts⟩

theorem Extends.shows (h : Extends s s') {pc : SendHandshake} (hpc : s.Shows k pc) :
    s'.Shows k pc := by
  cases pc with
  | generateBase64Secret read readAt =>
    obtain ⟨sub, hrow, hread⟩ := hpc
    obtain ⟨sub', hrow', hurl'⟩ := h.webhookUrl hrow
    exact ⟨sub', hrow', hread.trans hurl'.symm⟩
  | post triesLeft secret =>
    obtain ⟨sub, hrow, post, hpost, hurl, hsecret⟩ := hpc
    obtain ⟨sub', hrow', hurl'⟩ := h.webhookUrl hrow
    exact ⟨sub', hrow', post, h.handshakes k hpost, hurl.trans hurl'.symm, hsecret⟩
  | activate triesLeft => exact h.consented hpc
  | findOne => exact trivial
  | retry triesLeft => exact trivial

theorem Extends.addressed (h : Extends s s') {m : Sent} (hm : s.Addressed n m) :
    s'.Addressed n m := by
  obtain ⟨row, sub, hrow, hsub, hurl, hexpired, hconsented⟩ := hm
  obtain ⟨row', hrow', hnew⟩ := h.notifications n row hrow
  have hid : row'.subscriptionId = row.subscriptionId :=
    congrArg NewNotification.subscriptionId hnew
  obtain ⟨sub', hsub', hfixed⟩ := h.subscriptions _ sub hsub
  refine ⟨row', sub', hrow', by rw [hid, hsub'], ?_, ?_, by rw [hid]; exact h.consented hconsented⟩
  · exact hurl.trans (SubscriptionModel.congr_of_fixed _ (fun _ => rfl) hfixed).symm
  · exact (SubscriptionModel.congr_of_fixed (·.isExpired m.sentAt) (fun _ => rfl) hfixed).trans
      hexpired

/-! ### One step -/

variable [DecidableEq π] [DecidableEq τ]

/-- An attempt that has gone on has sent a secret, or was answered with it. -/
theorem attempts_next (h : Permitted s) (hst : next config s a = some s') {p : π}
    {pc' : SendHandshake} (hpc' : pc' ∈ (s'.services.processes p).tasks.running k) :
    s'.Shows k pc' := by
  have hextends := extends_next hst
  cases a with
  | delivery q b =>
    refine hextends.shows (h.attempts p k pc' ?_)
    cases next_cases hst with
    | fire | resume => exact hpc'
  | services a =>
    obtain hold | rfl | ⟨i, reply, pc, e, rfl, hpc, he, hafter⟩ :=
      attemptCase_next (services_next hst) hpc'
    · exact hextends.shows (h.attempts p k pc' hold)
    · exact trivial
    · have hshows := h.attempts p k pc (List.mem_of_getElem? hpc)
      obtain ⟨hposts, hresponses⟩ := wire_of_resume hst hpc he
      obtain ⟨sub, hrow, rfl⟩ | ⟨read, readAt, secret, rfl, rfl, hpost⟩ |
        ⟨triesLeft, secret, response, rfl, rfl, haccepts, rfl⟩ | ⟨triesLeft, rfl⟩ :=
        Handshake.suspend_cases he hafter
      · obtain ⟨sub', hrow', hurl⟩ := hextends.webhookUrl hrow
        exact ⟨sub', hrow', hurl.symm⟩
      · obtain ⟨sub, hrow, hurl⟩ := hshows
        obtain ⟨sub', hrow', hurl'⟩ := hextends.webhookUrl hrow
        refine ⟨sub', hrow', ⟨read.webhookUrl, secret, readAt, s.services.now⟩, ?_,
          hurl.trans hurl'.symm, rfl⟩
        rw [hposts, hpost]
        exact List.mem_append_right _ (List.mem_singleton_self _)
      · obtain ⟨sub, hrow, post, hpost, hurl, rfl⟩ := hshows
        obtain ⟨sub', hrow', hurl'⟩ := hextends.webhookUrl hrow
        exact ⟨sub', hrow', post, hextends.handshakes k hpost, hurl.trans hurl'.symm, response,
          hresponses response rfl, haccepts⟩
      · exact trivial

/-- A subscription that becomes Active does so after an echo. -/
theorem active_next (h : Permitted s) (hst : next config s a = some s')
    (hactive : s'.services.subscriptions.status k = some .active) : s'.Consented k := by
  have hextends := extends_next hst
  refine hextends.consented ?_
  cases a with
  | delivery q b =>
    cases next_cases hst with
    | fire | resume => exact h.active k hactive
  | services a =>
    obtain ⟨sub, before, hrow, hbefore, hcase⟩ :=
      Transactions.status_before (services_next hst) hactive (by decide)
    cases hcase with
    | same => exact h.active k (SubscriptionRepo.status_eq_some.2 ⟨sub, hrow, hbefore⟩)
    | activated p i outcome pc hpc hactivates hwritten =>
      have hshows := h.attempts p k pc (List.mem_of_getElem? hpc)
      cases pc with
      | activate triesLeft => exact hshows
      | _ => cases hactivates
    | retried p i reply pc after hpc hne => exact absurd rfl hne

/-- A notification is drafted for subscriptions that are Active. -/
theorem drafts_next (h : Permitted s) (hst : next config s a = some s') {T : τ}
    {x' : Submission π} (hx' : s'.services.transactions T = some x') {i : ℕ} {c' : CreateEvent}
    (hc' : x'.call i = some c') {new : NewNotification} (hnew : new ∈ c'.drafts) :
    s'.Consented new.subscriptionId := by
  refine (extends_next hst).consented ?_
  cases a with
  | delivery q b =>
    cases next_cases hst with
    | fire | resume => exact h.drafts T x' i c' hx' hc' new hnew
  | services a =>
    obtain ⟨x, hx, -, hcase⟩ := Transactions.callCase_next (services_next hst) hx' hc'
    cases hcase with
    | same _ _ _ hc => exact h.drafts T x i c' hx hc new hnew
    | made transaction _ _ hlast hphase hnone =>
      simp [CreateEvent.drafts, CreateEvent.looked, CreateEvent.pending, hphase] at hnew
    | resumed reply _ c _ w hc hstep =>
      obtain hold | ⟨-, sub, hsub, rfl⟩ := hstep.mem_drafts hnew
      · exact h.drafts T x i c hx hc new hold
      · obtain ⟨hrow, hmatches⟩ := mem_findAll.1 hsub
        refine h.active sub.id (SubscriptionRepo.status_eq_some.2 ⟨sub, hrow, ?_⟩)
        simp only [SubscriptionFilter.matches, listening, Option.all_some, Bool.and_eq_true,
          decide_eq_true_eq] at hmatches
        exact hmatches.1.1.1.symm

/-- An attempt to send a notification has read it as it was created. -/
theorem lookups_next (h : Permitted s) (hst : next config s a = some s') {p : π}
    {notification : NotificationModel}
    (hpc : .lookup notification ∈ (s'.deliveries p).running n) :
    ∃ row, s'.services.notifications.rows n = some row ∧ row.toNew = notification.toNew := by
  have hextends := extends_next hst
  have hold : .lookup notification ∈ (s.deliveries p).running n →
      ∃ row, s'.services.notifications.rows n = some row ∧ row.toNew = notification.toNew := by
    intro hmem
    obtain ⟨row, hrow, hnew⟩ := h.lookups p n notification hmem
    obtain ⟨row', hrow', hnew'⟩ := hextends.notifications n row hrow
    exact ⟨row', hrow', hnew'.trans hnew⟩
  cases next_cases hst with
  | quiet | handshake => exact hold hpc
  | created T i reply t q c new =>
    refine hold ?_
    by_cases hp : p = q
    · subst hp
      simpa [State.schedule, Attempts.start] using hpc
    · simpa [State.schedule, hp] using hpc
  | restart q =>
    by_cases hp : p = q
    · subst hp
      simp [Attempts.empty] at hpc
    · exact hold (by simpa [hp] using hpc)
  | fire q handle tasks hfired =>
    by_cases hp : p = q
    · subst hp
      simp only [Function.update_self] at hpc
      obtain hmem | heq := Attempts.mem_running_fire hfired hpc
      · exact hold hmem
      · cases heq
    · exact hold (by simpa [hp] using hpc)
  | resume q m i reply pc e hattempt heffect =>
    by_cases hp : p = q
    · subst hp
      simp only [Function.update_self] at hpc
      obtain hmem | ⟨rfl, hafter⟩ := Attempts.mem_running_proceed hpc
      · exact hold hmem
      · have hrow : s.services.notifications.rows n = some notification :=
          Delivery.row_of_suspend heffect hafter
        exact hextends.notifications n notification hrow
    · exact hold (by simpa [hp] using hpc)

/-- What a step sends for a notification, an attempt that has read the notification sends. -/
theorem mem_sent_next (hst : next config s a = some s') {m : Sent} (hm : m ∈ s'.sent n) :
    m ∈ s.sent n ∨ ∃ p i reply pc e, a = .delivery p (.resume n i reply) ∧
      ((s.deliveries p).running n)[i]? = some pc ∧
        (s.delivery p).sendNotification config.delivery n pc reply = some e ∧
          e.post = some m.post ∧ m.sentAt = s.services.now := by
  cases next_cases hst with
  | resume p k i reply pc e hattempt heffect =>
    by_cases hk : n = k
    · subst hk
      simp only [Function.update_self] at hm
      obtain hold | hnew := List.mem_append.1 hm
      · exact .inl hold
      · obtain ⟨post, hpost, rfl⟩ := List.mem_map.1 hnew
        exact .inr ⟨p, i, reply, pc, e, rfl, hattempt, heffect, Option.mem_toList.1 hpost, rfl⟩
    · exact .inl (by simpa [hk] using hm)
  | _ => exact .inl hm

theorem addressed_next (h : Permitted s) (hst : next config s a = some s') {m : Sent}
    (hm : m ∈ s'.sent n) : s'.Addressed n m := by
  refine (extends_next hst).addressed ?_
  obtain hold | ⟨p, i, reply, pc, e, rfl, hpc, he, hpost, hsentAt⟩ := mem_sent_next hst hm
  · exact h.sent n m hold
  · obtain ⟨notification, sub, event, rfl, hsub, -, hexpired, hwebhook⟩ :=
      Delivery.post_cases he hpost
    obtain ⟨row, hrow, hnew⟩ := h.lookups p n notification (List.mem_of_getElem? hpc)
    have hid : row.subscriptionId = notification.subscriptionId :=
      congrArg NewNotification.subscriptionId hnew
    refine ⟨row, sub, hrow, by rw [hid]; exact hsub, by rw [hwebhook]; rfl, ?_,
      h.notified n row hrow⟩
    rw [hsentAt]
    exact hexpired

/-- **The step lemma.** -/
theorem permitted_next (h : Permitted s) (hst : next config s a = some s') : Permitted s' where
  attempts p k pc hpc := attempts_next h hst hpc
  active k hactive := active_next h hst hactive
  drafts T x i c hx hc new hnew := drafts_next h hst hx hc hnew
  lookups p n notification hpc := lookups_next h hst hpc
  sent n m hm := addressed_next h hst hm
  notified n row hrow := by
    refine (extends_next hst).consented ?_
    cases next_cases hst with
    | quiet a t hlocal hnext hnotes =>
      refine h.notified n row ?_
      rw [← hnotes]
      exact hrow
    | created T i reply t p c new hnext hcall halive hnew hnotes =>
      change t.notifications.rows n = some row at hrow
      rw [hnotes, NotificationRepo.create_rows] at hrow
      split_ifs at hrow
      · cases hrow
        obtain ⟨x, hx, hcall⟩ := Option.bind_eq_some_iff.1 hcall
        obtain ⟨c, hc, heq⟩ := Option.map_eq_some_iff.1 hcall
        cases heq
        exact h.drafts T x i _ hx hc new hnew
      · exact h.notified n row hrow
    | handshake | restart | fire => exact h.notified n row hrow
    | resume p m i reply pc e hattempt heffect =>
      cases hw : e.write with
      | none => exact h.notified n row (by simpa only [hw, Option.elim_none] using hrow)
      | some w =>
        obtain ⟨params, rfl⟩ := exists_rewrite heffect hw
        simp only [hw, Option.elim_some, Table.update_rows] at hrow
        split_ifs at hrow
        · obtain ⟨old, hold, rfl⟩ := Option.map_eq_some_iff.1 hrow
          exact h.notified n old hold
        · exact h.notified n row hrow

/-! ### Runs -/

/-- **Notifications go where they are wanted**: in every run, every notification is for a
subscription whose webhook has echoed a secret, and is sent there and nowhere else, and not after
the subscription has expired. -/
theorem consented_of_reaches {now : ℕ}
    (h : (machine π τ config).Reaches Machine.Unrestricted (init now) s) :
    (∀ n row, s.services.notifications.rows n = some row → s.Consented row.subscriptionId) ∧
      ∀ n, ∀ m ∈ s.sent n, s.Addressed n m := by
  have hinv : Permitted s :=
    h.invariant (permitted_init now) fun _ _ _ hinv _ hst => permitted_next hinv hst
  exact ⟨hinv.notified, hinv.sent⟩

theorem consented_resending : ∃ s : State Unit Unit, (s.sent 1).length = 2 ∧
    ∀ m ∈ s.sent 1, s.Addressed 1 m := by
  obtain ⟨s, hreaches, hs⟩ := Machine.exists_reaches_of_run (M := machine Unit Unit oneMinute)
    (C := Machine.Unrestricted) (init 0) resending (fun s => (s.sent 1).length == 2) (by decide)
    (Machine.meets_unrestricted _ _)
  exact ⟨s, of_decide_eq_true hs, (consented_of_reaches hreaches).2 1⟩

end Webhooks

end PolymeshRest
