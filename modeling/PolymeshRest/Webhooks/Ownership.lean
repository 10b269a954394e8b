import PolymeshRest.Webhooks.System

/-!
# Whose notification it is

Several instances work on the same stored notifications, and nothing in the store says which of
them sends one.  The timers do: the instance that has created a notification adds the first one,
and each next one comes from an attempt of the one before, so a notification has one owner until
this instance ends its last attempt, or restarts.

## Main definitions

* `Webhooks.Within` : what an attempt may still send, within the tries of a notification.
* `Webhooks.Owned` : each notification has at most one owner, which stays within the tries.

## Main results

* `Webhooks.exclusive_of_reaches` : no two instances send a notification, no instance has two
  timers or attempts for one, and together they do not send it more often than it has tries.
* `Webhooks.abandoned_of_reaches` : nobody takes a notification over that lost its owner.
-/

namespace PolymeshRest

namespace Webhooks

open Delivery (getTimeoutId getTimeoutId_injective)

variable {π τ : Type*} [DecidableEq π] [DecidableEq τ] {config : Config} {s s' : State π τ}
  {a : Act π τ} {slots : π → ℕ → Slot SendNotification} {n : ℕ}

/-- The tries a new notification is stored with. -/
def Config.tries (config : Config) : ℤ :=
  config.transactions.notifications.store.storedTries config.transactions.notifications.maxTries

/-- What has been sent for the notification `row`, and what its attempt may still send, stays within
`tries`. -/
def Within (tries sent : ℤ) (row : NotificationModel) : Slot SendNotification → Prop
  | .idle => sent ≤ tries
  | .scheduled | .running .findById => sent + row.triesLeft ≤ tries ∧ 0 < row.triesLeft
  | .running (.lookup notification) =>
    sent + notification.triesLeft ≤ tries ∧ 0 < notification.triesLeft
  | .running (.orphan triesLeft) => sent + triesLeft ≤ tries ∧ 0 < triesLeft
  -- one of the tries left is the one that was sent
  | .running (.post triesLeft) | .running (.acknowledge triesLeft) =>
    sent + triesLeft ≤ tries + 1 ∧ 0 < triesLeft
  | .running (.retry triesLeft) => sent + triesLeft ≤ tries ∧ 0 ≤ triesLeft

theorem Within.sent_le {tries sent : ℤ} {row : NotificationModel} {slot : Slot SendNotification}
    (h : Within tries sent row slot) : sent ≤ tries := by
  unfold Within at h
  split at h <;> omega

/-- **One call of an attempt** keeps within the tries. -/
theorem within_resume {config : Delivery.Config} {d : Delivery.State} {pc : SendNotification}
    {reply : Delivery.Reply} {e : Delivery.Effect} {row : NotificationModel} {tries sent : ℤ}
    (hrow : d.repo.rows n = some row) (he : d.sendNotification config n pc reply = some e)
    (h : Within tries sent row (.running pc)) :
    Within tries (sent + e.post.toList.length) (TaskStore.rewrite e row) e.after.slot := by
  have hsent := h.sent_le
  unfold Delivery.State.sendNotification at he
  split at he <;> cases he
  · -- the row is read, and its tries with it
    rw [hrow]
    split
    · rename_i notification _ heq
      cases heq
      simpa [Within, After.slot] using h
    · simpa [Within, After.slot] using hsent
  · split
    · split
      · simpa [Within, After.slot] using h
      · -- the POST uses one of the tries
        simp only [Within, After.slot, Option.toList_some, List.length_singleton] at h ⊢
        omega
    · simp only [Within, After.slot, Option.toList_none, List.length_nil] at h ⊢
      omega
  · split <;>
      simp only [After.slot, Within, Option.toList_none, List.length_nil] at h ⊢ <;> omega
  · split <;>
      simp only [After.slot, Within, Option.toList_none, List.length_nil] at h ⊢ <;> omega
  · split <;>
      simp only [After.slot, Within, Option.toList_none, List.length_nil] at h ⊢ <;> omega
  · split
    · simpa [Within, After.slot] using hsent
    · rename_i triesLeft outcome hne
      cases outcome with
      | resolved =>
        -- the tries that are written are those that the next attempt reads
        simp only [Within] at h
        simp only [Outcome.ok, if_true, After.slot, Within, TaskStore.rewrite, Delivery.written,
          Outcome.apply_resolved, NotificationUpdate.rewrite, NotificationUpdate.apply,
          Option.getD_some, Option.toList_none, List.length_nil]
        omega
      | rejected | unconfirmed => simpa [Within, After.slot, Outcome.ok] using hsent

/-! ### Owners -/

/-- Each notification has at most one owner, which stays within its tries. -/
structure Owned (config : Config) (s : State π τ) (slots : π → ℕ → Slot SendNotification) :
    Prop where
  tracks : ∀ p, (s.deliveries p).Tracks getTimeoutId (slots p)
  exclusive : ∀ p q n, slots p n ≠ .idle → slots q n ≠ .idle → p = q
  stored : ∀ p n, slots p n ≠ .idle → ∃ row, s.services.notifications.rows n = some row
  within : ∀ p n row, s.services.notifications.rows n = some row →
    Within config.tries (s.sent n).length row (slots p n)
  /-- Nothing was sent for an id without a notification. -/
  unsent : ∀ n, s.services.notifications.rows n = none → s.sent n = []
  sent_le : ∀ n, ((s.sent n).length : ℤ) ≤ config.tries

omit [DecidableEq π] [DecidableEq τ] in
theorem owned_init (htries : 0 < config.tries) (now : ℕ) :
    Owned config (init now : State π τ) fun _ _ => .idle where
  tracks _ := Attempts.tracks_empty
  exclusive _ _ _ h := absurd rfl h
  stored _ _ h := absurd rfl h
  within _ _ _ hrow := by cases hrow
  unsent _ _ := rfl
  sent_le _ := htries.le

/-- The slots after the slot of `n` at the instance `p` is `slot`. -/
def withSlot (slots : π → ℕ → Slot SendNotification) (p : π) (n : ℕ)
    (slot : Slot SendNotification) : π → ℕ → Slot SendNotification :=
  Function.update slots p (Function.update (slots p) n slot)

omit [DecidableEq τ] in
theorem withSlot_self {p : π} {slot : Slot SendNotification} :
    withSlot slots p n slot p n = slot := by
  rw [withSlot, Function.update_self, Function.update_self]

omit [DecidableEq τ] in
theorem withSlot_of_ne {p q : π} {k : ℕ} {slot : Slot SendNotification} (h : q ≠ p ∨ k ≠ n) :
    withSlot slots p n slot q k = slots q k := by
  unfold withSlot
  by_cases hq : q = p
  · subst hq
    rw [Function.update_self, Function.update_of_ne (h.resolve_left (not_not_intro rfl))]
  · rw [Function.update_of_ne hq]

omit [DecidableEq τ] in
theorem tracks_withSlot (h : Owned config s slots) {p : π} {slot : Slot SendNotification}
    {tasks : Attempts SendNotification}
    (htasks : tasks.Tracks getTimeoutId (Function.update (slots p) n slot)) (q : π) :
    (Function.update s.deliveries p tasks q).Tracks getTimeoutId (withSlot slots p n slot q) := by
  unfold withSlot
  by_cases hq : q = p
  · subst hq
    rwa [Function.update_self, Function.update_self]
  · rw [Function.update_of_ne hq, Function.update_of_ne hq]
    exact h.tracks q

omit [DecidableEq τ] in
/-- An owner stays the only one. -/
theorem exclusive_withSlot (h : Owned config s slots) {p : π} {slot : Slot SendNotification}
    (hfree : ∀ q, q ≠ p → slots q n = .idle) (q r : π) (k : ℕ)
    (hq : withSlot slots p n slot q k ≠ .idle) (hr : withSlot slots p n slot r k ≠ .idle) :
    q = r := by
  by_cases hk : k = n
  · subst hk
    have hp : ∀ q, withSlot slots p k slot q k ≠ .idle → q = p := by
      intro q hq
      by_contra hne
      rw [withSlot_of_ne (.inl hne)] at hq
      exact hq (hfree q hne)
    rw [hp q hq, hp r hr]
  · rw [withSlot_of_ne (.inr hk)] at hq hr
    exact h.exclusive q r k hq hr

omit [DecidableEq π] [DecidableEq τ] in
/-- Where an instance has a timer or an attempt, no other one has. -/
theorem Owned.free (h : Owned config s slots) {p : π} (howner : slots p n ≠ .idle) (q : π)
    (hq : q ≠ p) : slots q n = .idle := by
  by_contra hne
  exact hq (h.exclusive q p n hne howner)

omit [DecidableEq τ] in
/-- What an instance does for a notification that no other one owns. -/
theorem owned_withSlot (h : Owned config s slots) {p : π} {slot : Slot SendNotification}
    {tasks : Attempts SendNotification}
    (hfree : ∀ q, q ≠ p → slots q n = .idle)
    (hdeliveries : s'.deliveries = Function.update s.deliveries p tasks)
    (htasks : tasks.Tracks getTimeoutId (Function.update (slots p) n slot))
    (hrow' : ∃ row', s'.services.notifications.rows n = some row' ∧
      Within config.tries (s'.sent n).length row' slot)
    (hrows : ∀ k, k ≠ n → s'.services.notifications.rows k = s.services.notifications.rows k)
    (hsent : ∀ k, k ≠ n → s'.sent k = s.sent k) :
    Owned config s' (withSlot slots p n slot) where
  tracks q := by
    rw [hdeliveries]
    exact tracks_withSlot h htasks q
  exclusive := exclusive_withSlot h hfree
  stored q k hq := by
    by_cases hk : k = n
    · obtain ⟨row', hrow', -⟩ := hrow'
      exact ⟨row', hk ▸ hrow'⟩
    · rw [withSlot_of_ne (.inr hk)] at hq
      rw [hrows k hk]
      exact h.stored q k hq
  within q k row hrow := by
    by_cases hk : k = n
    · subst hk
      obtain ⟨row', hrow', hwithin⟩ := hrow'
      cases hrow'.symm.trans hrow
      by_cases hq : q = p
      · subst hq
        rwa [withSlot_self]
      · rw [withSlot_of_ne (.inl hq), hfree q hq]
        exact hwithin.sent_le
    · rw [withSlot_of_ne (.inr hk), hsent k hk]
      exact h.within q k row ((hrows k hk).symm.trans hrow)
  unsent k hrow := by
    have hk : k ≠ n := by
      rintro rfl
      obtain ⟨row', hrow', -⟩ := hrow'
      rw [hrow'] at hrow
      cases hrow
    rw [hsent k hk]
    exact h.unsent k ((hrows k hk).symm.trans hrow)
  sent_le k := by
    by_cases hk : k = n
    · subst hk
      obtain ⟨row', -, hwithin⟩ := hrow'
      exact hwithin.sent_le
    · rw [hsent k hk]
      exact h.sent_le k

/-- **One step**: a notification keeps its owner, or loses it. -/
theorem owned_next (h : Owned config s slots) (hst : next config s a = some s')
    (htries : 0 < config.tries) : ∃ slots', Owned config s' slots' := by
  cases next_cases hst with
  | quiet a t hlocal hnext hnotes =>
    refine ⟨slots, h.tracks, h.exclusive, ?_, ?_, ?_, h.sent_le⟩
    · rw [hnotes]
      exact h.stored
    · rw [hnotes]
      exact h.within
    · rw [hnotes]
      exact h.unsent
  | handshake => exact ⟨slots, h.tracks, h.exclusive, h.stored, h.within, h.unsent, h.sent_le⟩
  | created T i reply t p c new hnext hcall halive hnew hnotes =>
    have hnone := Table.rows_next (t := s.services.notifications)
    have hfree : ∀ q, slots q (s.services.notifications.currentId + 1) = .idle := by
      intro q
      by_contra hne
      obtain ⟨row, hrow⟩ := h.stored q _ hne
      rw [hnone] at hrow
      cases hrow
    have hrows : ∀ k, t.notifications.rows k = if k = s.services.notifications.currentId + 1 then
        some (config.transactions.notifications.model s.services.now new k)
        else s.services.notifications.rows k := by
      rw [hnotes]
      exact NotificationRepo.create_rows
    refine ⟨withSlot slots p _ .scheduled, owned_withSlot h (fun q _ => hfree q) rfl
      (Attempts.tracks_start getTimeoutId_injective (h.tracks p) (hfree p)) ?_ ?_ ?_⟩
    · refine ⟨_, (hrows _).trans (if_pos rfl), ?_⟩
      have hunsent : s.sent (s.services.notifications.currentId + 1) = [] := h.unsent _ hnone
      simp only [State.schedule, hunsent]
      exact ⟨le_of_eq (Int.zero_add _), htries⟩
    · exact fun k hk => (hrows k).trans (if_neg hk)
    · exact fun k _ => rfl
  | restart p =>
    -- the instance owns nothing any more
    have howner : ∀ q k, Function.update slots p (fun _ => .idle) q k ≠ .idle →
        slots q k ≠ .idle := by
      intro q k hq
      by_cases hqp : q = p
      · subst hqp
        rw [Function.update_self] at hq
        exact absurd rfl hq
      · rwa [Function.update_of_ne hqp] at hq
    refine ⟨Function.update slots p fun _ => .idle, ?_, ?_, ?_, ?_, h.unsent, h.sent_le⟩
    · intro q
      by_cases hq : q = p
      · subst hq
        simp only [Function.update_self]
        exact Attempts.tracks_empty
      · simp only [Function.update_of_ne hq]
        exact h.tracks q
    · exact fun q r k hq hr => h.exclusive q r k (howner q k hq) (howner r k hr)
    · exact fun q k hq => h.stored q k (howner q k hq)
    · intro q k row hrow
      have hwithin := h.within q k row hrow
      by_cases hq : q = p
      · subst hq
        rw [Function.update_self]
        exact hwithin.sent_le
      · rwa [Function.update_of_ne hq]
  | fire p handle tasks hfired =>
    obtain ⟨n, hn, htracks⟩ := Attempts.tracks_fire getTimeoutId_injective (h.tracks p) hfired
    have howner : slots p n ≠ .idle := by simp [hn]
    obtain ⟨row, hrow⟩ := h.stored p n howner
    have hwithin := h.within p n row hrow
    rw [hn] at hwithin
    exact ⟨_, owned_withSlot h (h.free howner) rfl htracks ⟨row, hrow, hwithin⟩ (fun _ _ => rfl)
      fun _ _ => rfl⟩
  | resume p m i reply pc e hattempt heffect =>
    obtain ⟨hm, -⟩ := (h.tracks p).slot_of_getElem? hattempt
    have howner : slots p m ≠ .idle := by simp [hm]
    obtain ⟨row, hrow⟩ := h.stored p m howner
    have hwithin := h.within p m row hrow
    rw [hm] at hwithin
    have hrows := @written_rows s.services.notifications e m
    refine ⟨_, owned_withSlot h (h.free howner) rfl
      (Attempts.tracks_proceed getTimeoutId_injective (h.tracks p) hattempt e.after) ?_ ?_ ?_⟩
    · refine ⟨TaskStore.rewrite e row, ?_, ?_⟩
      · rw [hrows, if_pos rfl, hrow, Option.map_some]
      · have hresume := within_resume hrow heffect hwithin
        simpa using hresume
    · exact fun k hk => (hrows k).trans (if_neg hk)
    · exact fun k hk => Function.update_of_ne hk _ _

theorem owned_of_reaches {now : ℕ} (htries : 0 < config.tries)
    (h : (machine π τ config).Reaches Machine.Unrestricted (init now) s) :
    ∃ slots, Owned config s slots :=
  h.invariant (I := fun s => ∃ slots, Owned config s slots) ⟨_, owned_init htries now⟩
    fun _ _ _ ⟨_, hs⟩ _ hst => owned_next hs hst htries

/-! ### Runs -/

/-- **A notification has one owner**: in every run, at most one instance has a timer or an attempt
for it, and only one, and all instances together do not send it more often than it has tries. -/
theorem exclusive_of_reaches {now : ℕ} (htries : 0 < config.tries)
    (h : (machine π τ config).Reaches Machine.Unrestricted (init now) s) (n : ℕ) :
    (∀ p q, (s.deliveries p).Busy n → (s.deliveries q).Busy n → p = q) ∧
      (∀ p, (s.deliveries p).outstanding n ≤ 1) ∧ ((s.sent n).length : ℤ) ≤ config.tries := by
  obtain ⟨slots, howned⟩ := owned_of_reaches htries h
  refine ⟨fun p q hp hq => ?_, fun p => ?_, howned.sent_le n⟩
  · exact howned.exclusive p q n ((howned.tracks p).ne_idle_of_busy hp)
      ((howned.tracks q).ne_idle_of_busy hq)
  · exact (howned.tracks p).outstanding_le_one getTimeoutId_injective n

/-- What the services do for two transactions of two instances, which have taken the same internal
id: both create a notification for the subscription of the first. -/
def notifyingTwice : List (Transactions.Act Bool Bool) :=
  Transactions.submission false false ++ Transactions.activation false 1 ++
    Transactions.submission true true ++
    [.statusChange false Transactions.running, .statusChange true Transactions.running,
      .handler false 0 (.event (.call true)), .handler true 0 (.event (.call true)),
      .handler false 0 (.event (.call true)), .handler true 0 (.event (.call true)),
      .handler false 0 (.event (.create 0 true)), .handler true 0 (.event (.create 0 true))]

/-- Each sends its own, and the first sends it again. -/
def sharing : List (Act Bool Bool) :=
  notifyingTwice.map .services ++
    [.delivery false (.fire 0), .delivery true (.fire 0),
      .delivery false (.resume 1 0 (.read true)), .delivery true (.resume 2 0 (.read true)),
      .delivery false (.resume 1 0 (.read true)), .delivery true (.resume 2 0 (.read true)),
      .delivery false (.resume 1 0 (.response none)),
      .delivery false (.resume 1 0 (.update .resolved)), .services .tick, .delivery false (.fire 1),
      .delivery false (.resume 1 0 (.read true)), .delivery false (.resume 1 0 (.read true))]

theorem exclusive_sharing : ∃ s : State Bool Bool, (s.sent 1).length = 2 ∧
    (s.sent 2).length = 1 ∧ (s.deliveries false).Busy 1 ∧ ¬ (s.deliveries true).Busy 1 ∧
      (s.deliveries true).Busy 2 ∧ ¬ (s.deliveries false).Busy 2 ∧
        (s.deliveries false).outstanding 1 ≤ 1 ∧ ((s.sent 1).length : ℤ) ≤ oneMinute.tries := by
  obtain ⟨s, hreaches, hs⟩ := Machine.exists_reaches_of_run (M := machine Bool Bool oneMinute)
    (C := Machine.Unrestricted) (init 0) sharing
    (fun s => (s.sent 1).length = 2 ∧ (s.sent 2).length = 1 ∧ (s.deliveries false).Busy 1 ∧
      (s.deliveries true).Busy 2) (by decide) (Machine.meets_unrestricted _ _)
  obtain ⟨hfirst, hsecond, hbusy, hbusy'⟩ := of_decide_eq_true hs
  obtain ⟨hexclusive, honce, hle⟩ := exclusive_of_reaches (by decide) hreaches 1
  have hexclusive' := (exclusive_of_reaches (by decide) hreaches 2).1
  exact ⟨s, hfirst, hsecond, hbusy, fun h => Bool.false_ne_true (hexclusive _ _ hbusy h), hbusy',
    fun h => Bool.false_ne_true (hexclusive' _ _ h hbusy'), honce false, hle⟩

/-- Nobody has a timer or an attempt for the notification `row`. -/
structure Abandoned (s : State π τ) (n : ℕ) (row : NotificationModel) : Prop where
  stored : s.services.notifications.rows n = some row
  idle : ∀ p, ¬ (s.deliveries p).Busy n

/-- **One step** of whatever instance leaves an abandoned notification alone. -/
theorem abandoned_next {row : NotificationModel} (h : Abandoned s n row)
    (hst : next config s a = some s') : Abandoned s' n row ∧ s'.sent n = s.sent n := by
  cases next_cases hst with
  | quiet a t hlocal hnext hnotes =>
    refine ⟨⟨?_, h.idle⟩, rfl⟩
    rw [hnotes]
    exact h.stored
  | handshake => exact ⟨⟨h.stored, h.idle⟩, rfl⟩
  | created T i reply t p c new hnext hcall halive hnew hnotes =>
    have hne : n ≠ s.services.notifications.currentId + 1 := by
      rintro rfl
      have hstored := h.stored
      rw [Table.rows_next] at hstored
      cases hstored
    refine ⟨⟨?_, fun q hbusy => ?_⟩, rfl⟩
    · show t.notifications.rows n = some row
      rw [hnotes, NotificationRepo.create_rows, if_neg hne, h.stored]
    · obtain ⟨rfl, hstarted⟩ | hold := busy_update hbusy
      · exact (Attempts.busy_start hstarted).elim (h.idle q) hne
      · exact h.idle q hold
  | restart p =>
    refine ⟨⟨h.stored, fun q hbusy => ?_⟩, rfl⟩
    obtain ⟨-, hempty⟩ | hold := busy_update hbusy
    · exact Attempts.not_busy_empty n hempty
    · exact h.idle q hold
  | fire p handle tasks hfired =>
    refine ⟨⟨h.stored, fun q hbusy => ?_⟩, rfl⟩
    obtain ⟨rfl, hstarted⟩ | hold := busy_update hbusy
    · exact h.idle q (Attempts.busy_fire hfired hstarted)
    · exact h.idle q hold
  | resume p m i reply pc e hattempt heffect =>
    have hne : n ≠ m := by
      rintro rfl
      exact h.idle p (Attempts.busy_of_getElem? hattempt)
    refine ⟨⟨?_, fun q hbusy => ?_⟩, Function.update_of_ne hne _ _⟩
    · exact (written_rows e m n).trans ((if_neg hne).trans h.stored)
    · obtain ⟨rfl, hgone⟩ | hold := busy_update hbusy
      · exact h.idle q (Attempts.busy_proceed hattempt hgone)
      · exact h.idle q hold

/-- **Nobody takes a notification over**: once no instance has a timer or an attempt for it, as
where the instance that has created it restarts, it is never sent again, and what is stored of it,
its status included, stays as it is. -/
theorem abandoned_of_reaches {row : NotificationModel} (h : Abandoned s n row)
    (hreaches : (machine π τ config).Reaches Machine.Unrestricted s s') :
    Abandoned s' n row ∧ s'.sent n = s.sent n :=
  hreaches.invariant (I := fun t => Abandoned t n row ∧ t.sent n = s.sent n) ⟨h, rfl⟩
    fun _ _ _ ⟨ht, hsent⟩ _ hst =>
      ⟨(abandoned_next ht hst).1, (abandoned_next ht hst).2.trans hsent⟩

/-- The first instance restarts before it has sent its notification. -/
def restarting : List (Act Bool Bool) :=
  notifyingTwice.map .services ++ [.services (.restart false)]

/-- The second instance goes on, and sends its own. -/
def goingOn : List (Act Bool Bool) :=
  [.delivery true (.fire 0), .delivery true (.resume 2 0 (.read true)),
    .delivery true (.resume 2 0 (.read true)), .delivery true (.resume 2 0 (.response (some 200))),
    .delivery true (.resume 2 0 (.update .resolved)), .services .tick]

theorem abandoned_restarting : ∃ (s s' : State Bool Bool) (row : NotificationModel),
    (machine Bool Bool oneMinute).Reaches Machine.Unrestricted (init 0) s ∧
      row.status = .active ∧ (s'.sent 2).length = 1 ∧ Abandoned s' 1 row ∧
        s'.sent 1 = s.sent 1 := by
  obtain ⟨s, hreaches, hs⟩ := Machine.exists_reaches_of_run (M := machine Bool Bool oneMinute)
    (C := Machine.Unrestricted) (init 0) restarting
    (fun s => (s.services.notifications.rows 1).any (·.status = .active) ∧
      (∀ p, ¬ (s.deliveries p).Busy 1) ∧
        ((machine Bool Bool oneMinute).run s goingOn).any fun s' => (s'.sent 2).length = 1)
    (by decide) (Machine.meets_unrestricted _ _)
  obtain ⟨hrow, hidle, hgoingOn⟩ := of_decide_eq_true hs
  obtain ⟨row, hrow, hactive⟩ := (Option.any_eq_true ..).1 hrow
  obtain ⟨s', hrun, hsent⟩ := (Option.any_eq_true ..).1 hgoingOn
  obtain ⟨hstays, hsame⟩ := abandoned_of_reaches ⟨hrow, hidle⟩
    ⟨goingOn, hrun, Machine.meets_unrestricted _ _⟩
  exact ⟨s, s', row, hreaches, of_decide_eq_true hactive, of_decide_eq_true hsent, hstays, hsame⟩

end Webhooks

end PolymeshRest
