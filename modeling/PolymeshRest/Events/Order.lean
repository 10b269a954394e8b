import PolymeshRest.Data.Lists
import PolymeshRest.Events.Basic

/-!
# The nonce of one call

What one call of `createEvent` does for one subscription `k`, among others that work on the same
stores: it reads the next nonce when it looks up `k`, has increased it when its `batchBumpNonce`
is over, and stores it in the one notification it creates for `k`.

* `CreateEvent.nonceFor`, `CreateEvent.bumped`
* `CreateEvent.Progress` : how far the call has got, which other calls do not undo
  (`Progress.mono`) and its own steps continue (`Progress.step`).
* `CreateEvent.Progress.of_resolved` : a call that has resolved has created one notification.
-/

open scoped List

namespace PolymeshRest

namespace CreateEvent

/-- The call was rejected. -/
def failed (c : CreateEvent) : Bool :=
  match c.phase with
  | .rejected _ _ => true
  | _ => false

/-- The call has increased the nonces of the subscriptions it has looked up. -/
def bumped (c : CreateEvent) : Bool :=
  match c.phase with
  | .createNotifications _ | .markEventAsProcessed | .resolved | .rejected .create _ => true
  | _ => false

/-- The nonce that the call has read for the subscription `k`. -/
def nonceFor (c : CreateEvent) (k : ℕ) : Option ℕ :=
  ((c.notifications.getD []).find? (·.subscriptionId = k)).map NewNotification.nonce

/-- The drafts of the call for the subscription `k`. -/
def draftsFor (c : CreateEvent) (k : ℕ) : List NewNotification :=
  c.drafts.filter (·.subscriptionId = k)

/-- What the call has done for the subscription `k`, whose next nonce is `next`, as long as it was
not rejected; `created` are the notifications it has created for `k`. -/
inductive Progress (c : CreateEvent) (next k : ℕ) : List NotificationModel → Prop where
  | waiting (phase : c.phase = .findAll) (notifications : c.notifications = none) :
    Progress c next k []
  | drawn (n : ℕ) (nonce : c.nonceFor k = some n) (le : n ≤ next)
    (lt : c.bumped = true → n < next) (drafts : c.draftsFor k = [⟨c.event.id, k, n⟩]) :
    Progress c next k []
  | notified (m : NotificationModel) (nonce : c.nonceFor k = some m.nonce)
    (bumped : c.bumped = true) (lt : m.nonce < next) (drafts : c.draftsFor k = [])
    (eventId : m.eventId = c.event.id) : Progress c next k [m]

variable {config : NotificationsConfig} {w w' : Stores} {c c' : CreateEvent} {reply : Reply}
  {k : ℕ} {created : List NotificationModel}

theorem Progress.mono {next next' : ℕ} (h : c.Progress next k created) (hnext : next ≤ next') :
    c.Progress next' k created := by
  cases h with
  | waiting hphase hnews => exact .waiting hphase hnews
  | drawn n hn hle hlt hdrafts =>
    exact .drawn n hn (hle.trans hnext) (fun hb => (hlt hb).trans_le hnext) hdrafts
  | notified m hn hbumped hlt hdrafts hevent =>
    exact .notified m hn hbumped (hlt.trans_le hnext) hdrafts hevent

theorem Progress.lt {next n : ℕ} (h : c.Progress next k created) (hbumped : c.bumped = true)
    (hn : c.nonceFor k = some n) : n < next := by
  cases h with
  | waiting hphase => simp [CreateEvent.bumped, hphase] at hbumped
  | drawn m hm hle hlt =>
    obtain rfl : m = n := Option.some.inj (hm.symm.trans hn)
    exact hlt hbumped
  | notified m hm _ hlt =>
    obtain rfl : m.nonce = n := Option.some.inj (hm.symm.trans hn)
    exact hlt

theorem StepCase.failed (hcase : StepCase config w c reply w' c') (h : c'.failed = false) :
    c.failed = false := by
  cases hcase with
  | affected hphase | unaffected hphase | findAllRejected hphase | bump hphase
  | bumpRejected hphase | create _ _ _ hphase | createRejected _ _ _ hphase
  | processed hphase => simp [CreateEvent.failed, hphase]
  | lateCreate | lateRejected => cases h

theorem StepCase.bumped (hcase : StepCase config w c reply w' c') (h : c.bumped = true) :
    c'.bumped = true := by
  cases hcase with
  | affected hphase | unaffected hphase | findAllRejected hphase | bumpRejected hphase =>
    simp [CreateEvent.bumped, hphase] at h
  | bump | createRejected | processed => rfl
  | create j new pending hphase hnew => cases pending.eraseIdx j <;> rfl
  | lateCreate j new call pending hphase hnew | lateRejected j new call pending hphase hnew =>
    cases call <;> simp_all [CreateEvent.bumped]

/-- The nonces a call has read are read when it looks up the subscriptions. -/
theorem StepCase.notifications (hcase : StepCase config w c reply w' c') :
    c'.notifications = c.notifications ∨ c.looksUp reply = true := by
  cases hcase with
  | affected hphase | unaffected hphase => exact .inr (by simp [looksUp, hphase])
  | _ => exact .inl rfl

theorem nonceFor_of_found {event : EventEntity} {sub : SubscriptionModel}
    (hsub : sub ∈ w.affectedSubscriptions event) :
    (event.notificationsFor (w.affectedSubscriptions event)).filter (·.subscriptionId = sub.id) =
      [⟨event.id, sub.id, w.subscriptions.nextNonce sub.id⟩] := by
  have hnonce : w.subscriptions.nextNonce sub.id = sub.nextNonce :=
    SubscriptionRepo.nextNonce_of_row (Stores.row_of_mem_affected hsub)
  rw [hnonce]
  exact filter_eq_singleton (w.nodup_notificationsFor event)
    (a := ⟨event.id, sub.id, sub.nextNonce⟩) (List.mem_map.2 ⟨sub, hsub, rfl⟩)

theorem nonceFor_of_filter {event : EventEntity} {news : List NewNotification} {phase : Phase}
    {n : ℕ} (h : news.filter (·.subscriptionId = k) = [⟨event.id, k, n⟩]) :
    nonceFor ⟨event, some news, phase⟩ k = some n := by
  rw [nonceFor, Option.getD_some, ← List.head?_filter, h]
  rfl

/-- **The lookup** reads the next nonce of the subscription `k` that it finds. -/
theorem StepCase.nonceFor_of_looksUp (hcase : StepCase config w c reply w' c')
    (hlooks : c.looksUp reply = true)
    (hfound : ∃ sub ∈ w.affectedSubscriptions c.event, sub.id = k) :
    c'.nonceFor k = some (w.subscriptions.nextNonce k) := by
  obtain ⟨sub, hsub, rfl⟩ := hfound
  simp only [looksUp, Bool.and_eq_true, decide_eq_true_eq] at hlooks
  obtain ⟨hphase, rfl⟩ := hlooks
  cases hcase with
  | affected => exact nonceFor_of_filter (nonceFor_of_found hsub)
  | unaffected _ hnil =>
    rw [hnil] at hsub
    cases hsub
  | bump hphase' | processed hphase' =>
    rw [hphase] at hphase'
    cases hphase'

/-- **One step of the call**, where its lookup finds the subscription `k`. -/
theorem Progress.step (h : c.Progress (w.subscriptions.nextNonce k) k created)
    (hcase : StepCase config w c reply w' c')
    (hfound : c.looksUp reply = true → ∃ sub ∈ w.affectedSubscriptions c.event, sub.id = k)
    (hrow : ∃ sub, w.subscriptions.rows k = some sub) (hfailed : c'.failed = false) :
    c'.Progress (w'.subscriptions.nextNonce k) k
      (created ++ (w'.notifications.since w.notifications).filter (·.subscriptionId = k)) := by
  obtain ⟨event, notifications, phase⟩ := c
  cases hcase with
  | affected hphase hne =>
    cases hphase
    obtain ⟨sub, hsub, rfl⟩ := hfound rfl
    -- the lookup reads the nonce for `k`
    have hnews := nonceFor_of_found hsub
    rw [Table.since_self, List.filter_nil, List.append_nil]
    cases h with
    | waiting hphase hnone =>
      refine .drawn _ (nonceFor_of_filter hnews) le_rfl (fun hb => nomatch hb) ?_
      simpa [draftsFor, drafts, looked, CreateEvent.pending] using hnews
    | drawn n hn hle hlt hdrafts => cases hdrafts
    | notified m hn hbumped => cases hbumped
  | unaffected hphase hnil =>
    cases hphase
    obtain ⟨sub, hsub, -⟩ := hfound rfl
    rw [hnil] at hsub
    cases hsub
  | findAllRejected | bumpRejected | createRejected | lateCreate | lateRejected => cases hfailed
  | bump hphase =>
    cases hphase
    rw [Table.since_self, List.filter_nil, List.append_nil]
    cases h with
    | waiting hphase => cases hphase
    | drawn n hn hle hlt hdrafts =>
      -- the draft for `k` is one of those whose nonces are increased
      have hdrafts' : (looked ⟨event, notifications, .batchBumpNonce⟩).filter
          (·.subscriptionId = k) = [⟨event.id, k, n⟩] := by
        simpa [draftsFor, drafts, CreateEvent.pending] using hdrafts
      have hmem : (⟨event.id, k, n⟩ : NewNotification) ∈
          looked ⟨event, notifications, .batchBumpNonce⟩ := by
        refine List.mem_of_mem_filter (p := (·.subscriptionId = k)) ?_
        rw [hdrafts']
        exact List.mem_singleton_self _
      have hbump : (w.subscriptions.incrementNonces
          ((looked ⟨event, notifications, .batchBumpNonce⟩).map
            NewNotification.subscriptionId)).nextNonce k = w.subscriptions.nextNonce k + 1 := by
        rw [SubscriptionRepo.nextNonce_incrementNonces fun _ => hrow]
        exact if_pos (List.mem_map.2 ⟨_, hmem, rfl⟩)
      refine .drawn n hn ?_ (fun _ => ?_) ?_
      · rw [hbump]
        omega
      · rw [hbump]
        omega
      · simpa [draftsFor, drafts, looked, CreateEvent.pending] using hdrafts
    | notified m hn hbumped => cases hbumped
  | create j new pending hphase hnew =>
    cases hphase
    have hfilter : [config.model w.now new (w.notifications.currentId + 1)].filter
        (·.subscriptionId = k) = if new.subscriptionId = k then
          [config.model w.now new (w.notifications.currentId + 1)] else [] := by
      by_cases hk : new.subscriptionId = k
      · simp [hk]
      · simp [hk]
    rw [NotificationRepo.create, Table.since_insert, hfilter]
    have hdrafts' : draftsFor ⟨event, notifications, .afterCreate (pending.eraseIdx j)⟩ k =
        (pending.eraseIdx j).filter (·.subscriptionId = k) := by
      simp [draftsFor, drafts]
    have hbumped' : CreateEvent.bumped
        ⟨event, notifications, .afterCreate (pending.eraseIdx j)⟩ = true := by
      cases pending.eraseIdx j <;> rfl
    have hpending : draftsFor ⟨event, notifications, .createNotifications pending⟩ k =
        pending.filter (·.subscriptionId = k) := by
      simp [draftsFor, drafts, looked, CreateEvent.pending]
    cases h with
    | waiting hphase => cases hphase
    | drawn n hn hle hlt hdrafts =>
      rw [hpending] at hdrafts
      by_cases hk : new.subscriptionId = k
      · -- this is the notification for `k`
        have hperm := cons_filter_eraseIdx_perm (p := (·.subscriptionId = k)) hnew
          (decide_eq_true hk)
        rw [hdrafts, List.perm_singleton] at hperm
        obtain ⟨rfl, hnil⟩ := List.cons.inj hperm
        rw [if_pos rfl, List.nil_append]
        exact .notified (config.model w.now ⟨event.id, k, n⟩ (w.notifications.currentId + 1)) hn
          hbumped' (hlt rfl) (hdrafts'.trans hnil) rfl
      · have hperm := filter_eraseIdx_perm (p := (·.subscriptionId = k)) hnew
          (decide_eq_false hk)
        rw [hdrafts, List.perm_singleton] at hperm
        rw [if_neg hk, List.append_nil]
        exact .drawn n hn hle (fun _ => hlt rfl) (hdrafts'.trans hperm)
    | notified m hn hbumped hlt hdrafts hevent =>
      rw [hpending] at hdrafts
      -- `k` has its notification already, so this one is for another subscription
      have hk : new.subscriptionId ≠ k := by
        intro hk
        have hperm := cons_filter_eraseIdx_perm (p := (·.subscriptionId = k)) hnew
          (decide_eq_true hk)
        rw [hdrafts, List.perm_nil] at hperm
        cases hperm
      have hperm := filter_eraseIdx_perm (p := (·.subscriptionId = k)) hnew (decide_eq_false hk)
      rw [hdrafts, List.perm_nil] at hperm
      rw [if_neg hk, List.append_nil]
      exact .notified m hn hbumped' hlt (hdrafts'.trans hperm) hevent
  | processed hphase =>
    cases hphase
    rw [Table.since_self, List.filter_nil, List.append_nil]
    cases h with
    | waiting hphase => cases hphase
    | drawn n hn hle hlt hdrafts => cases hdrafts
    | notified m hn hbumped hlt hdrafts hevent => exact .notified m hn rfl hlt rfl hevent

/-- **A call that has resolved has created one notification for `k`**, with the nonce it read. -/
theorem Progress.of_resolved {next : ℕ} (h : c.Progress next k created)
    (hphase : c.phase = .resolved) :
    ∃ m, created = [m] ∧ m.eventId = c.event.id ∧ c.nonceFor k = some m.nonce := by
  cases h with
  | waiting hphase' =>
    rw [hphase] at hphase'
    cases hphase'
  | drawn n hn hle hlt hdrafts =>
    have hnil : c.draftsFor k = [] := by
      simp [draftsFor, drafts, looked, CreateEvent.pending, hphase]
    rw [hnil] at hdrafts
    cases hdrafts
  | notified m hn hbumped hlt hdrafts hevent => exact ⟨m, rfl, hevent, hn⟩

end CreateEvent

end PolymeshRest
