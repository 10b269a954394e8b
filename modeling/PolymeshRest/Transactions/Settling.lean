import Mathlib.Data.Fintype.Basic
import PolymeshRest.Data.Lists
import PolymeshRest.Transactions.Ownership

/-!
# Subscriptions that are settled

Two activities write the status of a subscription, each without looking at it: its handshake, to
Active or Rejected, and the handlers of terminal statuses, which mark as Done the subscriptions
that were Active and unexpired when they looked.  So a subscription stays settled only if its
handshake does not write after a handler has looked.

## Main definitions

* `Transactions.Settled` : what is to hold of the states after a state.
* `Transactions.StatusCase` : what a step does to the status of a subscription.
* `Transactions.Orderly` : the handshakes and the handlers do not get in each other's way.
* `Transactions.Settling` : the invariant of the orderly runs.

## Main results

* `Transactions.settled_of_orderly` : subscriptions stay settled along orderly runs.
* `Transactions.orderly_of_confirmed` : where no update to Active fails after it took effect, only
  an update to Active that comes late, or an expiry, is out of order.
* `Transactions.reactivated` : a handshake that is echoed late, and one that is tried again.
-/

namespace PolymeshRest

namespace SubscriptionRepo

variable {repo : SubscriptionRepo} {k : ℕ}

/-- The status of the subscription `k`. -/
def status (repo : SubscriptionRepo) (k : ℕ) : Option SubscriptionStatus :=
  (repo.rows k).map SubscriptionModel.status

theorem status_eq_some {status : SubscriptionStatus} : repo.status k = some status ↔
    ∃ sub, repo.rows k = some sub ∧ sub.status = status :=
  Option.map_eq_some_iff

theorem status_update {id : ℕ} {params : SubscriptionUpdate} :
    (repo.update id params).status k =
      if k = id then (repo.status k).map params.status.getD else repo.status k := by
  unfold status
  rw [update_rows]
  split
  · cases repo.rows k <;> rfl
  · rfl

@[simp] theorem status_incrementNonces {ids : List ℕ} :
    (repo.incrementNonces ids).status k = repo.status k := by
  unfold status
  rw [incrementNonces_rows]
  split
  · cases repo.rows k <;> rfl
  · rfl

end SubscriptionRepo

/-- The attempt awaits its update to Active. -/
def SendHandshake.activates : SendHandshake → Bool
  | .activate _ => true
  | _ => false

namespace Handshake

/-- A stored subscription whose handshake is over has no further one. -/
theorem StepCase.slot_eq_idle {config : SubscriptionsConfig} {s s' : State} {a : Act}
    {slots slots' : ℕ → Slot SendHandshake} (hcase : StepCase config s slots a s' slots') {k : ℕ}
    {sub : SubscriptionModel} (hrow : s.repo.rows k = some sub) (hk : slots k = .idle) :
    slots' k = .idle := by
  cases hcase with
  | tick | markAsDone => exact hk
  | createSubscription new =>
    have hne : k ≠ s.repo.currentId + 1 := by
      rintro rfl
      simp at hrow
    rwa [Function.update_of_ne hne]
  | fire handle id tasks hid =>
    have hne : k ≠ id := by
      rintro rfl
      simp [hk] at hid
    rwa [Function.update_of_ne hne]
  | resume id i reply pc e subscription hpc hslot =>
    have hne : k ≠ id := by
      rintro rfl
      simp [hk] at hslot
    rwa [Function.update_of_ne hne]

end Handshake

namespace StatusHandler

variable {config : NotificationsConfig} {w w' : Stores} {stored released : Bool}
  {h h' : StatusHandler} {reply : Reply} {k : ℕ}

/-- The handler of a terminal status has looked up the subscriptions to mark as Done, and `k` is
not among those it is yet to mark. -/
def overlooks (h : StatusHandler) (k : ℕ) : Bool :=
  match h.stage with
  | .batchMarkAsDone pending => k ∉ pending
  | .finished => h.status.isTerminal
  | _ => false

theorem overlooks_of_completed (hcompleted : h.completed = true) : h.overlooks k = true := by
  simp only [completed, Bool.and_eq_true, decide_eq_true_eq] at hcompleted
  simp [overlooks, hcompleted.1, hcompleted.2]

theorem overlooks_afterUpdate {id : ℕ} {status : TransactionStatus} {call : Option CreateEvent}
    {pending : List ℕ} (hk : k ∈ pending) :
    overlooks ⟨id, status, call, .afterUpdate pending⟩ k = false := by
  cases pending with
  | nil => simp at hk
  | cons j js => exact decide_eq_false (not_not.2 hk)

theorem status_markAsDone {subscriptionId : ℕ} {outcome : Outcome} :
    (markAsDone w subscriptionId outcome).subscriptions.status k =
      if k = subscriptionId ∧ outcome.written = true then
        (w.subscriptions.status k).map fun _ => .done
      else w.subscriptions.status k := by
  cases outcome with
  | rejected => simp [markAsDone, Outcome.written]
  | resolved | unconfirmed =>
    simp only [markAsDone, Outcome.apply_resolved, Outcome.apply_unconfirmed,
      SubscriptionRepo.status_update, Outcome.written, and_true]
    rfl

/-- A handler changes the status of the subscriptions it marks as Done only. -/
theorem StepCase.status_cases (hcase : StepCase config w stored h reply w' h' released) :
    w'.subscriptions.status k = w.subscriptions.status k ∨
      k ∈ h.marking ∧
        w'.subscriptions.status k = (w.subscriptions.status k).map fun _ => .done := by
  have hmark : ∀ {j subscriptionId : ℕ} {pending : List ℕ} {outcome : Outcome},
      h.marking = pending → pending[j]? = some subscriptionId →
      (markAsDone w subscriptionId outcome).subscriptions.status k = w.subscriptions.status k ∨
        k ∈ h.marking ∧ (markAsDone w subscriptionId outcome).subscriptions.status k =
          (w.subscriptions.status k).map fun _ => .done := by
    rintro j subscriptionId pending outcome rfl hid
    rw [status_markAsDone]
    split_ifs with hk
    · exact .inr ⟨hk.1 ▸ List.mem_of_getElem? hid, rfl⟩
    · exact .inl rfl
  cases hcase with
  | event reply c c' w' hc hstep =>
    obtain hsubs | ⟨-, hsubs⟩ := hstep.subscriptions_cases
    · exact .inl (by rw [hsubs])
    · exact .inl (by rw [hsubs, SubscriptionRepo.status_incrementNonces])
  | update j subscriptionId pending hstage hid
  | updateRejected j subscriptionId pending outcome hstage hid
  | lateUpdate j subscriptionId failure pending outcome hstage hid =>
    exact hmark (by simp only [marking, hstage]) hid
  | _ => exact .inl rfl

/-- A handler comes to overlook a subscription by not finding it, or by marking it as Done. -/
theorem StepCase.overlooks (hcase : StepCase config w stored h reply w' h' released)
    (hk : h'.overlooks k = true) : h.overlooks k = true ∨
      reply = .findAll true ∧ h.stage = .findAll ∧
        (∀ sub ∈ h.affectedSubscriptions w, sub.id ≠ k) ∨
      w'.subscriptions.status k = (w.subscriptions.status k).map fun _ => .done := by
  obtain ⟨id, status, call, stage⟩ := h
  cases hcase with
  | event reply c c' w' hc hstep => exact .inl hk
  | eventCreated c hstage hc hresolved hterminal => simp [StatusHandler.overlooks, hterminal] at hk
  | lookUp hstage =>
    refine .inr (.inl ⟨rfl, hstage, fun sub hsub hid => ?_⟩)
    rw [overlooks_afterUpdate (List.mem_map.2 ⟨sub, hsub, hid⟩)] at hk
    cases hk
  | update j subscriptionId pending hstage hid =>
    cases hstage
    by_cases hne : k = subscriptionId
    · refine .inr (.inr ?_)
      rw [status_markAsDone, if_pos ⟨hne, rfl⟩]
    · -- another subscription was marked
      refine .inl ?_
      by_contra hnot
      have hmem : k ∈ pending := by simpa [StatusHandler.overlooks] using hnot
      obtain ⟨m, hm⟩ := List.mem_iff_getElem?.1 hmem
      have hmj : m ≠ j := by
        rintro rfl
        rw [hid] at hm
        exact hne (Option.some.inj hm).symm
      have hmem' : k ∈ pending.eraseIdx j := List.mem_eraseIdx_iff_getElem?.2 ⟨m, hmj, hm⟩
      rw [overlooks_afterUpdate hmem'] at hk
      cases hk
  | release | noEntry | eventRejected | lookUpRejected | updateRejected | lateUpdate =>
    simp [StatusHandler.overlooks] at hk

/-- A handler comes to mark a subscription as Done by looking it up. -/
theorem StepCase.marking (hcase : StepCase config w stored h reply w' h' released)
    (hk : k ∈ h'.marking) : k ∈ h.marking ∨
      reply = .findAll true ∧ ∃ sub ∈ h.affectedSubscriptions w, sub.id = k := by
  obtain ⟨id, status, call, stage⟩ := h
  cases hcase with
  | event reply c c' w' hc hstep => exact .inl hk
  | lookUp hstage =>
    rw [marking_afterUpdate] at hk
    obtain ⟨sub, hsub, hid⟩ := List.mem_map.1 hk
    exact .inr ⟨rfl, sub, hsub, hid⟩
  | update j subscriptionId pending hstage hid =>
    cases hstage
    rw [marking_afterUpdate] at hk
    exact .inl (List.mem_of_mem_eraseIdx hk)
  | updateRejected j subscriptionId pending outcome hstage hid hfailed
  | lateUpdate j subscriptionId failure pending outcome hstage hid =>
    cases hstage
    exact .inl (List.mem_of_mem_eraseIdx hk)
  | eventCreated | release | noEntry | eventRejected | lookUpRejected =>
    simp [StatusHandler.marking] at hk

theorem StepCase.completed (hcase : StepCase config w stored h reply w' h' released)
    (hcompleted : h.completed = true) : h'.completed = true := by
  simp only [StatusHandler.completed, Bool.and_eq_true, decide_eq_true_eq] at hcompleted ⊢
  cases hcase with
  | event => exact hcompleted
  | eventCreated _ hstage | release _ hstage | noEntry _ hstage | eventRejected _ hstage
  | lookUp hstage | lookUpRejected hstage | update _ _ _ hstage | updateRejected _ _ _ _ hstage
  | lateUpdate _ _ _ _ _ hstage =>
    rw [hcompleted.2] at hstage
    cases hstage

theorem not_overlooks_of_call (w : Stores) (id : ℕ) (transaction : Transaction) :
    (w.handleTransactionStatusChange id transaction).2.overlooks k = false := by
  unfold Stores.handleTransactionStatusChange
  split <;> rfl

end StatusHandler

namespace Transactions

variable {π τ : Type*} [DecidableEq π] [DecidableEq τ] {config : Config} {s s' : State π τ}
  {a : Act π τ} {k : ℕ}

/-! ### What a step does to the status of a subscription -/

/-- What a step makes of the status `before` of the subscription `k`. -/
inductive StatusCase (s : State π τ) (k : ℕ) (before : SubscriptionStatus) :
    Act π τ → SubscriptionStatus → Prop where
  | same (a : Act π τ) : StatusCase s k before a before
  | marked (T : τ) (x : Submission π) (i : ℕ) (reply : StatusHandler.Reply) (h : StatusHandler)
    (transaction : s.transactions T = some x) (handler : h ∈ x.handlers) (marking : k ∈ h.marking) :
    StatusCase s k before (.handler T i reply) .done
  | activated (p : π) (i : ℕ) (outcome : Outcome) (pc : SendHandshake)
    (attempt : ((s.processes p).tasks.running k)[i]? = some pc) (activates : pc.activates = true)
    (written : outcome.written = true) :
    StatusCase s k before (.handshake p (.resume k i (.update outcome))) .active
  | retried (p : π) (i : ℕ) (reply : Handshake.Reply) (pc : SendHandshake)
    (after : SubscriptionStatus) (attempt : ((s.processes p).tasks.running k)[i]? = some pc)
    (ne_active : after ≠ .active) (ne_done : after ≠ .done) :
    StatusCase s k before (.handshake p (.resume k i reply)) after

omit [DecidableEq π] [DecidableEq τ] in
theorem statusCase_handshake {p : π} {b : HandshakeAct} {h : Handshake.State}
    (hst : Handshake.next config.subscriptions (s.handshakes p) b.toAct = some h)
    {before : SubscriptionStatus} (hk : s.subscriptions.status k = some before) :
    ∃ after, SubscriptionRepo.status h.repo k = some after ∧
      StatusCase s k before (.handshake p b) after := by
  obtain hrepo | ⟨id, i, triesLeft, outcome, rfl, hpc, hwritten, hrepo⟩ |
    ⟨id, i, triesLeft, status, reply, rfl, hpc, hactive, hdone, hrepo⟩ := handshake_cases hst
  · exact ⟨before, by rw [hrepo, hk], .same _⟩
  · rw [hrepo, SubscriptionRepo.status_update, hk]
    split_ifs with hid
    · subst hid
      exact ⟨.active, rfl, .activated p i outcome _ hpc rfl hwritten⟩
    · exact ⟨before, rfl, .same _⟩
  · rw [hrepo, SubscriptionRepo.status_update, hk]
    split_ifs with hid
    · subst hid
      cases status with
      | none => exact ⟨before, rfl, .same _⟩
      | some status =>
        exact ⟨status, rfl, .retried p i reply _ status hpc (fun h => hactive (h ▸ rfl))
          fun h => hdone (h ▸ rfl)⟩
    · exact ⟨before, rfl, .same _⟩

/-- **Every step keeps the status of a subscription, or changes it in one of these ways.** -/
theorem statusCase_next (hst : next config s a = some s') {before : SubscriptionStatus}
    (hk : s.subscriptions.status k = some before) :
    ∃ after, s'.subscriptions.status k = some after ∧ StatusCase s k before a after := by
  cases next_cases hst with
  | tick | restart | submitAndSubscribe | subscriptionRejected => exact ⟨before, hk, .same _⟩
  | subscriptionCreated T x hx halive hphase =>
    obtain ⟨sub, hrow, hstatus⟩ := SubscriptionRepo.status_eq_some.1 hk
    exact ⟨before, SubscriptionRepo.status_eq_some.2
      ⟨sub, Table.insert_rows_of_some (SubscriptionParams.toModel_id _) hrow, hstatus⟩, .same _⟩
  | nonceSet T x outcome id hx halive hphase hid =>
    refine ⟨before, ?_, .same _⟩
    cases outcome with
    | rejected => exact hk
    | resolved | unconfirmed =>
      show (s.subscriptions.update id { nextNonce := some 1 }).status k = some before
      rw [SubscriptionRepo.status_update, hk]
      split <;> rfl
  | statusChange T x transaction hx halive hattached hphase =>
    refine ⟨before, ?_, .same _⟩
    show ((s.stores x.process).handleTransactionStatusChange x.id
      transaction).1.subscriptions.status k = some before
    rw [(StatusHandler.stores_of_call (s.stores x.process) x.id transaction).1]
    exact hk
  | handler T x i reply h h' w released hx halive hh hcase =>
    rw [State.commit_subscriptions]
    obtain hsame | ⟨hmarking, hdone⟩ := hcase.status_cases (k := k)
    · exact ⟨before, hsame.trans hk, .same _⟩
    · refine ⟨.done, ?_, .marked T x i reply h hx (List.mem_of_getElem? hh) hmarking⟩
      rw [hdone]
      show (s.subscriptions.status k).map _ = _
      rw [hk]
      rfl
  | handshake p b h hstep => exact statusCase_handshake hstep hk

/-! ### Handshakes that are over -/

theorem tasks_of_next (hst : next config s a = some s') (p : π) :
    (s'.processes p).tasks = (s.processes p).tasks ∨ (s'.processes p).tasks = .empty ∨
      ∃ b h, Handshake.next config.subscriptions (s.handshakes p) b = some h ∧
        (s'.processes p).tasks = h.tasks ∧ s'.subscriptions = h.repo := by
  cases next_cases hst with
  | tick | subscriptionRejected | nonceSet => exact .inl rfl
  | submitAndSubscribe T q webhookUrl hfree =>
    refine .inl ?_
    by_cases hp : p = q <;> simp [State.addListener, hp]
  | subscriptionCreated T x hx halive hphase =>
    by_cases hp : p = x.process
    · refine .inr (.inr ⟨.createSubscription (config.subscriptionFor x), _, rfl, ?_, ?_⟩)
      · simp [State.withHandshakes, State.withTransaction, hp]
      · rw [hp]
        rfl
    · exact .inl (by simp [State.withHandshakes, State.withTransaction, hp])
  | statusChange T x transaction hx halive hattached hphase =>
    refine .inl ?_
    by_cases hp : p = x.process <;> simp [State.withStores, State.withTransaction, hp]
  | handler => exact .inl (State.commit_tasks p)
  | handshake q b h hstep =>
    by_cases hp : p = q
    · subst hp
      exact .inr (.inr ⟨b.toAct, h, hstep, by simp [State.withHandshakes], rfl⟩)
    · exact .inl (by simp [State.withHandshakes, hp])
  | restart q =>
    by_cases hp : p = q
    · exact .inr (.inl (by simp [State.restart, Process.init, hp]))
    · exact .inl (by simp [State.restart, hp])

/-- What is under way for the handshakes of every instance is what its slots show. -/
def Timed (s : State π τ) : Prop := ∀ p, ∃ slots, Handshake.Tracked (s.handshakes p) slots

/-- No instance has a timer or an attempt for the subscription `k`. -/
def State.HandshakeOver {π τ : Type*} (s : State π τ) (k : ℕ) : Prop :=
  ∀ p, (s.processes p).tasks.outstanding k = 0

omit [DecidableEq π] [DecidableEq τ] in
theorem timed_init (now : ℕ) : Timed (init now : State π τ) :=
  fun _ => ⟨_, TaskStore.tracked_empty⟩

/-- **One step.** -/
theorem timed_next (h : Timed s) (hst : next config s a = some s') : Timed s' := by
  intro p
  obtain ⟨slots, htracked⟩ := h p
  obtain hsame | hempty | ⟨b, t, hnext, htasks, hrepo⟩ := tasks_of_next hst p
  · refine ⟨slots, ?_, fun k hk => ⟨(htracked.fresh k ?_).1, rfl, rfl⟩⟩
    · show (s'.processes p).tasks.Tracks _ slots
      rw [hsame]
      exact htracked.tracks
    · -- no step removes a subscription
      cases hrow : s.subscriptions.rows k with
      | none => exact hrow
      | some sub =>
        obtain ⟨after, hafter, -⟩ := statusCase_next hst
          (SubscriptionRepo.status_eq_some.2 ⟨sub, hrow, rfl⟩)
        obtain ⟨sub', hrow', -⟩ := SubscriptionRepo.status_eq_some.1 hafter
        rw [show s'.subscriptions.rows k = none from hk] at hrow'
        cases hrow'
  · refine ⟨fun _ => .idle, ?_, fun k hk => ⟨rfl, rfl, rfl⟩⟩
    show (s'.processes p).tasks.Tracks _ _
    rw [hempty]
    exact Attempts.tracks_empty
  · obtain ⟨slots', -, htracked'⟩ := Handshake.step_cases htracked hnext
    refine ⟨slots', ?_, fun k hk => ⟨(htracked'.fresh k (hrepo ▸ hk)).1, rfl, rfl⟩⟩
    show (s'.processes p).tasks.Tracks _ slots'
    rw [htasks]
    exact htracked'.tracks

omit [DecidableEq π] [DecidableEq τ] in
theorem outstanding_eq_zero {slots : ℕ → Slot SendHandshake} {p : π}
    (h : Handshake.Tracked (s.handshakes p) slots) :
    (s.processes p).tasks.outstanding k = 0 ↔ slots k = .idle := by
  have heq : (s.processes p).tasks.outstanding k = _ :=
    h.tracks.outstanding_eq Handshake.getTimeoutId_injective k
  rw [heq]
  split <;> simp_all

theorem outstanding_next (h : Timed s) {sub : SubscriptionModel}
    (hrow : s.subscriptions.rows k = some sub) {p : π}
    (hk : (s.processes p).tasks.outstanding k = 0) (hst : next config s a = some s') :
    (s'.processes p).tasks.outstanding k = 0 := by
  obtain ⟨slots, htracked⟩ := h p
  obtain hsame | hempty | ⟨b, t, hnext, htasks, -⟩ := tasks_of_next hst p
  · rw [hsame]
    exact hk
  · rw [hempty]
    rfl
  · obtain ⟨slots', hcase, htracked'⟩ := Handshake.step_cases htracked hnext
    rw [outstanding_eq_zero htracked] at hk
    rw [htasks, htracked'.tracks.outstanding_eq Handshake.getTimeoutId_injective,
      hcase.slot_eq_idle hrow hk]

theorem handshakeOver_next (h : Timed s) {sub : SubscriptionModel}
    (hrow : s.subscriptions.rows k = some sub) (hk : s.HandshakeOver k)
    (hst : next config s a = some s') : s'.HandshakeOver k :=
  fun p => outstanding_next h hrow (hk p) hst

theorem State.HandshakeOver.no_attempt {π τ : Type*} {s : State π τ} (h : s.HandshakeOver k)
    {p : π} {i : ℕ} {pc : SendHandshake}
    (hpc : ((s.processes p).tasks.running k)[i]? = some pc) : False := by
  have hzero := h p
  have hmem := List.length_pos_of_mem (List.mem_of_getElem? hpc)
  simp only [Attempts.outstanding] at hzero
  omega

/-! ### Orderly runs -/

/-- The transaction `T` has the subscription `k`, and the handler of a terminal status of it has
completed. -/
def State.Ended {π τ : Type*} (s : State π τ) (T : τ) (k : ℕ) : Prop :=
  ∃ x, s.transactions T = some x ∧ x.subscriptionId = some k ∧ ∃ h ∈ x.handlers, h.completed = true

/-- What is settled in `s` is settled in `s'`, a later state of a run. -/
structure Settled {π τ : Type*} (s s' : State π τ) : Prop where
  completed : ∀ T k, s.Ended T k → s'.subscriptions.status k ≠ some .active
  done : ∀ k, s.subscriptions.status k = some .done → s'.subscriptions.status k = some .done

/-- A handler that looks up subscriptions now does not leave out that of its transaction `x`
because it has expired. -/
def State.FindsOwn {π τ : Type*} (s : State π τ) (x : Submission π) : Prop :=
  ∀ k ∈ x.subscriptionId, ∀ sub ∈ s.subscriptions.rows k,
    sub.status = .active → sub.isExpired s.now = false

/-- It is not too late for the subscription `k` to become Active: no handler of its transaction
has looked for it already and is not to mark it. -/
def State.InTime {π τ : Type*} (s : State π τ) (k : ℕ) : Prop :=
  ∀ T, ∀ x ∈ s.transactions T, x.subscriptionId = some k → ∀ h ∈ x.handlers, h.overlooks k = false

/-- The attempt that goes on awaits its update to Active. -/
def State.activating {π τ : Type*} (s : State π τ) (p : π) (k i : ℕ) : Bool :=
  ((s.processes p).tasks.running k)[i]?.any SendHandshake.activates

/-- Handshakes and handlers take turns: a handler that looks up the subscriptions to mark as Done
does not miss that of its transaction, and finds none whose handshake is not over; no handshake
makes a subscription Active when it is too late. -/
def Orderly (s : State π τ) : Act π τ → Prop
  | .handler T i (.findAll true) => ∀ x ∈ s.transactions T, ∀ h ∈ x.handlers[i]?,
      s.FindsOwn x ∧ ∀ sub ∈ h.affectedSubscriptions (s.stores x.process), s.HandshakeOver sub.id
  | .handshake p (.resume k i (.update outcome)) =>
      s.activating p k i = true → outcome.written = true → s.InTime k
  | _ => True

/-- What holds in every state of an orderly run. -/
structure Settling (s : State π τ) : Prop where
  filed : Filed s
  timed : Timed s
  /-- The handshake of a subscription that is to be marked as Done is over. -/
  marking : ∀ T x, s.transactions T = some x → ∀ h ∈ x.handlers, ∀ k ∈ h.marking, s.HandshakeOver k
  done : ∀ k, s.subscriptions.status k = some .done → s.HandshakeOver k
  active : ∀ T x k, s.transactions T = some x → x.subscriptionId = some k →
    s.subscriptions.status k = some .active → ∀ h ∈ x.handlers, h.overlooks k = false

omit [DecidableEq π] [DecidableEq τ] in
theorem settling_init (now : ℕ) : Settling (init now : State π τ) where
  filed := filed_init now
  timed := timed_init now
  marking _ _ h := nomatch h
  done _ h := nomatch h
  active _ _ _ h := nomatch h

/-- A subscription that a step stores is Inactive, and one instance takes up its handshake. -/
theorem stored_of_next (hst : next config s a = some s') (hnone : s.subscriptions.rows k = none)
    {sub : SubscriptionModel} (hrow : s'.subscriptions.rows k = some sub) :
    sub.status = .inactive ∧ ∃ p, ∀ q, q ≠ p → (s'.processes q).tasks = (s.processes q).tasks := by
  -- updates add no subscription
  have hkept : ¬ s.subscriptions.Keeps s'.subscriptions := by
    intro hkeeps
    obtain ⟨old, hold, -⟩ := hkeeps.row hrow
    rw [hnone] at hold
    cases hold
  cases next_cases hst with
  | tick | submitAndSubscribe | subscriptionRejected | restart => exact absurd (.refl _) hkept
  | subscriptionCreated T x hx halive hphase =>
    refine ⟨?_, x.process, fun q hq => ?_⟩
    · change (if k = s.subscriptions.currentId + 1 then
        some ((config.subscriptions.paramsOf s.now (config.subscriptionFor x)).toModel k)
        else s.subscriptions.rows k) = some sub at hrow
      split_ifs at hrow
      · cases hrow
        rfl
      · rw [hnone] at hrow
        cases hrow
    · simp [State.withHandshakes, State.withTransaction, hq]
  | nonceSet T x outcome id hx halive hphase hid =>
    cases outcome with
    | rejected => exact absurd (.refl _) hkept
    | resolved | unconfirmed => exact absurd (SubscriptionRepo.keeps_update _ _ _) hkept
  | statusChange T x transaction hx halive hattached hphase =>
    refine absurd ?_ hkept
    show s.subscriptions.Keeps
      ((s.stores x.process).handleTransactionStatusChange x.id transaction).1.subscriptions
    rw [(StatusHandler.stores_of_call (s.stores x.process) x.id transaction).1]
    exact .refl _
  | handler T x i reply g g' w released hx halive hg hcase =>
    rw [State.commit_subscriptions] at hkept
    exact absurd hcase.keeps hkept
  | handshake p b t hstep => exact absurd (keeps_handshake hstep) hkept

/-- The status of a subscription before a step, if it is not Inactive after it. -/
theorem status_before (hst : next config s a = some s') {after : SubscriptionStatus}
    (hafter : s'.subscriptions.status k = some after) (hne : after ≠ .inactive) :
    ∃ sub before, s.subscriptions.rows k = some sub ∧ sub.status = before ∧
      StatusCase s k before a after := by
  cases hrow : s.subscriptions.rows k with
  | none =>
    obtain ⟨sub', hrow', rfl⟩ := SubscriptionRepo.status_eq_some.1 hafter
    exact absurd (stored_of_next hst hrow hrow').1 hne
  | some sub =>
    obtain ⟨after', hafter', hcase⟩ :=
      statusCase_next hst (SubscriptionRepo.status_eq_some.2 ⟨sub, hrow, rfl⟩)
    rw [hafter, Option.some.injEq] at hafter'
    subst hafter'
    exact ⟨sub, _, rfl, rfl, hcase⟩

omit [DecidableEq π] [DecidableEq τ] in
/-- A handler that looks up subscriptions finds that of its transaction, if it is Active and has
not expired. -/
theorem found_of_active (h : Filed s) {T : τ} {x : Submission π} (hx : s.transactions T = some x)
    (hk : x.subscriptionId = some k) {g : StatusHandler} (hg : g ∈ x.handlers)
    {sub : SubscriptionModel} (hrow : s.subscriptions.rows k = some sub)
    (hactive : sub.status = .active) (hexp : sub.isExpired s.now = false) :
    sub ∈ g.affectedSubscriptions (s.stores x.process) := by
  obtain ⟨hscope, htype⟩ := h.scope T x k sub hx hk hrow
  refine (mem_findAll_listening Nat.repr_ne_empty).2 ⟨?_, hactive, ?_, htype, hexp⟩
  · show s.subscriptions.rows sub.id = some sub
    rw [s.subscriptions.key_eq hrow, hrow]
  · rw [hscope, (h.handlers T x hx g hg).1]

/-- **One orderly step.** -/
theorem settling_next (h : Settling s) (horderly : Orderly s a) (hst : next config s a = some s') :
    Settling s' := by
  have hfiled := filed_next h.filed hst
  have hstays : ∀ {k sub}, s.subscriptions.rows k = some sub → s.HandshakeOver k →
      s'.HandshakeOver k := fun hrow hover => handshakeOver_next h.timed hrow hover hst
  refine ⟨hfiled, timed_next h.timed hst, fun T x' hx' h' hh' k hk => ?_, fun k hk => ?_,
    fun T x' k hx' hsub hk h' hh' => ?_⟩
  · obtain ⟨i, hi⟩ := List.mem_iff_getElem?.1 hh'
    obtain ⟨x, hx, -, hcase⟩ := handlerCase_next hst hx' hi
    cases hcase with
    | same _ _ _ hg _ =>
      have hmem := List.mem_of_getElem? hg
      obtain ⟨sub, hrow⟩ := h.filed.concerns T x hx h' hmem k (.inr hk)
      exact hstays hrow (h.marking T x hx h' hmem k hk)
    | called transaction _ =>
      exact absurd (.inr hk) (StatusHandler.not_concerns_of_call _ _ _ k)
    | moved reply g _ w released hg hcase =>
      have hmem := List.mem_of_getElem? hg
      -- it has just found the subscription: an orderly lookup comes after the handshake
      obtain hold | ⟨rfl, sub, hsub, rfl⟩ := hcase.marking hk
      · obtain ⟨sub, hrow⟩ := h.filed.concerns T x hx g hmem k (.inr hold)
        exact hstays hrow (h.marking T x hx g hmem k hold)
      · exact hstays (mem_findAll.1 hsub).1 ((horderly x hx g hg).2 sub hsub)
  · obtain ⟨sub, before, hrow, hstatus, hcase⟩ := status_before hst hk (by decide)
    cases hcase with
    | same => exact hstays hrow (h.done k (SubscriptionRepo.status_eq_some.2 ⟨sub, hrow, hstatus⟩))
    | marked T x i reply g hx hg hmarking => exact hstays hrow (h.marking T x hx g hg k hmarking)
    | retried _ _ _ _ _ _ _ hdone => exact absurd rfl hdone
  · obtain ⟨sub, before, hrow, hstatus, hstatusCase⟩ := status_before hst hk (by decide)
    obtain ⟨i, hi⟩ := List.mem_iff_getElem?.1 hh'
    obtain ⟨x, hx, hkept, hcase⟩ := handlerCase_next hst hx' hi
    have hsub₀ : x.subscriptionId = some k := by
      obtain hsub₀ | hnone := hkept.subscriptionId k hsub
      · exact hsub₀
      · rw [hnone] at hrow
        cases hrow
    cases hstatusCase with
    | same =>
      have hfound := h.active T x k hx hsub₀
        (SubscriptionRepo.status_eq_some.2 ⟨sub, hrow, hstatus⟩)
      cases hcase with
      | same _ _ _ hg _ => exact hfound h' (List.mem_of_getElem? hg)
      | called transaction _ => exact StatusHandler.not_overlooks_of_call _ _ _
      | moved reply g _ w released hg hcase =>
        have hmem := List.mem_of_getElem? hg
        rw [Bool.eq_false_iff]
        intro hover
        -- a handler that overlooks an Active subscription has found it expired, or marked it
        obtain hover | ⟨rfl, -, hnone⟩ | hdone := hcase.overlooks hover
        · rw [hfound g hmem] at hover
          cases hover
        · have hexp := (horderly x hx g hg).1 k hsub₀ sub hrow hstatus
          exact hnone sub (found_of_active h.filed hx hsub₀ hmem hrow hstatus hexp)
            (s.subscriptions.key_eq hrow)
        · rw [State.commit_subscriptions, hdone] at hk
          obtain ⟨_, -, hk⟩ := Option.map_eq_some_iff.1 hk
          cases hk
    | activated p j outcome pc hpc hactivates hwritten =>
      cases hcase with
      | same _ _ _ hg _ =>
        refine horderly ?_ hwritten T x hx hsub₀ h' (List.mem_of_getElem? hg)
        rw [State.activating, hpc]
        exact hactivates
    | retried _ _ _ _ _ _ hactive => exact absurd rfl hactive

theorem ended_next (hfiled : Filed s) {T : τ} (h : s.Ended T k)
    (hst : next config s a = some s') : s'.Ended T k := by
  cases next_cases hst with
  | tick | handshake | restart => exact h
  | submitAndSubscribe T₁ p webhookUrl hfree => exact exists_of_insert h hfree
  | subscriptionCreated T₁ y hy halive hphase =>
    refine exists_of_update h hy fun ⟨hsub, _⟩ => ?_
    rw [hfiled.unset T₁ y hy hphase] at hsub
    cases hsub
  | subscriptionRejected T₁ y hy | nonceSet T₁ y _ _ hy => exact exists_of_update h hy id
  | statusChange T₁ y transaction hy =>
    exact exists_of_update h hy fun ⟨hsub, g, hg, hc⟩ => ⟨hsub, g, List.mem_append_left _ hg, hc⟩
  | handler T₁ y i reply f f' w released hy halive hf hcase =>
    rw [State.Ended, State.commit_transactions]
    exact exists_of_update h hy fun ⟨hsub, hany⟩ => ⟨hsub, exists_mem_set hf hcase.completed hany⟩

theorem done_next (h : Settling s) (hst : next config s a = some s')
    (hk : s.subscriptions.status k = some .done) : s'.subscriptions.status k = some .done := by
  obtain ⟨after, hafter, hcase⟩ := statusCase_next hst hk
  cases hcase with
  | same | marked => exact hafter
  | activated _ _ _ _ hpc | retried _ _ _ _ _ hpc => exact ((h.done k hk).no_attempt hpc).elim

/-- **Along an orderly run, what is settled stays settled.** -/
theorem settled_of_orderly {now : ℕ} (hreach : (machine π τ config).Reaches Orderly (init now) s)
    (hreach' : (machine π τ config).Reaches Orderly s s') : Settled s s' := by
  have hsettling : Settling s := hreach.invariant (settling_init now) fun _ _ _ => settling_next
  have hlater : Settling s' ∧ (∀ T k, s.Ended T k → s'.Ended T k) ∧
      ∀ k, s.subscriptions.status k = some .done → s'.subscriptions.status k = some .done := by
    refine hreach'.invariant (I := fun u => Settling u ∧ (∀ T k, s.Ended T k → u.Ended T k) ∧
      ∀ k, s.subscriptions.status k = some .done → u.subscriptions.status k = some .done)
      ⟨hsettling, fun _ _ h => h, fun _ h => h⟩ ?_
    rintro u b u' ⟨hu, hended, hdone⟩ horderly hst
    exact ⟨settling_next hu horderly hst, fun T k hk => ended_next hu.filed (hended T k hk) hst,
      fun k hk => done_next hu hst (hdone k hk)⟩
  obtain ⟨hsettling', hended, hdone⟩ := hlater
  refine ⟨fun T k hk hactive => ?_, hdone⟩
  obtain ⟨x', hx', hk', h', hh', hcompleted'⟩ := hended T k hk
  have hover := hsettling'.active T x' k hx' hk' hactive h' hh'
  rw [StatusHandler.overlooks_of_completed hcompleted'] at hover
  cases hover

/-! ### Updates to Active that do not fail halfway -/

/-- As `Orderly`, but all it asks of the handshakes that are under way is that an update to Active
that is rejected has had no effect. -/
def Confirmed (s : State π τ) : Act π τ → Prop
  | .handler T _ (.findAll true) => ∀ x ∈ s.transactions T, s.FindsOwn x
  | .handshake p (.resume k i (.update outcome)) =>
      s.activating p k i = true → outcome ≠ .unconfirmed ∧ (outcome.written = true → s.InTime k)
  | _ => True

/-- No two instances have something under way for one subscription. -/
def Exclusive {π τ : Type*} (s : State π τ) : Prop :=
  ∀ k p q, (s.processes p).tasks.outstanding k ≠ 0 → (s.processes q).tasks.outstanding k ≠ 0 → p = q

theorem exclusive_next (htimed : Timed s) (h : Exclusive s) (hst : next config s a = some s') :
    Exclusive s' := by
  intro k p q hp hq
  cases hrow : s.subscriptions.rows k with
  | some sub =>
    exact h k p q (fun hzero => hp (outstanding_next htimed hrow hzero hst))
      fun hzero => hq (outstanding_next htimed hrow hzero hst)
  | none =>
    have hzero : ∀ r, (s.processes r).tasks.outstanding k = 0 := by
      intro r
      obtain ⟨slots, htracked⟩ := htimed r
      exact (outstanding_eq_zero htracked).2 (htracked.fresh k hrow).1
    cases hrow' : s'.subscriptions.rows k with
    | none =>
      obtain ⟨slots', htracked'⟩ := timed_next htimed hst p
      exact absurd ((outstanding_eq_zero htracked').2 (htracked'.fresh k hrow').1) hp
    | some sub =>
      -- the subscription is new, and only the instance that stores it takes it up
      obtain ⟨-, r, hothers⟩ := stored_of_next hst hrow hrow'
      have hr : ∀ q, (s'.processes q).tasks.outstanding k ≠ 0 → q = r := by
        intro q hq
        by_contra hne
        rw [hothers q hne] at hq
        exact hq (hzero q)
      rw [hr p hp, hr q hq]

/-- The handshake of a subscription that has become Active is over. -/
theorem handshakeOver_of_activated (htimed : Timed s) (hexclusive : Exclusive s) {p : π} {i : ℕ}
    {pc : SendHandshake} (hpc : ((s.processes p).tasks.running k)[i]? = some pc)
    (hactivates : pc.activates = true)
    (hst : next config s (.handshake p (.resume k i (.update .resolved))) = some s') :
    s'.HandshakeOver k := by
  intro q
  obtain ⟨slots, htracked⟩ := htimed p
  obtain ⟨hslot, sub, hrow⟩ := htracked.attempt hpc
  by_cases hq : q = p
  · subst hq
    cases next_cases hst with
    | handshake _ _ t hstep =>
      obtain ⟨slots', hcase, htracked'⟩ := Handshake.step_cases htracked hstep
      show ((Function.update s.processes q
        { s.processes q with tasks := t.tasks }) q).tasks.outstanding k = 0
      rw [Function.update_self, htracked'.tracks.outstanding_eq Handshake.getTimeoutId_injective]
      cases hcase with
      | resume _ _ _ pc' e _ hpc' _ _ he =>
        obtain rfl : pc = pc' := Option.some.inj (hpc.symm.trans hpc')
        cases pc with
        | activate triesLeft =>
          cases he
          simp [After.slot, Outcome.ok]
        | findOne | generateBase64Secret | post | retry => cases hactivates
  · refine outstanding_next htimed hrow ?_ hst
    by_contra hne
    refine hq (hexclusive k q p hne ?_)
    rw [ne_eq, outstanding_eq_zero htracked, hslot]
    intro hnone
    cases hnone

/-- **Where no update to Active fails halfway, only one that comes too late, or an expiry, is out
of order.** -/
theorem orderly_of_confirmed {now : ℕ}
    (hreach : (machine π τ config).Reaches Confirmed (init now) s) :
    (machine π τ config).Reaches Orderly (init now) s := by
  have hinv : (Settling s ∧ Exclusive s ∧
      ∀ k, s.subscriptions.status k = some .active → s.HandshakeOver k) ∧
      (machine π τ config).Reaches Orderly (init now) s := by
    refine hreach.invariant (I := fun u => (Settling u ∧ Exclusive u ∧
      ∀ k, u.subscriptions.status k = some .active → u.HandshakeOver k) ∧
      (machine π τ config).Reaches Orderly (init now) u)
      ⟨⟨settling_init now, fun k p q hp => absurd rfl hp, fun k hk => nomatch hk⟩, .refl _⟩ ?_
    rintro u b u' ⟨⟨hsettling, hexclusive, hactive⟩, hr⟩ hconfirmed hst
    have horderly : Orderly u b := by
      unfold Orderly
      split
      · intro x hx h hh
        refine ⟨hconfirmed x hx, fun sub hsub => ?_⟩
        obtain ⟨hrow, hstatus, -⟩ := (mem_findAll_listening Nat.repr_ne_empty).1 hsub
        exact hactive sub.id (SubscriptionRepo.status_eq_some.2 ⟨sub, hrow, hstatus⟩)
      · exact fun hactivating => (hconfirmed hactivating).2
      · trivial
    refine ⟨⟨settling_next hsettling horderly hst, exclusive_next hsettling.timed hexclusive hst,
      fun k hk => ?_⟩, hr.tail horderly hst⟩
    obtain ⟨sub, before, hrow, hstatus, hcase⟩ := status_before hst hk (by decide)
    cases hcase with
    | same =>
      exact handshakeOver_next hsettling.timed hrow
        (hactive k (SubscriptionRepo.status_eq_some.2 ⟨sub, hrow, hstatus⟩)) hst
    | activated p i outcome pc hpc hactivates hwritten =>
      have hactivating : u.activating p k i = true := by
        rw [State.activating, hpc]
        exact hactivates
      cases outcome with
      | resolved =>
        exact handshakeOver_of_activated hsettling.timed hexclusive hpc hactivates hst
      | rejected => cases hwritten
      | unconfirmed => exact absurd rfl (hconfirmed hactivating).1
    | retried _ _ _ _ _ _ hne => exact absurd rfl hne
  exact hinv.2

/-! ### Runs -/

section

variable [Fintype π] [Fintype τ]

instance decidableInTime (s : State π τ) (k : ℕ) : Decidable (s.InTime k) :=
  inferInstanceAs (Decidable (∀ T, ∀ x ∈ s.transactions T, x.subscriptionId = some k → _))

instance decidableOrderly (s : State π τ) : DecidablePred (Orderly s)
  | .handler T i (.findAll true) => inferInstanceAs (Decidable (∀ x ∈ s.transactions T, ∀ h ∈
      x.handlers[i]?, (∀ k ∈ x.subscriptionId, ∀ sub ∈ s.subscriptions.rows k,
        sub.status = .active → sub.isExpired s.now = false) ∧
      ∀ sub ∈ h.affectedSubscriptions (s.stores x.process),
        ∀ p, (s.processes p).tasks.outstanding sub.id = 0))
  | .handshake p (.resume k i (.update outcome)) => inferInstanceAs (Decidable
      (s.activating p k i = true → outcome.written = true → s.InTime k))
  | .handler _ _ (.event _) | .handler _ _ .proceed | .handler _ _ (.findAll false)
  | .handler _ _ (.update _ _) | .handshake _ (.fire _) | .handshake _ (.resume _ _ (.read _))
  | .handshake _ (.resume _ _ (.secret _)) | .handshake _ (.resume _ _ (.response _))
  | .tick | .submitAndSubscribe _ _ _ | .createSubscription _ _ | .updateSubscription _ _
  | .statusChange _ _ | .restart _ => .isTrue trivial

end

/-- The status handler of a transaction that has succeeded finds its subscription Active, notifies
it and marks it as Done. -/
def settling : List (Act Unit Unit) :=
  [.statusChange () succeeded, .handler () 0 (.event (.call true)),
    .handler () 0 (.event (.call true)), .handler () 0 (.event (.create 0 true)),
    .handler () 0 (.event (.call true)), .handler () 0 .proceed, .handler () 0 (.findAll true),
    .handler () 0 (.update 0 .resolved)]

/-- A transaction that succeeds after the handshake leaves its subscription Done for good. -/
theorem settled_succeeded : ∃ s s' : State Unit Unit,
    s.subscriptions.status 1 = some .done ∧ s'.now = 1 ∧ Settled s s' := by
  obtain ⟨s, hreach, hs⟩ := Machine.exists_reaches_of_run (M := machine Unit Unit oneMinute)
    (C := Orderly) (init 0) (submission () () ++ activation () 1 ++ settling)
    (fun s => s.subscriptions.status 1 = some .done &&
      ((machine Unit Unit oneMinute).run s [.restart (), .tick]).any (·.now = 1))
    (by decide) (by decide)
  simp only [Bool.and_eq_true, decide_eq_true_eq] at hs
  obtain ⟨s', hrun, hnow⟩ := (Option.any_eq_true ..).1 hs.2
  exact ⟨s, s', hs.1, of_decide_eq_true hnow, settled_of_orderly hreach
    ⟨_, hrun, trivial, fun _ _ => ⟨trivial, fun _ _ => trivial⟩⟩⟩

/-- A handshake that is echoed after the handler of a terminal status has completed makes the
subscription Active.  One whose update to Active is reported as failed is tried again, and makes
it Active though it is Done. -/
theorem reactivated :
    (∃ s s' : State Unit Unit,
      (machine Unit Unit oneMinute).Reaches Machine.Unrestricted (init 0) s ∧
      (machine Unit Unit oneMinute).Reaches Machine.Unrestricted s s' ∧
      s.Ended () 1 ∧ s'.subscriptions.status 1 = some .active) ∧
    ∃ s s' : State Unit Unit,
      (machine Unit Unit oneMinute).Reaches Machine.Unrestricted (init 0) s ∧
      (machine Unit Unit oneMinute).Reaches Machine.Unrestricted s s' ∧
      s.subscriptions.status 1 = some .done ∧ s'.subscriptions.status 1 = some .active := by
  have hrun : ∀ (before after : List (Act Unit Unit)) (p : State Unit Unit → Bool),
      (((machine Unit Unit oneMinute).run (init 0) before).any fun s => p s &&
        ((machine Unit Unit oneMinute).run s after).any
          (·.subscriptions.status 1 = some .active)) = true →
      ∃ s s', (machine Unit Unit oneMinute).Reaches Machine.Unrestricted (init 0) s ∧
        (machine Unit Unit oneMinute).Reaches Machine.Unrestricted s s' ∧ p s = true ∧
        s'.subscriptions.status 1 = some .active := by
    intro before after p hp
    obtain ⟨s, hs, hp⟩ := (Option.any_eq_true ..).1 hp
    obtain ⟨hps, hafter⟩ := Bool.and_eq_true_iff.1 hp
    obtain ⟨s', hs', hactive⟩ := (Option.any_eq_true ..).1 hafter
    exact ⟨s, s', ⟨before, hs, Machine.meets_unrestricted ..⟩,
      ⟨after, hs', Machine.meets_unrestricted ..⟩, hps, of_decide_eq_true hactive⟩
  constructor
  · -- the response to the handshake comes when the transaction is over
    obtain ⟨s, s', hs, hs', hended, hactive⟩ := hrun
      (submission () () ++ (activation () 1).take 3 ++
        [.statusChange () succeeded, .handler () 0 (.event (.call true)),
          .handler () 0 (.event (.call true)), .handler () 0 .proceed,
          .handler () 0 (.findAll true)])
      ((activation () 1).drop 3)
      (fun s => (s.transactions ()).any fun x => x.subscriptionId = some 1 &&
        x.handlers.any StatusHandler.completed) (by decide)
    obtain ⟨x, hx, hended⟩ := (Option.any_eq_true ..).1 hended
    obtain ⟨hk, hany⟩ := Bool.and_eq_true_iff.1 hended
    obtain ⟨h, hh, hcompleted⟩ := List.any_eq_true.1 hany
    exact ⟨s, s', hs, hs', ⟨x, hx, of_decide_eq_true hk, h, hh, hcompleted⟩, hactive⟩
  · -- the row is written, and reading it back fails
    obtain ⟨s, s', hs, hs', hdone, hactive⟩ := hrun
      (submission () () ++ (activation () 1).take 4 ++
        [.handshake () (.resume 1 0 (.update .unconfirmed))] ++ settling)
      (.handshake () (.resume 1 0 (.update .resolved)) ::
        .handshake () (.fire 1) :: (activation () 1).drop 1)
      (fun s => s.subscriptions.status 1 = some .done) (by decide)
    exact ⟨s, s', hs, hs', of_decide_eq_true hdone, hactive⟩

end Transactions

end PolymeshRest
