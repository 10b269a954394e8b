import PolymeshRest.Events.Nonces

/-!
# What a failed event leaves behind

`createEvent` increases the nonces of all affected subscriptions in one call, then creates their
notifications one by one, and undoes nothing when one of these calls fails.  This module is about
one call of it, with any of its repository calls failing.

* `Events.Progress` : what the call has done, for each phase it can be in.
* `Events.atomic_of_settled` : once the call has settled, a subscription that was notified had
  its nonce increased by one; the converse holds of all of them exactly if no `create` failed;
  the event is processed exactly if all were notified.
* `Events.nonce_gap` : a nonce that no notification ever carries.
-/

namespace PolymeshRest

namespace Events

variable {config : NotificationsConfig} {s₀ s s' : State Unit} {c c' : CreateEvent}

/-- A notification for `new` was created since `s₀`. -/
def Notified (s₀ s : State Unit) (new : NewNotification) : Prop :=
  ∃ m, Created s₀ s m ∧ m.toNew = new

/-- The subscriptions and notifications are those of `s₀`. -/
def Untouched (s₀ s : State Unit) : Prop :=
  s.subscriptions = s₀.subscriptions ∧ s.notifications = s₀.notifications

/-- The nonces of the subscriptions of `news`, and no others, were increased by one. -/
def Bumped (s₀ s : State Unit) (news : List NewNotification) : Prop :=
  ∀ k, s.subscriptions.nextNonce k =
    if k ∈ news.map NewNotification.subscriptionId then s₀.subscriptions.nextNonce k + 1
    else s₀.subscriptions.nextNonce k

/-- `news` are notifications of one event, for different subscriptions that are stored. -/
structure Drafts (s₀ : State Unit) (event : EventEntity) (news : List NewNotification) : Prop where
  nodup : (news.map NewNotification.subscriptionId).Nodup
  eventId : ∀ new ∈ news, new.eventId = event.id
  stored : ∀ new ∈ news, ∃ sub, s₀.subscriptions.rows new.subscriptionId = some sub

/-- What a call has done when it is in one of its phases. -/
inductive Progress (s₀ s : State Unit) : CreateEvent → Prop where
  | findAll (event : EventEntity) (untouched : Untouched s₀ s) :
    Progress s₀ s ⟨event, none, .findAll⟩
  | findAllRejected (event : EventEntity) :
    Progress s₀ s ⟨event, none, .rejected .findAll []⟩
  | looked (event : EventEntity) (news : List NewNotification) (ne : news ≠ [])
    (drafts : Drafts s₀ event news) (untouched : Untouched s₀ s) :
    Progress s₀ s ⟨event, some news, .batchBumpNonce⟩
  | bumpRejected (event : EventEntity) (news : List NewNotification) (ne : news ≠ [])
    (drafts : Drafts s₀ event news) (untouched : Untouched s₀ s) :
    Progress s₀ s ⟨event, some news, .rejected .incrementNonces []⟩
  | creating (event : EventEntity) (news pending : List NewNotification)
    (drafts : Drafts s₀ event news) (bumped : Bumped s₀ s news) (subset : pending ⊆ news)
    (nodup : (pending.map NewNotification.subscriptionId).Nodup)
    (notified : ∀ new, Notified s₀ s new ↔ new ∈ news ∧ new ∉ pending) :
    Progress s₀ s ⟨event, some news, .createNotifications pending⟩
  | created (event : EventEntity) (news : List NewNotification) (drafts : Drafts s₀ event news)
    (bumped : Bumped s₀ s news) (notified : ∀ new, Notified s₀ s new ↔ new ∈ news) :
    Progress s₀ s ⟨event, some news, .markEventAsProcessed⟩
  | resolved (event : EventEntity) (news : List NewNotification) (drafts : Drafts s₀ event news)
    (bumped : Bumped s₀ s news) (notified : ∀ new, Notified s₀ s new ↔ new ∈ news) :
    Progress s₀ s ⟨event, some news, .resolved⟩
  | createRejected (event : EventEntity) (news pending : List NewNotification)
    (drafts : Drafts s₀ event news) (bumped : Bumped s₀ s news) (subset : pending ⊆ news)
    (nodup : (pending.map NewNotification.subscriptionId).Nodup)
    -- the notification whose `create` was rejected first
    (lost : NewNotification) (lost_mem : lost ∈ news) (lost_not : lost ∉ pending)
    (notified : ∀ new, Notified s₀ s new → new ∈ news ∧ new ∉ pending ∧ new ≠ lost) :
    Progress s₀ s ⟨event, some news, .rejected .create pending⟩

/-- The invariant of one call. -/
structure CallInv (s₀ s : State Unit) : Prop where
  progress : ∀ c, s.calls () = some c → Progress s₀ s c
  untouched : s.calls () = none → Untouched s₀ s
  last_le : s₀.notifications.currentId ≤ s.notifications.currentId
  /-- The event is stored, and processed once the call has resolved. -/
  event : ∀ c, s.calls () = some c → ∃ event, s.events.rows c.event.id = some event ∧
    (event.processed = true ↔ c.phase = .resolved)

theorem not_notified_of_untouched (h : Untouched s₀ s) (new : NewNotification) :
    ¬ Notified s₀ s new := by
  rintro ⟨m, ⟨hrow, hlast⟩, -⟩
  rw [h.2, Table.rows_eq_none hlast] at hrow
  cases hrow

theorem notified_create (hlast : s₀.notifications.currentId ≤ s.notifications.currentId)
    {calls : Unit → Option CreateEvent} (new other : NewNotification) :
    Notified s₀ { s with notifications := s.notifications.create config s.now new, calls } other ↔
      Notified s₀ s other ∨ other = new := by
  constructor
  · rintro ⟨m, ⟨hrow, hlt⟩, rfl⟩
    simp only [NotificationRepo.create_rows] at hrow
    split_ifs at hrow with hid
    · exact .inr (congrArg NotificationModel.toNew (Option.some.inj hrow).symm)
    · exact .inl ⟨m, ⟨hrow, hlt⟩, rfl⟩
  · rintro (⟨m, ⟨hrow, hlt⟩, rfl⟩ | rfl)
    · exact ⟨m, ⟨Table.insert_rows_of_some (config.model_id s.now new) hrow, hlt⟩, rfl⟩
    · refine ⟨config.model s.now other (s.notifications.currentId + 1), ⟨?_, ?_⟩, rfl⟩
      · simp [NotificationRepo.create_rows]
      · exact Nat.lt_succ_of_le hlast

theorem drafts_of_affected {w : Stores} (h : w.subscriptions = s₀.subscriptions)
    (event : EventEntity) :
    Drafts s₀ event (event.notificationsFor (w.affectedSubscriptions event)) where
  nodup := w.nodup_notificationsFor event
  eventId new hnew := by
    obtain ⟨sub, -, rfl⟩ := List.mem_map.1 hnew
    rfl
  stored new hnew := by
    obtain ⟨sub, hsub, rfl⟩ := List.mem_map.1 hnew
    exact ⟨sub, h ▸ Stores.row_of_mem_affected hsub⟩

/-- **One step of the call**, whether its repository call fails or not. -/
theorem progress_step {w : Stores} {reply : CreateEvent.Reply} (h : Progress s₀ s c)
    (hlast : s₀.notifications.currentId ≤ s.notifications.currentId)
    (hcase : CreateEvent.StepCase config s.toStores c reply w c')
    (calls : Unit → Option CreateEvent) : Progress s₀ { toStores := w, calls } c' := by
  cases h with
  | findAll event huntouched =>
    cases hcase with
    | affected hphase hne =>
      -- the call goes on with what it has read of the subscriptions
      refine .looked event _ ?_ (drafts_of_affected huntouched.1 event) huntouched
      simpa [EventEntity.notificationsFor] using hne
    | unaffected hphase hnil =>
      refine .created event [] ⟨by simp, by simp, by simp⟩ (fun k => ?_) fun new => ?_
      · simp [huntouched.1]
      · have hnot : ¬ Notified s₀ s new := not_notified_of_untouched huntouched new
        show Notified s₀ s new ↔ new ∈ []
        simpa using hnot
    | findAllRejected hphase => exact .findAllRejected event
    | _ => contradiction
  | findAllRejected event =>
    cases hcase with
    | lateCreate j new call pending hphase hnew | lateRejected j new call pending hphase hnew =>
      cases hphase
      simp at hnew
    | _ => contradiction
  | looked event news hne hdrafts huntouched =>
    cases hcase with
    | bump hphase =>
      refine .creating event news news hdrafts (fun k => ?_) (List.Subset.refl _) hdrafts.nodup
        fun new => ?_
      · -- all affected subscriptions are stored, so each nonce moves on by one
        have hk : k ∈ news.map NewNotification.subscriptionId →
            ∃ sub, s.subscriptions.rows k = some sub := by
          intro hmem
          obtain ⟨new, hnew, rfl⟩ := List.mem_map.1 hmem
          rw [huntouched.1]
          exact hdrafts.stored new hnew
        rw [← huntouched.1]
        exact SubscriptionRepo.nextNonce_incrementNonces hk
      · have hnot : ¬ Notified s₀ s new := not_notified_of_untouched huntouched new
        constructor
        · exact fun hnotified => absurd hnotified hnot
        · rintro ⟨hmem, hnotMem⟩
          exact absurd hmem hnotMem
    | bumpRejected hphase => exact .bumpRejected event news hne hdrafts huntouched
    | _ => contradiction
  | bumpRejected event news hne hdrafts huntouched =>
    cases hcase with
    | lateCreate j new call pending hphase hnew | lateRejected j new call pending hphase hnew =>
      cases hphase
      simp at hnew
    | _ => contradiction
  | creating event news pending hdrafts hbumped hsubset hnodup hnotified =>
    cases hcase with
    | create j new pending' hphase hnew =>
      cases hphase
      -- drafts are for different subscriptions: only this one stops being pending
      have hmem := mem_eraseIdx_iff hnodup hnew
      have hnewMem := hsubset (List.mem_of_getElem? hnew)
      have hsubset' := fun x hx => hsubset ((hmem x).1 hx).1
      have hnodup' := hnodup.sublist ((List.eraseIdx_sublist pending j).map _)
      have hnotified' : ∀ other, Notified s₀
          { s with notifications := s.notifications.create config s.now new, calls } other ↔
            other ∈ news ∧ other ∉ pending.eraseIdx j := by
        intro other
        rw [notified_create hlast, hnotified, hmem]
        constructor
        · rintro (⟨hother, hnot⟩ | rfl)
          · exact ⟨hother, fun h => hnot h.1⟩
          · exact ⟨hnewMem, fun h => h.2 rfl⟩
        · rintro ⟨hother, hnot⟩
          by_cases hpend : other ∈ pending
          · have hsub : other.subscriptionId = new.subscriptionId :=
              not_not.1 fun hne => hnot ⟨hpend, hne⟩
            exact .inr (List.inj_on_of_nodup_map hdrafts.nodup hother hnewMem hsub)
          · exact .inl ⟨hother, hpend⟩
      cases hrest : pending.eraseIdx j with
      | nil => exact .created event news hdrafts hbumped fun other => by simp [hnotified', hrest]
      | cons first rest =>
        rw [hrest] at hsubset' hnodup'
        exact .creating event news (first :: rest) hdrafts hbumped hsubset' hnodup'
          fun other => by rw [hnotified', hrest]
    | createRejected j new pending' hphase hnew =>
      cases hphase
      have hmem := mem_eraseIdx_iff hnodup hnew
      have hnewPending := List.mem_of_getElem? hnew
      -- the rejected draft is lost: no longer pending, and not notified
      refine .createRejected event news _ hdrafts hbumped (fun x hx => hsubset ((hmem x).1 hx).1)
        (hnodup.sublist ((List.eraseIdx_sublist pending j).map _)) new (hsubset hnewPending)
        (fun h => ((hmem new).1 h).2 rfl) fun other hother => ?_
      obtain ⟨hin, hnot⟩ := (hnotified other).1 hother
      exact ⟨hin, fun h => hnot ((hmem other).1 h).1, fun heq => hnot (heq ▸ hnewPending)⟩
    | _ => contradiction
  | created event news hdrafts hbumped hnotified =>
    cases hcase with
    | processed hphase => exact .resolved event news hdrafts hbumped hnotified
    | _ => contradiction
  | resolved event news hdrafts hbumped hnotified =>
    cases hcase <;> contradiction
  | createRejected event news pending hdrafts hbumped hsubset hnodup lost hlost hlostNot
      hnotified =>
    cases hcase with
    | lateCreate j new call pending' hphase hnew =>
      cases hphase
      have hmem := mem_eraseIdx_iff hnodup hnew
      have hnewPending := List.mem_of_getElem? hnew
      refine .createRejected event news _ hdrafts hbumped (fun x hx => hsubset ((hmem x).1 hx).1)
        (hnodup.sublist ((List.eraseIdx_sublist pending j).map _)) lost hlost
        (fun h => hlostNot ((hmem lost).1 h).1) fun other hother => ?_
      -- a `create` that was under way still takes effect, but never for the lost draft
      obtain hold | rfl := (notified_create hlast new other).1 hother
      · obtain ⟨hin, hnot, hne⟩ := hnotified other hold
        exact ⟨hin, fun h => hnot ((hmem other).1 h).1, hne⟩
      · exact ⟨hsubset hnewPending, fun h => ((hmem other).1 h).2 rfl,
          fun heq => hlostNot (heq ▸ hnewPending)⟩
    | lateRejected j new call pending' hphase hnew =>
      cases hphase
      have hmem := mem_eraseIdx_iff hnodup hnew
      refine .createRejected event news _ hdrafts hbumped (fun x hx => hsubset ((hmem x).1 hx).1)
        (hnodup.sublist ((List.eraseIdx_sublist pending j).map _)) lost hlost
        (fun h => hlostNot ((hmem lost).1 h).1) fun other hother => ?_
      obtain ⟨hin, hnot, hne⟩ := hnotified other hother
      exact ⟨hin, fun h => hnot ((hmem other).1 h).1, hne⟩
    | _ => contradiction

/-- The event of a call is stored, and marked as processed when the call resolves. -/
theorem event_step {w : Stores} {reply : CreateEvent.Reply} {event : EventEntity}
    (hrow : s.events.rows c.event.id = some event)
    (hprocessed : event.processed = true ↔ c.phase = .resolved)
    (hcase : CreateEvent.StepCase config s.toStores c reply w c') :
    ∃ event', w.events.rows c'.event.id = some event' ∧
      (event'.processed = true ↔ c'.phase = .resolved) := by
  cases hcase with
  | processed hphase =>
    refine ⟨{ event with processed := true }, ?_, by simp⟩
    simp [EventsRepo.markEventAsProcessed_rows, hrow]
  | create j new pending hphase hnew =>
    refine ⟨event, hrow, ?_⟩
    cases hrest : pending.eraseIdx j <;> simp_all [CreateEvent.Phase.afterCreate]
  | _ =>
    refine ⟨event, hrow, ?_⟩
    simp_all

theorem Progress.congr (h : Progress s₀ s c) (hsubs : s'.subscriptions = s.subscriptions)
    (hnotes : s'.notifications = s.notifications) : Progress s₀ s' c := by
  obtain ⟨⟨now, subscriptions, notifications, events⟩, calls⟩ := s'
  cases hsubs
  cases hnotes
  cases h with
  | findAll event hu => exact .findAll event hu
  | findAllRejected event => exact .findAllRejected event
  | looked event news hne hd hu => exact .looked event news hne hd hu
  | bumpRejected event news hne hd hu => exact .bumpRejected event news hne hd hu
  | creating event news pending hd hb hs hn h => exact .creating event news pending hd hb hs hn h
  | created event news hd hb h => exact .created event news hd hb h
  | resolved event news hd hb h => exact .resolved event news hd hb h
  | createRejected event news pending hd hb hs hn lost hl hl' h =>
    exact .createRejected event news pending hd hb hs hn lost hl hl' h

theorem callInv_next (h : CallInv s₀ s) {a : Act Unit} (hst : next config s a = some s') :
    CallInv s₀ s' := by
  cases next_cases hst with
  | tick =>
    exact ⟨fun c hc => (h.progress c hc).congr rfl rfl, h.untouched, h.last_le, h.event⟩
  | createEvent i data hfree =>
    refine ⟨fun c hc => ?_, fun hnone => ?_, h.last_le, fun c hc => ?_⟩
    · simp only [Function.update_self, Option.some.injEq] at hc
      subst hc
      exact .findAll _ (h.untouched hfree)
    · simp at hnone
    · simp only [Function.update_self, Option.some.injEq] at hc
      subst hc
      refine ⟨EventsRepo.entity data s.now (s.events.currentId + 1), ?_,
        by simp [Stores.createEvent]⟩
      simp [Stores.createEvent, EventsRepo.create_rows]
  | resume i reply c c' w hc hcase =>
    have hstep := progress_step (h.progress c hc) h.last_le hcase
      (Function.update s.calls i (some c'))
    obtain ⟨event, hrow, hprocessed⟩ := h.event c hc
    refine ⟨fun d hd => ?_, fun hnone => ?_, h.last_le.trans ?_, fun d hd => ?_⟩
    · simp only [Function.update_self, Option.some.injEq] at hd
      subst hd
      exact hstep
    · simp at hnone
    · cases hcase <;> first | exact le_refl _ | exact Nat.le_succ _
    · simp only [Function.update_self, Option.some.injEq] at hd
      subst hd
      exact event_step hrow hprocessed hcase

theorem callInv_of_quiet (h : Quiet s) : CallInv s s where
  progress c hc := by simp [h ()] at hc
  untouched _ := ⟨rfl, rfl⟩
  last_le := le_refl _
  event c hc := by simp [h ()] at hc

/-! ### Which calls failed -/

/-- A `create` of the call was rejected. -/
def CreateRejected (s : State Unit) : Prop :=
  ∃ c pending, s.calls () = some c ∧ c.phase = .rejected .create pending

theorem createRejected_next (h : CallInv s₀ s) {a : Act Unit} (hst : next config s a = some s') :
    CreateRejected s' ↔ CreateRejected s ∨ ∃ j, a = .resume () (.create j false) := by
  cases next_cases hst with
  | tick => simp [CreateRejected]
  | createEvent i data hfree =>
    simp [CreateRejected, Stores.createEvent, show s.calls () = none from hfree]
  | resume i reply c c' w hc hcase =>
    have hcalls : s.calls () = some c := hc
    have hprogress := h.progress c hc
    cases hcase with
    | createRejected j new pending hphase hnew =>
      simp [CreateRejected]
    | lateRejected j new call pending hphase hnew =>
      -- only a `create` leaves calls that go on
      cases hprogress <;> simp_all [CreateRejected]
    | create j new pending hphase hnew =>
      cases hrest : pending.eraseIdx j <;>
        simp [CreateRejected, hcalls, hphase, CreateEvent.Phase.afterCreate]
    | _ => simp_all [CreateRejected]

/-- A `create` of the call was rejected exactly if one was in the run. -/
theorem createRejected_run {as : List (Act Unit)} (h : CallInv s₀ s)
    (hrun : (machine Unit config).run s as = some s') :
    CreateRejected s' ↔ CreateRejected s ∨ ∃ j, .resume () (.create j false) ∈ as := by
  induction as generalizing s with
  | nil =>
    cases hrun
    simp
  | cons a as ih =>
    obtain ⟨t, hst, hrest⟩ := Machine.run_cons.1 hrun
    rw [ih (callInv_next h hst) hrest, createRejected_next h hst]
    simp only [List.mem_cons, or_assoc, exists_or]
    simp only [eq_comm]

/-! ### The call has settled -/

/-- The next nonce of a subscription is one more than in `s₀`. -/
def Advanced (s₀ s : State Unit) (k : ℕ) : Prop :=
  s.subscriptions.nextNonce k = s₀.subscriptions.nextNonce k + 1

/-- A notification of an event was created for a subscription. -/
def GotNotification (s₀ s : State Unit) (eventId k : ℕ) : Prop :=
  ∃ m, Created s₀ s m ∧ m.eventId = eventId ∧ m.subscriptionId = k

/-- The stores after the run `as`, with the call `c` settled, for the subscriptions it looked
up. -/
structure Atomic (s₀ s : State Unit) (as : List (Act Unit)) (c : CreateEvent)
    (affected : List ℕ) : Prop where
  advanced : ∀ k ∈ affected, GotNotification s₀ s c.event.id k → Advanced s₀ s k
  at_most_one : ∀ k, Advanced s₀ s k ∨ s.subscriptions.nextNonce k = s₀.subscriptions.nextNonce k
  /-- The nonces that advanced are the ones given out, exactly if no `create` failed. -/
  advanced_iff : (∀ k ∈ affected, Advanced s₀ s k ↔ GotNotification s₀ s c.event.id k) ↔
    ∀ j, .resume () (.create j false) ∉ as
  processed_iff : (s.events.rows c.event.id).any (·.processed) = true ↔
    ∀ k ∈ affected, GotNotification s₀ s c.event.id k

theorem gotNotification_iff {event : EventEntity} {news : List NewNotification}
    (hdrafts : Drafts s₀ event news) (hnotified : ∀ new, Notified s₀ s new → new ∈ news)
    {new : NewNotification} (hnew : new ∈ news) :
    GotNotification s₀ s event.id new.subscriptionId ↔ Notified s₀ s new := by
  constructor
  · rintro ⟨m, hm, -, hsub⟩
    have hmem := hnotified m.toNew ⟨m, hm, rfl⟩
    exact ⟨m, hm, List.inj_on_of_nodup_map hdrafts.nodup hmem hnew hsub⟩
  · rintro ⟨m, hm, rfl⟩
    exact ⟨m, hm, hdrafts.eventId _ hnew, rfl⟩

theorem advanced_of_bumped {news : List NewNotification} (h : Bumped s₀ s news)
    {new : NewNotification} (hnew : new ∈ news) : Advanced s₀ s new.subscriptionId := by
  rw [Advanced, h, if_pos (List.mem_map_of_mem hnew)]

theorem at_most_one_of_bumped {news : List NewNotification} (h : Bumped s₀ s news) (k : ℕ) :
    Advanced s₀ s k ∨ s.subscriptions.nextNonce k = s₀.subscriptions.nextNonce k := by
  rw [Advanced, h]
  split
  · exact .inl rfl
  · exact .inr rfl

/-- **What a settled call leaves behind**, whichever of its `incrementNonces` and `create` calls
failed: once it has looked up the affected subscriptions, and has resolved or rejected. -/
theorem atomic_of_settled {as : List (Act Unit)} (hquiet : Quiet s₀)
    (hrun : (machine Unit config).run s₀ as = some s) (hc : s.calls () = some c)
    (hsettled : c.settled = true) {news : List NewNotification}
    (hnews : c.notifications = some news) :
    Atomic s₀ s as c (news.map NewNotification.subscriptionId) := by
  have hreach : (machine Unit config).Reaches Machine.Unrestricted s₀ s :=
    ⟨as, hrun, Machine.meets_unrestricted ..⟩
  have hinv : CallInv s₀ s := hreach.invariant (callInv_of_quiet hquiet)
    fun _ _ _ h _ hst => callInv_next h hst
  have hfailed : CreateRejected s ↔ ∃ j, .resume () (.create j false) ∈ as := by
    rw [createRejected_run (callInv_of_quiet hquiet) hrun]
    simp [CreateRejected, hquiet ()]
  have hnone : (∀ j, .resume () (.create j false) ∉ as) ↔ ¬ CreateRejected s := by
    rw [hfailed, not_exists]
  obtain ⟨event, hrow, hprocessed⟩ := hinv.event c hc
  have hany : (s.events.rows c.event.id).any (·.processed) = true ↔ c.phase = .resolved := by
    simp [hrow, hprocessed]
  cases hinv.progress c hc with
  | findAll | looked | creating | created => cases hsettled
  | findAllRejected event => cases hnews
  | resolved event' news' hdrafts hbumped hnotified =>
    cases hnews
    -- every draft has become a notification
    have hgot : ∀ k ∈ news.map NewNotification.subscriptionId,
        Advanced s₀ s k ∧ GotNotification s₀ s event'.id k := by
      intro k hk
      obtain ⟨new, hnew, rfl⟩ := List.mem_map.1 hk
      exact ⟨advanced_of_bumped hbumped hnew,
        (gotNotification_iff hdrafts (fun x => (hnotified x).1) hnew).2 ((hnotified new).2 hnew)⟩
    have hnot : ¬ CreateRejected s := by simp [CreateRejected, hc]
    refine ⟨fun k hk _ => (hgot k hk).1, at_most_one_of_bumped hbumped, ?_, ?_⟩
    · rw [hnone]
      exact ⟨fun _ => hnot, fun _ k hk => ⟨fun _ => (hgot k hk).2, fun _ => (hgot k hk).1⟩⟩
    · rw [hany]
      exact ⟨fun _ k hk => (hgot k hk).2, fun _ => rfl⟩
  | bumpRejected event' news' hne hdrafts huntouched =>
    cases hnews
    -- nothing has been written at all
    have hgot : ∀ k, ¬ GotNotification s₀ s event'.id k := by
      rintro k ⟨m, hm, -⟩
      exact not_notified_of_untouched huntouched m.toNew ⟨m, hm, rfl⟩
    have hadv : ∀ k, ¬ Advanced s₀ s k := by
      intro k hk
      rw [Advanced, huntouched.1] at hk
      omega
    have hnot : ¬ CreateRejected s := by simp [CreateRejected, hc]
    refine ⟨fun k _ h => absurd h (hgot k), fun k => .inr (by rw [huntouched.1]), ?_, ?_⟩
    · rw [hnone]
      exact ⟨fun _ => hnot, fun _ k _ => iff_of_false (hadv k) (hgot k)⟩
    · obtain ⟨new, hnew⟩ := List.exists_mem_of_ne_nil news hne
      rw [hany]
      constructor
      · intro h
        cases h
      · intro h
        exact absurd (h _ (List.mem_map_of_mem hnew)) (hgot _)
  | createRejected event' news' pending hdrafts hbumped hsubset hnodup lost hlost hlostNot
      hnotified =>
    cases hnews
    -- the subscription of the lost draft has a nonce without a notification
    have hgot : ¬ GotNotification s₀ s event'.id lost.subscriptionId := by
      rw [gotNotification_iff hdrafts (fun x hx => (hnotified x hx).1) hlost]
      exact fun h => (hnotified lost h).2.2 rfl
    have hyes : CreateRejected s := ⟨_, pending, hc, rfl⟩
    refine ⟨fun k hk _ => ?_, at_most_one_of_bumped hbumped, ?_, ?_⟩
    · obtain ⟨new, hnew, rfl⟩ := List.mem_map.1 hk
      exact advanced_of_bumped hbumped hnew
    · rw [hnone]
      constructor
      · intro h
        exact absurd ((h _ (List.mem_map_of_mem hlost)).1 (advanced_of_bumped hbumped hlost)) hgot
      · exact fun h => absurd hyes h
    · rw [hany]
      constructor
      · intro h
        cases h
      · intro h
        exact absurd (h _ (List.mem_map_of_mem hlost)) hgot

/-- Three subscriptions that an event concerns, and no call. -/
def threeSubscribers : State Unit where
  now := 0
  subscriptions :=
    let create := fun repo : SubscriptionRepo => repo.create
      ⟨.transactionUpdate, "1", "https://hook", 0, 60, .active, 10, 1, ""⟩
    create (create (create .empty))
  notifications := .empty
  events := .empty
  calls _ := none

/-- Three calls of `create`, the second of which fails while the others are under way. -/
theorem atomic_of_settled_rejected :
    ∃ s c, s.calls () = some c ∧ s.subscriptions.nextNonce 3 = 2 ∧ Atomic threeSubscribers s
      [.createEvent () statusUpdate, .resume () (.call true), .resume () (.call true),
        .resume () (.create 0 true), .resume () (.create 0 false), .resume () (.create 0 true)] c
      [1, 2, 3] := by
  have hrun : (machine Unit ⟨10, .postgres⟩).run threeSubscribers
      [.createEvent () statusUpdate, .resume () (.call true), .resume () (.call true),
        .resume () (.create 0 true), .resume () (.create 0 false),
        .resume () (.create 0 true)] = some _ := rfl
  have hatomic := atomic_of_settled (fun _ => rfl) hrun rfl rfl rfl
  exact ⟨_, _, rfl, rfl, hatomic⟩

/-- The subscription of `oneSubscriber`, and no call. -/
def oneCall : State Unit := { toStores := oneSubscriber.toStores, calls := fun _ => none }

/-- The `create` of the only notification fails: the subscription's nonce has advanced, and no
notification carries the nonce it had. -/
theorem nonce_gap :
    ∃ s, (machine Unit ⟨10, .postgres⟩).Reaches Machine.Unrestricted oneCall s ∧
      (∃ c, s.calls () = some c ∧ c.settled = true) ∧ Advanced oneCall s 1 ∧
      ¬ ∃ eventId, GotNotification oneCall s eventId 1 := by
  obtain ⟨s, hreach, hs⟩ := Machine.exists_reaches_of_run (M := machine Unit ⟨10, .postgres⟩)
    (C := Machine.Unrestricted) oneCall
    [.createEvent () statusUpdate, .resume () (.call true), .resume () (.call true),
      .resume () (.create 0 false)]
    (fun s => (s.calls ()).any (·.settled) && s.subscriptions.nextNonce 1 == 2 &&
      s.notifications.currentId == 0) (by decide) (Machine.meets_unrestricted ..)
  simp only [Bool.and_eq_true, Option.any_eq_true, beq_iff_eq] at hs
  obtain ⟨⟨hsettled, hnonce⟩, hlast⟩ := hs
  refine ⟨s, hreach, hsettled, hnonce, ?_⟩
  rintro ⟨eventId, m, ⟨hrow, hlt⟩, -⟩
  have hle := s.notifications.le_currentId hrow
  have hzero : oneCall.notifications.currentId = 0 := rfl
  omega

end Events

end PolymeshRest
