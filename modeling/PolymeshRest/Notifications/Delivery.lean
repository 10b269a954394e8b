import PolymeshRest.Js.Text
import PolymeshRest.Notifications.Basic
import PolymeshRest.Retry.Store
import PolymeshRest.Subscriptions.Basic

/-!
# Delivery of notifications

`NotificationsService` sends a notification from a timer, and retries from another one.  An
attempt (`sendNotification`) is suspended at each call it awaits; one action of the machine lets
one attempt go on to its next call, so the attempts of all notifications interleave freely.

## Main definitions

* `SendNotification` : the calls an attempt can be awaiting.
* `Delivery.State.sendNotification` : what an attempt does when the call it awaits ends.
* `Delivery.machine`
* `Delivery.taskView` : a notification and an attempt, as a task of the bounded retry loop.

## Main results

* `Delivery.step_cases` : what a step can do.
* `Delivery.retries` : without repository failures, every step is a move of the retry loop for
  every notification.
* `Delivery.delivered_iff` : the delivery guarantees hold for a maximum of tries exactly when
  the repository stores the tries it is given.
* `Delivery.noneStranded_iff` : with repository failures, which runs strand a notification.
-/

namespace PolymeshRest

/-- The calls an attempt to send a notification can be awaiting. -/
inductive SendNotification where
  /-- `findOne` -/
  | findById
  /-- The `Promise.all` of the subscription and the event of `notification`. -/
  | lookup (notification : NotificationModel)
  /-- The update to Orphaned. -/
  | orphan (triesLeft : ℤ)
  /-- The response to the POST. -/
  | post (triesLeft : ℤ)
  /-- The update to Acknowledged. -/
  | acknowledge (triesLeft : ℤ)
  /-- The update in `retry(id, triesLeft)`. -/
  | retry (triesLeft : ℤ)
  deriving DecidableEq, Repr

namespace Delivery

/-- How the call an attempt awaits ends. -/
inductive Reply where
  /-- A read resolves with what the stores hold, or is rejected. -/
  | read (resolved : Bool)
  /-- The HTTP status of the response; `none` if there is no response. -/
  | response (status : Option ℕ)
  /-- An update. -/
  | update (outcome : Outcome)
  deriving DecidableEq, Repr

/-- The service's settings, and the HMAC of a payload under a secret. -/
structure Config extends NotificationsConfig where
  signPayload : NotificationPayload → String → String

/-- A POST to a webhook. -/
structure WebhookPost where
  url : String
  payload : NotificationPayload
  signature : String
  deriving DecidableEq, Repr

/-- The clock, the stores other services write to, and the notifications with their attempts. -/
structure State extends
    TaskStore NotificationModel NotificationModel.id SendNotification WebhookPost where
  now : ℕ
  subscriptions : SubscriptionRepo
  events : EventsRepo

/-- `getTimeoutId` -/
def getTimeoutId (id : ℕ) : String := "sendNotification_" ++ id.repr

theorem getTimeoutId_injective : Function.Injective getTimeoutId :=
  injective_append_repr "sendNotification_"

/-- What an attempt does between two awaited calls. -/
abbrev Effect := PolymeshRest.Effect NotificationModel.id SendNotification WebhookPost

/-- An update that ended with `outcome`. -/
def written (outcome : Outcome) (params : NotificationUpdate) :
    Option (Table.Rewrite NotificationModel.id) :=
  outcome.apply none (some params.rewrite)

/-- `sendNotification`, from the end of the call it awaits to the next call. -/
def State.sendNotification (s : State) (config : Config) (id : ℕ) :
    SendNotification → Reply → Option Effect
  | .findById, .read resolved => some <|
    -- outside the `try`: a rejected or empty read ends the attempt
    match resolved, s.repo.rows id with
    | true, some notification => { after := .suspend (.lookup notification) }
    | _, _ => { after := .finish }
  | .lookup notification, .read resolved => some <|
    match resolved, s.subscriptions.rows notification.subscriptionId,
      s.events.rows notification.eventId with
    | true, some subscription, some event =>
      if subscription.isExpired s.now then
        { after := .suspend (.orphan notification.triesLeft) }
      else
        let payload := assembleNotificationPayload notification.subscriptionId event.type
          event.scope event.payload notification.nonce
        { post := some ⟨subscription.webhookUrl, payload,
            config.signPayload payload subscription.legitimacySecret⟩
          after := .suspend (.post notification.triesLeft) }
    | _, _, _ => { after := .suspend (.retry (notification.triesLeft - 1)) }
  | .orphan triesLeft, .update outcome => some
    { write := written outcome { status := some .orphaned }
      after := if outcome.ok then .finish else .suspend (.retry (triesLeft - 1)) }
  | .post triesLeft, .response status => some
    { after := if status = some 200 then .suspend (.acknowledge triesLeft)
        else .suspend (.retry (triesLeft - 1)) }
  | .acknowledge triesLeft, .update outcome => some
    { write := written outcome { status := some .acknowledged }
      after := if outcome.ok then .finish else .suspend (.retry (triesLeft - 1)) }
  | .retry triesLeft, .update outcome => some <|
    -- inside the `catch`: a rejected update ends the attempt
    if triesLeft = 0 then
      { write := written outcome { triesLeft := some triesLeft, status := some .failed }
        failed := true
        after := .finish }
    else
      { write := written outcome { triesLeft := some triesLeft }
        failed := true
        after := if outcome.ok then .reschedule else .finish }
  | _, _ => none

inductive Act where
  /-- Time passes. -/
  | tick
  /-- Other services change the subscriptions and the events. -/
  | services (subscriptions : SubscriptionRepo) (events : EventsRepo)
  /-- The `create` of one element of `createNotifications` resolves, and its send is scheduled. -/
  | createNotification (new : NewNotification)
  /-- A timer fires. -/
  | fire (handle : ℕ)
  /-- The call the `i`-th attempt of notification `id` awaits ends. -/
  | resume (id i : ℕ) (reply : Reply)

/-- The notification stored and scheduled for one element of `createNotifications`. -/
def State.createNotification (s : State) (config : Config) (new : NewNotification) : State :=
  { s with
    toTaskStore := s.toTaskStore.create getTimeoutId (config.model s.now new)
      (config.model_id s.now new) }

/-- One step. -/
def next (config : Config) (s : State) : Act → Option State
  | .tick => some { s with now := s.now + 1 }
  | .services subscriptions events => some { s with subscriptions, events }
  | .createNotification new => some (s.createNotification config new)
  | .fire handle =>
    (s.toTaskStore.fire .findById handle).map fun t => { s with toTaskStore := t }
  | .resume id i reply =>
    (s.toTaskStore.resume getTimeoutId (s.sendNotification config id) id i reply).map fun t =>
      { s with toTaskStore := t }

def machine (config : Config) : Machine State Act := ⟨next config⟩

/-- A service that has just started, on an empty notification store. -/
def init (now : ℕ) (subscriptions : SubscriptionRepo) (events : EventsRepo) : State :=
  { TaskStore.empty with now, subscriptions, events }

/-! ### What a step can do -/

variable {config : Config} {s s' : State} {slots : ℕ → Slot SendNotification}

/-- The slots show what is under way for each notification. -/
abbrev Tracked (s : State) (slots : ℕ → Slot SendNotification) : Prop :=
  TaskStore.Tracked getTimeoutId s.toTaskStore slots

/-- What a step of each kind does to the notifications and to their slots. -/
inductive StepCase (config : Config) (s : State) (slots : ℕ → Slot SendNotification) :
    Act → State → (ℕ → Slot SendNotification) → Prop where
  | tick : StepCase config s slots .tick { s with now := s.now + 1 } slots
  | services (subscriptions : SubscriptionRepo) (events : EventsRepo) :
    StepCase config s slots (.services subscriptions events) { s with subscriptions, events } slots
  | createNotification (new : NewNotification) :
    StepCase config s slots (.createNotification new) (s.createNotification config new)
      (Function.update slots (s.repo.currentId + 1) .scheduled)
  | fire (handle id : ℕ) (tasks : Attempts SendNotification) (scheduled : slots id = .scheduled) :
    StepCase config s slots (.fire handle) { s with tasks }
      (Function.update slots id (.running .findById))
  | resume (id i : ℕ) (reply : Reply) (pc : SendNotification) (e : Effect)
    (notification : NotificationModel) (attempt : (s.tasks.running id)[i]? = some pc)
    (running : slots id = .running pc) (row : s.repo.rows id = some notification)
    (effect : s.sendNotification config id pc reply = some e) :
    StepCase config s slots (.resume id i reply)
      { s with toTaskStore := s.toTaskStore.commit getTimeoutId id i e }
      (Function.update slots id e.after.slot)

/-- **Every step is one of these**, and the slots it leads to show what is under way after it. -/
theorem step_cases (h : Tracked s slots) {a : Act} (hst : next config s a = some s') :
    ∃ slots', StepCase config s slots a s' slots' ∧ Tracked s' slots' := by
  cases a with
  | tick =>
    cases hst
    exact ⟨slots, .tick, h⟩
  | services subscriptions events =>
    cases hst
    exact ⟨slots, .services subscriptions events, h⟩
  | createNotification new =>
    cases hst
    exact ⟨_, .createNotification new, TaskStore.tracked_create getTimeoutId_injective h _ _⟩
  | fire handle =>
    obtain ⟨t, hfire, rfl⟩ := Option.map_eq_some_iff.1 hst
    obtain ⟨id, notification, tasks, hid, -, rfl, htracked⟩ :=
      TaskStore.tracked_fire getTimeoutId_injective h hfire
    exact ⟨_, .fire handle id tasks hid, htracked⟩
  | resume id i reply =>
    obtain ⟨t, hresume, rfl⟩ := Option.map_eq_some_iff.1 hst
    obtain ⟨pc, e, hpc, he, rfl⟩ := TaskStore.resume_eq_some.1 hresume
    obtain ⟨hslot, notification, hrow⟩ := h.attempt hpc
    exact ⟨_, .resume id i reply pc e notification hpc hslot hrow he,
      TaskStore.tracked_commit getTimeoutId_injective h hpc e⟩

/-! ### The retry loop of one notification -/

/-- The status of a notification, as that of a retried task. -/
def statusOf : NotificationStatus → Retry.Status
  | .active => .waiting
  | .acknowledged => .succeeded
  | .failed => .exhausted
  | .orphaned => .dropped

theorem statusOf_injective : Function.Injective statusOf := by
  intro a b h
  cases a <;> cases b <;> simp_all [statusOf]

theorem statusOf_eq_waiting {status : NotificationStatus} :
    statusOf status = .waiting ↔ status = .active :=
  statusOf_injective.eq_iff' rfl

theorem statusOf_eq_exhausted {status : NotificationStatus} :
    statusOf status = .exhausted ↔ status = .failed :=
  statusOf_injective.eq_iff' rfl

/-- An attempt, as the phase of a retried task. -/
def phaseOf : SendNotification → Retry.Phase
  | .findById => .started
  | .lookup notification => .running notification.triesLeft false
  | .orphan triesLeft => .running triesLeft false
  | .post triesLeft => .running triesLeft true
  | .acknowledge triesLeft => .running triesLeft true
  | .retry triesLeft => .running (triesLeft + 1) true

/-- A notification and an attempt, as a task of the retry loop. -/
def taskView : TaskView NotificationModel SendNotification where
  status notification := statusOf notification.status
  triesLeft := NotificationModel.triesLeft
  phase := phaseOf
  phase_ne_idle pc := by cases pc <;> simp [phaseOf]

/-- The call, if it is a repository's, did not fail. -/
def Reply.resolved : Reply → Bool
  | .read resolved => resolved
  | .response _ => true
  | .update outcome => outcome.ok

/-- No repository call fails. -/
def RepositoriesWork (_ : State) (a : Act) : Prop :=
  ∀ id i reply, a = .resume id i reply → reply.resolved = true

instance (s : State) : DecidablePred (RepositoriesWork s)
  | .resume _ _ reply => decidable_of_iff (reply.resolved = true)
      ⟨fun h _ _ _ he => by cases he; exact h, fun h => h _ _ _ rfl⟩
  | .tick | .services _ _ | .createNotification _ | .fire _ =>
    .isTrue fun _ _ _ he => nomatch he

/-- **What an attempt does between two calls is at most one move of the retry loop.** -/
theorem moves_sendNotification {i : ℕ} {pc : SendNotification} {reply : Reply} {e : Effect}
    {notification : NotificationModel}
    (hrow : s.repo.rows notification.id = some notification) (hreply : reply.resolved = true)
    (he : s.sendNotification config notification.id pc reply = some e) :
    Retry.Moves (TaskStore.view taskView s.toTaskStore (.running pc) notification)
      (TaskStore.view taskView (s.toTaskStore.commit getTimeoutId notification.id i e)
        e.after.slot (TaskStore.rewrite e notification)) := by
  unfold State.sendNotification at he
  split at he <;> cases he
  · -- the row is there, so the attempt reads its tries
    cases hreply
    simp only [hrow]
    refine .step .read ?_
    simp [TaskStore.view, TaskView.slotPhase, taskView, TaskStore.commit, TaskStore.rewrite,
      After.slot, phaseOf, Retry.next]
  · split
    · split
      · -- expired: the attempt will give the notification up, without a POST
        convert Retry.Moves.refl _ using 1
        simp [TaskStore.view, TaskView.slotPhase, taskView, TaskStore.commit, TaskStore.rewrite,
          After.slot, phaseOf]
      · refine .step .send ?_
        simp [TaskStore.view, TaskView.slotPhase, taskView, TaskStore.commit, TaskStore.rewrite,
          After.slot, phaseOf, Retry.next]
    · refine .step .skip ?_
      simp [TaskStore.view, TaskView.slotPhase, taskView, TaskStore.commit, TaskStore.rewrite,
        After.slot, phaseOf, Retry.next]
  · cases Outcome.eq_resolved hreply
    refine .step .drop ?_
    simp [TaskStore.view, TaskView.slotPhase, taskView, TaskStore.commit, TaskStore.rewrite,
      After.slot, phaseOf, Retry.next, written, statusOf, NotificationUpdate.rewrite,
      NotificationUpdate.apply, Outcome.ok]
  · -- the response alone changes nothing: the update that follows does
    convert Retry.Moves.refl _ using 1
    split <;> simp [TaskStore.view, TaskView.slotPhase, taskView, TaskStore.commit,
      TaskStore.rewrite, After.slot, phaseOf]
  · cases Outcome.eq_resolved hreply
    refine .step .succeed ?_
    simp [TaskStore.view, TaskView.slotPhase, taskView, TaskStore.commit, TaskStore.rewrite,
      After.slot, phaseOf, Retry.next, written, statusOf, NotificationUpdate.rewrite,
      NotificationUpdate.apply, Outcome.ok]
  · cases Outcome.eq_resolved hreply
    refine .step .fail ?_
    split
    · simp_all [TaskStore.view, TaskView.slotPhase, taskView, TaskStore.commit, TaskStore.rewrite,
        After.slot, phaseOf, Retry.next, written, statusOf, NotificationUpdate.rewrite,
        NotificationUpdate.apply]
    · simp_all [TaskStore.view, TaskView.slotPhase, taskView, TaskStore.commit, TaskStore.rewrite,
        After.slot, phaseOf, Retry.next, written, NotificationUpdate.rewrite,
        NotificationUpdate.apply, Outcome.ok]

/-- **The service retries**: without repository failures, its steps are moves of the retry loop
for every notification, which starts with the tries the repository stores. -/
theorem retries (config : Config) :
    TaskStore.Retries getTimeoutId taskView (config.store.storedTries config.maxTries)
      (machine config) RepositoriesWork State.toTaskStore := by
  intro s a s' slots h hwork hst
  obtain ⟨slots', hcase, htracked⟩ := step_cases h hst
  refine ⟨slots', htracked, ?_⟩
  cases hcase with
  | tick | services => exact .refl
  | createNotification new =>
    refine TaskStore.refines_create h _ (fun k => ?_) fun k => rfl
    simp [taskView, statusOf]
  | fire handle id tasks hid => exact TaskStore.refines_fire rfl hid tasks
  | resume id i reply pc e notification hpc hslot hrow he =>
    obtain rfl : notification.id = id := s.repo.key_eq hrow
    refine TaskStore.refines_commit hrow ?_
    rw [hslot]
    exact moves_sendNotification hrow (hwork _ _ _ rfl) he

/-! ### The delivery guarantees -/

/-- What the service promises of a stored notification. -/
structure Delivered (config : Config) (s : State) (notification : NotificationModel) : Prop where
  posts_le : ((s.posts notification.id).length : ℤ) ≤ config.maxTries
  failed_iff : notification.status = .failed ↔ (s.failures notification.id : ℤ) = config.maxTries
  triesLeft_eq : notification.triesLeft = config.maxTries - s.failures notification.id
  /-- Acknowledged, Failed and Orphaned are final: no timer, no attempt, no POST ever after. -/
  absorbing : notification.status ≠ .active →
    ∀ s', (machine config).Reaches RepositoriesWork s s' →
      ∃ notification', s'.repo.rows notification.id = some notification' ∧
        notification'.status = notification.status ∧
        s'.tasks.outstanding notification.id = 0 ∧
        (s'.posts notification.id).length = (s.posts notification.id).length

/-- The repository stores the tries it is given exactly if it is Postgres, or the maximum
happens to be the constant of the local one. -/
theorem storedTries_eq_iff (store : NotificationStore) (maxTries : ℤ) :
    store.storedTries maxTries = maxTries ↔ store = .postgres ∨ maxTries = localTriesLeft := by
  cases store <;> simp [NotificationStore.storedTries, eq_comm]

/-- The guarantees follow from the invariant when the repository stores the tries it is given. -/
theorem delivered_of_inv (hmax : 1 ≤ config.maxTries)
    (hstored : config.store.storedTries config.maxTries = config.maxTries)
    (hinv : TaskStore.Inv getTimeoutId taskView config.maxTries s.toTaskStore slots) {id : ℕ}
    {notification : NotificationModel} (hrow : s.repo.rows id = some notification) :
    Delivered config s notification := by
  obtain rfl : notification.id = id := s.repo.key_eq hrow
  have hretry := hinv.retry _ notification hrow
  refine ⟨hretry.sends_le, statusOf_eq_exhausted.symm.trans hretry.exhausted_iff_failures,
    hretry.triesLeft_eq, fun hsettled s' hreach => ?_⟩
  have hretries := retries config
  rw [hstored] at hretries
  have hwaiting : statusOf notification.status ≠ .waiting :=
    fun hw => hsettled (statusOf_eq_waiting.1 hw)
  obtain ⟨notification', hrow', hstatus, hnone, hposts⟩ :=
    hretries.settled getTimeoutId_injective hmax hinv hrow hwaiting hreach
  exact ⟨notification', hrow', statusOf_injective hstatus, hnone, hposts⟩

/-- **Delivery, for any maximum of tries**: the guarantees hold in every state that runs without
repository failures reach, exactly when the repository is the Postgres one or the maximum is
the constant of the local one. -/
theorem delivered_iff (config : Config) (hmax : 1 ≤ config.maxTries) (now : ℕ)
    (subscriptions : SubscriptionRepo) (events : EventsRepo) :
    (∀ s, (machine config).Reaches RepositoriesWork (init now subscriptions events) s →
      ∀ id notification, s.repo.rows id = some notification →
        Delivered config s notification) ↔
      config.store = .postgres ∨ config.maxTries = localTriesLeft := by
  rw [← storedTries_eq_iff]
  constructor
  · intro h
    -- a notification that was just created already has the tries of the repository
    have hreach : (machine config).Reaches RepositoriesWork (init now subscriptions events) _ :=
      .single (a := .createNotification ⟨0, 0, 0⟩) (fun _ _ _ he => nomatch he) rfl
    have hdelivered := h _ hreach 1
      (config.model now ⟨0, 0, 0⟩ 1) rfl
    have htries := hdelivered.triesLeft_eq
    simpa [NotificationsConfig.model, NotificationStore.model, NewNotification.params, init,
      TaskStore.empty, State.createNotification, TaskStore.create] using htries
  · intro hstored s hreach id notification hrow
    have hretries := retries config
    rw [hstored] at hretries
    obtain ⟨slots, hinv⟩ := hretries.inv_reaches hmax TaskStore.inv_empty hreach
    exact delivered_of_inv hmax hstored hinv hrow

/-- With the local repository and a maximum of three tries. -/
theorem delivered_iff_localStore_three :
    (∀ s, (machine ⟨⟨3, .localStore⟩, fun _ _ => ""⟩).Reaches RepositoriesWork
        (init 0 .empty .empty) s →
      ∀ id notification, s.repo.rows id = some notification →
        Delivered ⟨⟨3, .localStore⟩, fun _ _ => ""⟩ s notification) ↔
      NotificationStore.localStore = .postgres ∨ (3 : ℤ) = localTriesLeft :=
  delivered_iff ⟨⟨3, .localStore⟩, fun _ _ => ""⟩ (by decide) 0 .empty .empty

/-- A service with one subscription, one event and the local repository, for one try. -/
def oneTry : Config := ⟨⟨1, .localStore⟩, fun _ _ => ""⟩

def oneWebhook : State :=
  init 0
    (.create .empty ⟨.transactionUpdate, "1", "https://hook", 0, 60, .active, 1, 1, ""⟩)
    (.create .empty 0
      ⟨.transactionUpdate, "1", { status := .running, type := .single "asset.createAsset" }⟩)

/-- With the local repository and a single try, a webhook that does not answer is sent a second
POST. -/
theorem localStore_posts_twice :
    ∃ s, (machine oneTry).Reaches RepositoriesWork oneWebhook s ∧
      ∃ notification, s.repo.rows 1 = some notification ∧ (s.posts 1).length = 2 ∧
        ¬ Delivered oneTry s notification := by
  obtain ⟨s, hreach, hs⟩ := Machine.exists_reaches_of_run (M := machine oneTry)
    (C := RepositoriesWork) oneWebhook
    [.createNotification ⟨1, 1, 1⟩, .fire 0, .resume 1 0 (.read true),
      .resume 1 0 (.read true), .resume 1 0 (.response none), .resume 1 0 (.update .resolved),
      .fire 1, .resume 1 0 (.read true), .resume 1 0 (.read true)]
    (fun s => (s.repo.rows 1).isSome && (s.posts 1).length == 2) (by decide) (by decide)
  simp only [Bool.and_eq_true, Option.isSome_iff_exists, beq_iff_eq] at hs
  obtain ⟨⟨notification, hrow⟩, hposts⟩ := hs
  refine ⟨s, hreach, notification, hrow, hposts, fun hdelivered => ?_⟩
  have hle := hdelivered.posts_le
  rw [s.repo.key_eq hrow, hposts] at hle
  exact absurd hle (by decide)

/-! ### Stranded notifications -/

/-- Every Active notification has one timer or one attempt. -/
def NoneStranded (s : State) : Prop :=
  ∀ id notification, s.repo.rows id = some notification →
    notification.status = .active → s.tasks.outstanding id = 1

/-- The step ends the last attempt of an Active notification: the read it starts with fails, or
the update of `retry` does.  An update to Failed that took effect is the exception. -/
def strands (s : State) : Act → Bool
  | .resume id i reply =>
    (s.repo.rows id).any (·.status = .active) &&
      match (s.tasks.running id)[i]?, reply with
      | some .findById, .read false => true
      | some (.retry _), .update .rejected => true
      | some (.retry triesLeft), .update .unconfirmed => triesLeft ≠ 0
      | _, _ => false
  | _ => false

theorem noneStranded_iff_slots (h : Tracked s slots) : NoneStranded s ↔
    ∀ id notification, s.repo.rows id = some notification →
      notification.status = .active → slots id ≠ .idle := by
  unfold NoneStranded
  simp only [h.tracks.outstanding_eq getTimeoutId_injective]
  refine forall₄_congr fun id notification hrow hactive => ?_
  cases slots id <;> simp

/-- An attempt that goes on leaves its notification stranded just where `strands` says so. -/
theorem strands_resume {id i : ℕ} {pc : SendNotification} {reply : Reply} {e : Effect}
    {notification : NotificationModel} (hpc : (s.tasks.running id)[i]? = some pc)
    (hrow : s.repo.rows id = some notification)
    (he : s.sendNotification config id pc reply = some e) :
    ((TaskStore.rewrite e notification).status = .active → e.after.slot ≠ .idle) ↔
      ¬ strands s (.resume id i reply) = true := by
  unfold State.sendNotification at he
  simp only [strands, hrow, hpc]
  split at he <;> cases he
  · -- `findById`
    rename_i resolved
    cases resolved <;> simp [hrow, TaskStore.rewrite, After.slot]
  · -- `lookup`: the attempt goes on in each case
    split
    · split <;> simp [After.slot]
    · simp [After.slot]
  · rename_i outcome
    cases outcome <;> simp [TaskStore.rewrite, After.slot, written, NotificationUpdate.rewrite,
      NotificationUpdate.apply,
      Outcome.ok, Outcome.apply, Outcome.written]
  · split <;> simp [After.slot]
  · rename_i outcome
    cases outcome <;> simp [TaskStore.rewrite, After.slot, written, NotificationUpdate.rewrite,
      NotificationUpdate.apply,
      Outcome.ok, Outcome.apply, Outcome.written]
  · -- `retry`
    rename_i triesLeft outcome
    split <;> cases outcome <;> simp_all [TaskStore.rewrite, After.slot, written,
      NotificationUpdate.rewrite,
      NotificationUpdate.apply, Outcome.ok, Outcome.apply, Outcome.written]

/-- **One step**: where nothing is stranded, a step strands something exactly if it is one of
the steps of `strands`. -/
theorem noneStranded_next (h : ∃ slots, Tracked s slots) (hnone : NoneStranded s) {a : Act}
    (hst : next config s a = some s') : NoneStranded s' ↔ ¬ strands s a = true := by
  obtain ⟨slots, htracked⟩ := h
  obtain ⟨slots', hcase, htracked'⟩ := step_cases htracked hst
  rw [noneStranded_iff_slots htracked] at hnone
  rw [noneStranded_iff_slots htracked']
  cases hcase with
  | tick | services => simpa [strands] using hnone
  | createNotification new =>
    simp only [strands, Bool.false_eq_true, not_false_iff, iff_true]
    intro id notification hrow hactive
    by_cases hid : id = s.repo.currentId + 1
    · simp [hid]
    · simp only [State.createNotification, TaskStore.create, Table.insert_rows, if_neg hid] at hrow
      rw [Function.update_of_ne hid]
      exact hnone id notification hrow hactive
  | fire handle id tasks hid =>
    simp only [strands, Bool.false_eq_true, not_false_iff, iff_true]
    intro k other hother hactive
    by_cases hk : k = id
    · simp [hk]
    · rw [Function.update_of_ne hk]
      exact hnone k other hother hactive
  | resume id i reply pc e notification hpc hslot hrow he =>
    rw [← strands_resume hpc hrow he]
    constructor
    · intro hall hactive
      have hslot' := hall id (TaskStore.rewrite e notification)
        (by simp [TaskStore.commit_rows, hrow]) hactive
      simpa using hslot'
    · intro hone k other hother hactive
      rw [TaskStore.commit_rows] at hother
      by_cases hk : k = id
      · subst hk
        simp only [hrow, if_true, Option.map_some, Option.some.injEq] at hother
        subst hother
        simpa using hone hactive
      · rw [if_neg hk] at hother
        rw [Function.update_of_ne hk]
        exact hnone k other hother hactive

/-- **Which runs strand a notification**: whatever repository calls fail, every Active
notification has exactly one timer or attempt in every state the run visits, if and only if no
step of the run is one of `strands`. -/
theorem noneStranded_iff {now : ℕ} {subscriptions : SubscriptionRepo} {events : EventsRepo}
    {as : List Act}
    (hrun : (machine config).run (init now subscriptions events) as = some s') :
    (machine config).Always NoneStranded (init now subscriptions events) as ↔
      (machine config).Meets (fun s a => ¬ strands s a = true) (init now subscriptions events) as :=
  Machine.always_iff_meets (J := fun s => ∃ slots, Tracked s slots)
    (fun _ _ _ ⟨_, h⟩ hst => (step_cases h hst).imp fun _ h' => h'.2)
    (fun _ _ _ h hnone hst => noneStranded_next h hnone hst) hrun
    ⟨_, TaskStore.tracked_empty⟩ fun _ _ h => nomatch h

/-- The first read of a notification's only attempt fails. -/
theorem noneStranded_iff_read_fails :
    (machine ⟨⟨10, .postgres⟩, fun _ _ => ""⟩).Always NoneStranded oneWebhook
        [.createNotification ⟨1, 1, 1⟩, .fire 0, .resume 1 0 (.read false)] ↔
      (machine ⟨⟨10, .postgres⟩, fun _ _ => ""⟩).Meets (fun s a => ¬ strands s a = true) oneWebhook
        [.createNotification ⟨1, 1, 1⟩, .fire 0, .resume 1 0 (.read false)] :=
  noneStranded_iff rfl

/-- A notification stays Active with nothing under way when the read its attempt starts with
fails. -/
theorem stranded_by_findById :
    ∃ s, (machine ⟨⟨10, .postgres⟩, fun _ _ => ""⟩).Reaches Machine.Unrestricted oneWebhook s ∧
      ¬ NoneStranded s := by
  obtain ⟨s, hreach, hs⟩ := Machine.exists_reaches_of_run
    (M := machine ⟨⟨10, .postgres⟩, fun _ _ => ""⟩) (C := Machine.Unrestricted) oneWebhook
    [.createNotification ⟨1, 1, 1⟩, .fire 0, .resume 1 0 (.read false)]
    (fun s => (s.repo.rows 1).any (·.status = .active) && s.tasks.outstanding 1 == 0)
    (by decide) (Machine.meets_unrestricted ..)
  simp only [Bool.and_eq_true, Option.any_eq_true, decide_eq_true_eq, beq_iff_eq] at hs
  obtain ⟨⟨notification, hrow, hactive⟩, hnone⟩ := hs
  refine ⟨s, hreach, fun h => ?_⟩
  have hone := h 1 notification hrow hactive
  omega

end Delivery

end PolymeshRest
