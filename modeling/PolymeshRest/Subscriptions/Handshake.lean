import PolymeshRest.Js.Text
import PolymeshRest.Retry.Store
import PolymeshRest.Subscriptions.Basic

/-!
# The handshake of a subscription

A new subscription is Inactive until its webhook has echoed a secret.  `SubscriptionsService`
sends the handshake from a timer and retries from another one; each attempt (`sendHandshake`) is
suspended at the calls it awaits, and one action of the machine lets one attempt go on.

## Main definitions

* `SendHandshake` : the calls an attempt can be awaiting.
* `Handshake.State.sendHandshake` : what an attempt does when the call it awaits ends.
* `Handshake.machine` : besides the handshakes, subscriptions that were Active may be marked Done.
* `Handshake.taskView` : a subscription and an attempt, as a task of the bounded retry loop.

## Main results

* `Handshake.step_cases` : what a step can do.
* `Handshake.retries` : without repository failures, every step is a move of the retry loop for
  every subscription.
* `Handshake.handshaken_of_reaches` : what holds of every subscription in every state reached.
-/

namespace PolymeshRest

/-- The calls an attempt to send a handshake can be awaiting. -/
inductive SendHandshake where
  /-- `findOne` -/
  | findOne
  /-- `generateBase64Secret`; the subscription was read, and found unexpired, at `readAt`. -/
  | generateBase64Secret (subscription : SubscriptionModel) (readAt : ℕ)
  /-- The response to the POST. -/
  | post (triesLeft : ℤ) (secret : String)
  /-- The update to Active. -/
  | activate (triesLeft : ℤ)
  /-- The update in `retry(id, triesLeft)`. -/
  | retry (triesLeft : ℤ)
  deriving DecidableEq, Repr

namespace Handshake

/-- A response to a handshake. -/
structure Response where
  status : ℕ
  /-- The header `HANDSHAKE_HEADER_KEY`. -/
  secret : Option String
  deriving DecidableEq, Repr

/-- How the call an attempt awaits ends. -/
inductive Reply where
  /-- A read resolves with what the store holds, or is rejected. -/
  | read (resolved : Bool)
  /-- The secret generated; `none` if generating it fails. -/
  | secret (value : Option String)
  /-- The response; `none` if there is none. -/
  | response (response : Option Response)
  /-- An update. -/
  | update (outcome : Outcome)
  deriving DecidableEq, Repr

/-- A POST with a handshake. -/
structure HandshakePost where
  url : String
  secret : String
  /-- When the attempt that sent it had read the subscription. -/
  readAt : ℕ
  sentAt : ℕ
  deriving DecidableEq, Repr

/-- The clock, and the subscriptions with their attempts. -/
structure State extends
    TaskStore SubscriptionModel SubscriptionModel.id SendHandshake HandshakePost where
  now : ℕ

/-- `getTimeoutId` -/
def getTimeoutId (id : ℕ) : String := "sendSubscriptionHandshake_" ++ id.repr

theorem getTimeoutId_injective : Function.Injective getTimeoutId :=
  injective_append_repr "sendSubscriptionHandshake_"

/-- What an attempt does between two awaited calls. -/
abbrev Effect := PolymeshRest.Effect SubscriptionModel.id SendHandshake HandshakePost

/-- An update that ended with `outcome`. -/
def written (outcome : Outcome) (params : SubscriptionUpdate) :
    Option (Table.Rewrite SubscriptionModel.id) :=
  outcome.apply none (some params.rewrite)

/-- The response echoes the secret, with status 200. -/
def Response.accepts (response : Option Response) (secret : String) : Bool :=
  response.any fun r => r.status = 200 && r.secret = some secret

/-- `sendHandshake`, from the end of the call it awaits to the next call. -/
def State.sendHandshake (s : State) (id : ℕ) : SendHandshake → Reply → Option Effect
  | .findOne, .read resolved => some <|
    -- outside the `try`: a rejected or empty read ends the attempt
    match resolved, s.repo.rows id with
    | true, some subscription =>
      if subscription.isExpired s.now then { after := .finish }
      else { after := .suspend (.generateBase64Secret subscription s.now) }
    | _, _ => { after := .finish }
  | .generateBase64Secret subscription readAt, .secret value => some <|
    match value with
    | some secret =>
      { post := some ⟨subscription.webhookUrl, secret, readAt, s.now⟩
        after := .suspend (.post subscription.triesLeft secret) }
    | none => { after := .suspend (.retry (subscription.triesLeft - 1)) }
  | .post triesLeft secret, .response response => some
    { after := if Response.accepts response secret then .suspend (.activate triesLeft)
        else .suspend (.retry (triesLeft - 1)) }
  | .activate triesLeft, .update outcome => some
    { write := written outcome { status := some .active }
      after := if outcome.ok then .finish else .suspend (.retry (triesLeft - 1)) }
  | .retry triesLeft, .update outcome => some <|
    -- inside the `catch`: a rejected update ends the attempt
    if triesLeft = 0 then
      { write := written outcome { triesLeft := some triesLeft, status := some .rejected }
        failed := true
        after := .finish }
    else
      { write := written outcome { triesLeft := some triesLeft }
        failed := true
        after := if outcome.ok then .reschedule else .finish }
  | _, _ => none

/-- `createSubscription`: the row is stored and its handshake scheduled. -/
def State.createSubscription (s : State) (config : SubscriptionsConfig) (sub : NewSubscription) :
    State :=
  { s with
    toTaskStore := s.toTaskStore.create getTimeoutId (config.paramsOf s.now sub).toModel
      (config.paramsOf s.now sub).toModel_id }

/-- An update by another caller. -/
def State.update (s : State) (id : ℕ) (params : SubscriptionUpdate) : State :=
  { s with repo := s.repo.update id params.rewrite }

inductive Act where
  /-- Time passes. -/
  | tick
  | createSubscription (sub : NewSubscription)
  /-- A timer fires. -/
  | fire (handle : ℕ)
  /-- The call the `i`-th attempt of subscription `id` awaits ends. -/
  | resume (id i : ℕ) (reply : Reply)
  /-- The update of `batchMarkAsDone` for a subscription that was Active when it was looked up,
  and may have been marked Done since. -/
  | markAsDone (id : ℕ)

/-- One step. -/
def next (config : SubscriptionsConfig) (s : State) : Act → Option State
  | .tick => some { s with now := s.now + 1 }
  | .createSubscription sub => some (s.createSubscription config sub)
  | .fire handle =>
    (s.toTaskStore.fire .findOne handle).map fun t => { s with toTaskStore := t }
  | .resume id i reply =>
    (s.toTaskStore.resume getTimeoutId (s.sendHandshake id) id i reply).map fun t =>
      { s with toTaskStore := t }
  | .markAsDone id =>
    if (s.repo.rows id).any (fun sub => sub.status = .active || sub.status = .done) then
      some (s.update id { status := some .done })
    else none

def machine (config : SubscriptionsConfig) : Machine State Act := ⟨next config⟩

/-- A service that has just started, on an empty subscription store. -/
def init (now : ℕ) : State := { TaskStore.empty with now }

/-! ### What a step can do -/

variable {config : SubscriptionsConfig} {s s' : State} {slots : ℕ → Slot SendHandshake}

/-- The slots show what is under way for each subscription. -/
abbrev Tracked (s : State) (slots : ℕ → Slot SendHandshake) : Prop :=
  TaskStore.Tracked getTimeoutId s.toTaskStore slots

/-- What a step of each kind does to the subscriptions and to their slots. -/
inductive StepCase (config : SubscriptionsConfig) (s : State) (slots : ℕ → Slot SendHandshake) :
    Act → State → (ℕ → Slot SendHandshake) → Prop where
  | tick : StepCase config s slots .tick { s with now := s.now + 1 } slots
  | createSubscription (sub : NewSubscription) :
    StepCase config s slots (.createSubscription sub) (s.createSubscription config sub)
      (Function.update slots (s.repo.currentId + 1) .scheduled)
  | fire (handle id : ℕ) (tasks : Attempts SendHandshake) (scheduled : slots id = .scheduled) :
    StepCase config s slots (.fire handle) { s with tasks }
      (Function.update slots id (.running .findOne))
  | resume (id i : ℕ) (reply : Reply) (pc : SendHandshake) (e : Effect)
    (subscription : SubscriptionModel) (attempt : (s.tasks.running id)[i]? = some pc)
    (running : slots id = .running pc) (row : s.repo.rows id = some subscription)
    (effect : s.sendHandshake id pc reply = some e) :
    StepCase config s slots (.resume id i reply)
      { s with toTaskStore := s.toTaskStore.commit getTimeoutId id i e }
      (Function.update slots id e.after.slot)
  | markAsDone (id : ℕ) (subscription : SubscriptionModel)
    (row : s.repo.rows id = some subscription)
    (status : subscription.status = .active ∨ subscription.status = .done) :
    StepCase config s slots (.markAsDone id) (s.update id { status := some .done }) slots

/-- **Every step is one of these**, and the slots it leads to show what is under way after it. -/
theorem step_cases (h : Tracked s slots) {a : Act} (hst : next config s a = some s') :
    ∃ slots', StepCase config s slots a s' slots' ∧ Tracked s' slots' := by
  cases a with
  | tick =>
    cases hst
    exact ⟨slots, .tick, h⟩
  | createSubscription sub =>
    cases hst
    exact ⟨_, .createSubscription sub, TaskStore.tracked_create getTimeoutId_injective h _ _⟩
  | fire handle =>
    obtain ⟨t, hfire, rfl⟩ := Option.map_eq_some_iff.1 hst
    obtain ⟨id, subscription, tasks, hid, -, rfl, htracked⟩ :=
      TaskStore.tracked_fire getTimeoutId_injective h hfire
    exact ⟨_, .fire handle id tasks hid, htracked⟩
  | resume id i reply =>
    obtain ⟨t, hresume, rfl⟩ := Option.map_eq_some_iff.1 hst
    obtain ⟨pc, e, hpc, he, rfl⟩ := TaskStore.resume_eq_some.1 hresume
    obtain ⟨hslot, subscription, hrow⟩ := h.attempt hpc
    exact ⟨_, .resume id i reply pc e subscription hpc hslot hrow he,
      TaskStore.tracked_commit getTimeoutId_injective h hpc e⟩
  | markAsDone id =>
    simp only [next, Option.ite_none_right_eq_some, Option.some.injEq] at hst
    obtain ⟨hany, rfl⟩ := hst
    obtain ⟨subscription, hrow, hstatus⟩ := (Option.any_eq_true ..).1 hany
    exact ⟨slots, .markAsDone id subscription hrow (by simpa using hstatus),
      TaskStore.tracked_update h id _⟩

/-! ### The retry loop of one subscription -/

/-- The status of a subscription, as that of a retried task: Done comes after Active only. -/
def statusOf : SubscriptionStatus → Retry.Status
  | .inactive => .waiting
  | .active => .succeeded
  | .rejected => .exhausted
  | .done => .succeeded

theorem statusOf_eq_waiting {status : SubscriptionStatus} :
    statusOf status = .waiting ↔ status = .inactive := by
  cases status <;> simp [statusOf]

theorem statusOf_eq_exhausted {status : SubscriptionStatus} :
    statusOf status = .exhausted ↔ status = .rejected := by
  cases status <;> simp [statusOf]

/-- An attempt, as the phase of a retried task. -/
def phaseOf : SendHandshake → Retry.Phase
  | .findOne => .started
  | .generateBase64Secret subscription _ => .running subscription.triesLeft false
  | .post triesLeft _ => .running triesLeft true
  | .activate triesLeft => .running triesLeft true
  | .retry triesLeft => .running (triesLeft + 1) true

/-- A subscription and an attempt, as a task of the retry loop. -/
def taskView : TaskView SubscriptionModel SendHandshake where
  status subscription := statusOf subscription.status
  triesLeft := SubscriptionModel.triesLeft
  phase := phaseOf
  phase_ne_idle pc := by cases pc <;> simp [phaseOf]

/-- The call, if it is a repository's, did not fail. -/
def Reply.resolved : Reply → Bool
  | .read resolved => resolved
  | .secret _ | .response _ => true
  | .update outcome => outcome.ok

/-- No repository call fails. -/
def RepositoriesWork (_ : State) (a : Act) : Prop :=
  ∀ id i reply, a = .resume id i reply → reply.resolved = true

instance (s : State) : DecidablePred (RepositoriesWork s)
  | .resume _ _ reply => decidable_of_iff (reply.resolved = true)
      ⟨fun h _ _ _ he => by cases he; exact h, fun h => h _ _ _ rfl⟩
  | .tick | .createSubscription _ | .fire _ | .markAsDone _ =>
    .isTrue fun _ _ _ he => nomatch he

/-- **What an attempt does between two calls is at most one move of the retry loop.** -/
theorem moves_sendHandshake {i : ℕ} {pc : SendHandshake} {reply : Reply} {e : Effect}
    {subscription : SubscriptionModel}
    (hrow : s.repo.rows subscription.id = some subscription) (hreply : reply.resolved = true)
    (he : s.sendHandshake subscription.id pc reply = some e) :
    Retry.Moves (TaskStore.view taskView s.toTaskStore (.running pc) subscription)
      (TaskStore.view taskView (s.toTaskStore.commit getTimeoutId subscription.id i e)
        e.after.slot (TaskStore.rewrite e subscription)) := by
  unfold State.sendHandshake at he
  split at he <;> cases he
  · cases hreply
    simp only [hrow]
    split
    · -- expired: the attempt returns and nothing is scheduled
      refine .step .abandon ?_
      simp [TaskStore.view, TaskView.slotPhase, taskView, TaskStore.commit, TaskStore.rewrite,
        After.slot, phaseOf, Retry.next]
    · refine .step .read ?_
      simp [TaskStore.view, TaskView.slotPhase, taskView, TaskStore.commit, TaskStore.rewrite,
        After.slot, phaseOf, Retry.next]
  · split
    · refine .step .send ?_
      simp [TaskStore.view, TaskView.slotPhase, taskView, TaskStore.commit, TaskStore.rewrite,
        After.slot, phaseOf, Retry.next]
    · refine .step .skip ?_
      simp [TaskStore.view, TaskView.slotPhase, taskView, TaskStore.commit, TaskStore.rewrite,
        After.slot, phaseOf, Retry.next]
  · -- the response alone changes nothing: the update that follows does
    convert Retry.Moves.refl _ using 1
    split <;> simp [TaskStore.view, TaskView.slotPhase, taskView, TaskStore.commit,
      TaskStore.rewrite, After.slot, phaseOf]
  · cases Outcome.eq_resolved hreply
    refine .step .succeed ?_
    simp [TaskStore.view, TaskView.slotPhase, taskView, TaskStore.commit, TaskStore.rewrite,
      After.slot, phaseOf, Retry.next, written, statusOf, SubscriptionUpdate.rewrite,
      SubscriptionUpdate.apply, Outcome.ok]
  · cases Outcome.eq_resolved hreply
    refine .step .fail ?_
    split
    · simp_all [TaskStore.view, TaskView.slotPhase, taskView, TaskStore.commit, TaskStore.rewrite,
        After.slot, phaseOf, Retry.next, written, statusOf, SubscriptionUpdate.rewrite,
        SubscriptionUpdate.apply]
    · simp_all [TaskStore.view, TaskView.slotPhase, taskView, TaskStore.commit, TaskStore.rewrite,
        After.slot, phaseOf, Retry.next, written, SubscriptionUpdate.rewrite,
        SubscriptionUpdate.apply, Outcome.ok]

/-- **The service retries**: without repository failures, its steps are moves of the retry loop
for every subscription, which starts with `maxTries`. -/
theorem retries (config : SubscriptionsConfig) :
    TaskStore.Retries getTimeoutId taskView config.maxTries (machine config) RepositoriesWork
      State.toTaskStore := by
  intro s a s' slots h hwork hst
  obtain ⟨slots', hcase, htracked⟩ := step_cases h hst
  refine ⟨slots', htracked, ?_⟩
  cases hcase with
  | tick => exact .refl
  | createSubscription sub => exact TaskStore.refines_create h _ (fun k => rfl) fun k => rfl
  | fire handle id tasks hid => exact TaskStore.refines_fire rfl hid tasks
  | resume id i reply pc e subscription hpc hslot hrow he =>
    obtain rfl : subscription.id = id := s.repo.key_eq hrow
    refine TaskStore.refines_commit hrow ?_
    rw [hslot]
    exact moves_sendHandshake hrow (hwork _ _ _ rfl) he
  | markAsDone id subscription hrow hstatus =>
    refine TaskStore.refines_update hrow ?_ rfl
    obtain hactive | hdone := hstatus
    · simp [taskView, statusOf, SubscriptionUpdate.rewrite, SubscriptionUpdate.apply, hactive]
    · simp [taskView, statusOf, SubscriptionUpdate.rewrite, SubscriptionUpdate.apply, hdone]

/-! ### No handshake after the expiry was seen -/

/-- Every handshake sent, and every attempt about to send one, found the subscription
unexpired. -/
structure Unexpired (s : State) (slots : ℕ → Slot SendHandshake) : Prop where
  posts : ∀ id subscription, s.repo.rows id = some subscription →
    ∀ post ∈ s.posts id, subscription.isExpired post.readAt = false
  attempts : ∀ id subscription, s.repo.rows id = some subscription →
    ∀ read readAt, slots id = .running (.generateBase64Secret read readAt) →
      subscription.isExpired readAt = false

/-- What an attempt writes: the status Active, or the tries left and perhaps Rejected. -/
theorem write_cases {pc : SendHandshake} {reply : Reply} {e : Effect} {id : ℕ}
    (he : s.sendHandshake id pc reply = some e) : e.write = none ∨
      (∃ triesLeft outcome, pc = .activate triesLeft ∧ reply = .update outcome ∧
        outcome.written = true ∧
        e.write = some (SubscriptionUpdate.rewrite { status := some .active })) ∨
      ∃ triesLeft status, pc = .retry triesLeft ∧ status ≠ some .active ∧ status ≠ some .done ∧
        e.write = some (SubscriptionUpdate.rewrite { triesLeft := some triesLeft, status }) := by
  unfold State.sendHandshake at he
  split at he <;> cases he
  · split
    · split <;> exact .inl rfl
    · exact .inl rfl
  · split <;> exact .inl rfl
  · exact .inl rfl
  · rename_i triesLeft outcome
    cases outcome with
    | rejected => exact .inl rfl
    | resolved | unconfirmed => exact .inr (.inl ⟨triesLeft, _, rfl, rfl, rfl, rfl⟩)
  · rename_i triesLeft outcome
    split
    · cases outcome with
      | rejected => exact .inl rfl
      | resolved | unconfirmed =>
        exact .inr (.inr ⟨triesLeft, some .rejected, rfl, by decide, by decide, rfl⟩)
    · cases outcome with
      | rejected => exact .inl rfl
      | resolved | unconfirmed =>
        exact .inr (.inr ⟨triesLeft, none, rfl, by decide, by decide, rfl⟩)

/-- No write of an attempt changes when a subscription expires. -/
theorem rewrite_isExpired {pc : SendHandshake} {reply : Reply} {e : Effect} {id : ℕ}
    (he : s.sendHandshake id pc reply = some e) (subscription : SubscriptionModel) (now : ℕ) :
    (TaskStore.rewrite e subscription).isExpired now = subscription.isExpired now := by
  obtain hwrite | ⟨_, _, _, _, _, hwrite⟩ | ⟨_, _, _, _, _, hwrite⟩ := write_cases he
  all_goals rw [TaskStore.rewrite, hwrite]
  all_goals rfl

/-- An attempt sends only for a subscription it had read, and stores when it read it. -/
theorem post_readAt {pc : SendHandshake} {reply : Reply} {e : Effect} {id : ℕ}
    (he : s.sendHandshake id pc reply = some e) {post : HandshakePost}
    (hpost : e.post = some post) :
    ∃ read, pc = .generateBase64Secret read post.readAt := by
  unfold State.sendHandshake at he
  split at he <;> cases he
  · split at hpost
    · split at hpost <;> cases hpost
    · cases hpost
  · rename_i read readAt value
    split at hpost <;> cases hpost
    exact ⟨read, rfl⟩
  · cases hpost
  · cases hpost
  · split at hpost <;> cases hpost

/-- An attempt goes on to send only if the subscription it read was not expired. -/
theorem isExpired_of_suspend {pc : SendHandshake} {reply : Reply} {e : Effect} {id readAt : ℕ}
    {subscription read : SubscriptionModel} (hrow : s.repo.rows id = some subscription)
    (he : s.sendHandshake id pc reply = some e)
    (hafter : e.after.slot = .running (.generateBase64Secret read readAt)) :
    subscription.isExpired readAt = false := by
  unfold State.sendHandshake at he
  split at he <;> cases he
  · rw [hrow] at hafter
    rename_i resolved
    cases resolved with
    | false => simp [After.slot] at hafter
    | true =>
      cases hexp : subscription.isExpired s.now with
      | true => simp [hexp, After.slot] at hafter
      | false =>
        simp only [hexp, Bool.false_eq_true, if_false, After.slot, Slot.running.injEq,
          SendHandshake.generateBase64Secret.injEq] at hafter
        rw [← hafter.2, hexp]
  · split at hafter <;> simp [After.slot] at hafter
  · simp only at hafter
    split at hafter <;> simp [After.slot] at hafter
  · simp only at hafter
    split at hafter <;> simp [After.slot] at hafter
  · split at hafter
    · simp [After.slot] at hafter
    · simp only at hafter
      split at hafter <;> simp [After.slot] at hafter

theorem unexpired_init (now : ℕ) : Unexpired (init now) fun _ => .idle where
  posts _ _ h := nomatch h
  attempts _ _ h := nomatch h

theorem unexpired_next (h : Tracked s slots) (hun : Unexpired s slots) {a : Act}
    {slots' : ℕ → Slot SendHandshake} (hcase : StepCase config s slots a s' slots') :
    Unexpired s' slots' := by
  cases hcase with
  | tick => exact ⟨hun.posts, hun.attempts⟩
  | createSubscription sub =>
    refine ⟨fun k row hrow => ?_, fun k row hrow => ?_⟩
    all_goals
      simp only [State.createSubscription, TaskStore.create, Table.insert_rows] at hrow
      by_cases hk : k = s.repo.currentId + 1
    · -- nothing was ever sent for the next number
      have hnone := (h.fresh (s.repo.currentId + 1) Table.rows_next).2.1
      simp [State.createSubscription, TaskStore.create, hk, hnone]
    · rw [if_neg hk] at hrow
      exact hun.posts k row hrow
    · simp [hk]
    · rw [if_neg hk] at hrow
      rw [Function.update_of_ne hk]
      exact hun.attempts k row hrow
  | fire handle id tasks hid =>
    refine ⟨hun.posts, fun k row hrow => ?_⟩
    by_cases hk : k = id
    · simp [hk]
    · rw [Function.update_of_ne hk]
      exact hun.attempts k row hrow
  | resume id i reply pc e subscription hpc hslot hrow he =>
    refine ⟨fun k row hk => ?_, fun k row hk => ?_⟩
    all_goals
      rw [TaskStore.commit_rows] at hk
      by_cases hne : k = id
    · subst hne
      simp only [hrow, if_true, Option.map_some, Option.some.injEq] at hk
      subst hk
      intro post hpost
      rw [rewrite_isExpired he]
      simp only [TaskStore.commit, Function.update_self, List.mem_append,
        Option.mem_toList] at hpost
      -- a new POST is sent with what the attempt has read, which had not expired
      obtain hold | hnew := hpost
      · exact hun.posts k subscription hrow post hold
      · obtain ⟨read, rfl⟩ := post_readAt he hnew
        exact hun.attempts k subscription hrow read post.readAt hslot
    · rw [if_neg hne] at hk
      simp only [TaskStore.commit, Function.update_of_ne hne]
      exact hun.posts k row hk
    · subst hne
      simp only [hrow, if_true, Option.map_some, Option.some.injEq] at hk
      subst hk
      intro read readAt hafter
      rw [Function.update_self] at hafter
      rw [rewrite_isExpired he]
      exact isExpired_of_suspend hrow he hafter
    · rw [if_neg hne] at hk
      rw [Function.update_of_ne hne]
      exact hun.attempts k row hk
  | markAsDone id subscription hrow hstatus =>
    refine ⟨fun k row hk => ?_, fun k row hk => ?_⟩
    all_goals
      simp only [State.update, Table.update_rows] at hk
      split_ifs at hk with hid
    · obtain ⟨old, hold, rfl⟩ := Option.map_eq_some_iff.1 hk
      exact hun.posts k old hold
    · exact hun.posts k row hk
    · obtain ⟨old, hold, rfl⟩ := Option.map_eq_some_iff.1 hk
      exact hun.attempts k old hold
    · exact hun.attempts k row hk

/-- Whatever calls fail, handshakes are sent for subscriptions that were found unexpired. -/
theorem unexpired_reaches {C : State → Act → Prop} {now : ℕ}
    (hreach : (machine config).Reaches C (init now) s) :
    ∃ slots, Tracked s slots ∧ Unexpired s slots := by
  refine hreach.invariant (I := fun u => ∃ slots, Tracked u slots ∧ Unexpired u slots)
    ⟨_, TaskStore.tracked_empty, unexpired_init now⟩ ?_
  rintro u a u' ⟨slots, htracked, hun⟩ - hst
  obtain ⟨slots', hcase, htracked'⟩ := step_cases htracked hst
  exact ⟨slots', htracked', unexpired_next htracked hun hcase⟩

/-! ### The handshake guarantees -/

/-- What holds of a stored subscription at any time. -/
structure Handshaken (config : SubscriptionsConfig) (s : State) (subscription : SubscriptionModel) :
    Prop where
  /-- At most one timer or attempt. -/
  outstanding_le : s.tasks.outstanding subscription.id ≤ 1
  triesLeft_eq : subscription.triesLeft = config.maxTries - s.failures subscription.id
  triesLeft_nonneg : 0 ≤ subscription.triesLeft
  posts_le : ((s.posts subscription.id).length : ℤ) ≤ config.maxTries
  rejected_iff : subscription.status = .rejected ↔ subscription.triesLeft = 0
  /-- No POST once it is Active, Rejected or Done. -/
  settled : subscription.status ≠ .inactive →
    ∀ s', (machine config).Reaches RepositoriesWork s s' →
      (s'.posts subscription.id).length = (s.posts subscription.id).length
  /-- No POST by an attempt that read it when it had expired. -/
  unexpired : ∀ post ∈ s.posts subscription.id, subscription.isExpired post.readAt = false

/-- **The handshake state machine**: what holds in every state that runs without repository
failures reach, for any maximum of tries and any responses of the webhooks. -/
theorem handshaken_of_reaches (config : SubscriptionsConfig) (hmax : 1 ≤ config.maxTries) (now : ℕ)
    (s : State) (hreach : (machine config).Reaches RepositoriesWork (init now) s) (id : ℕ)
    (subscription : SubscriptionModel) (hrow : s.repo.rows id = some subscription) :
    Handshaken config s subscription := by
  obtain rfl : subscription.id = id := s.repo.key_eq hrow
  obtain ⟨slots, hinv⟩ := (retries config).inv_reaches hmax TaskStore.inv_empty hreach
  obtain ⟨_, -, hun⟩ := unexpired_reaches hreach
  have hretry := hinv.retry _ subscription hrow
  refine ⟨hinv.tracked.tracks.outstanding_le_one getTimeoutId_injective _, hretry.triesLeft_eq,
    hretry.nonneg, hretry.sends_le, statusOf_eq_exhausted.symm.trans hretry.exhausted_iff, ?_,
    hun.posts _ subscription hrow⟩
  intro hsettled s' hreach'
  have hwaiting : statusOf subscription.status ≠ .waiting :=
    fun hw => hsettled (statusOf_eq_waiting.1 hw)
  obtain ⟨-, -, -, -, hposts⟩ :=
    (retries config).settled getTimeoutId_injective hmax hinv hrow hwaiting hreach'
  exact hposts

/-- A subscription that lives for one millisecond. -/
def shortLived : SubscriptionsConfig := ⟨1, 3⟩

/-- A handshake that is echoed makes the subscription Active, with all its tries left. -/
theorem handshaken_of_reaches_echo :
    ∃ s, ∃ subscription, s.repo.rows 1 = some subscription ∧ subscription.status = .active ∧
      Handshaken shortLived s subscription := by
  obtain ⟨s, hreach, hs⟩ := Machine.exists_reaches_of_run (M := machine shortLived)
    (C := RepositoriesWork) (init 0)
    [.createSubscription ⟨.transactionUpdate, "1", "https://hook", ""⟩, .fire 0,
      .resume 1 0 (.read true), .resume 1 0 (.secret (some "secret")),
      .resume 1 0 (.response (some ⟨200, some "secret"⟩)), .resume 1 0 (.update .resolved)]
    (fun s => (s.repo.rows 1).any (·.status = .active)) (by decide) (by decide)
  obtain ⟨subscription, hrow, hactive⟩ := (Option.any_eq_true ..).1 hs
  exact ⟨s, subscription, hrow, of_decide_eq_true hactive,
    handshaken_of_reaches shortLived (by decide) 0 s hreach 1 subscription hrow⟩

/-- The POST can still go out after the subscription has expired: the expiry is checked when the
attempt reads the subscription, and generating the secret takes time. -/
theorem post_after_expiry :
    ∃ s, (machine shortLived).Reaches RepositoriesWork (init 0) s ∧
      ∃ subscription, s.repo.rows 1 = some subscription ∧
        ∃ post ∈ s.posts 1, subscription.isExpired post.sentAt = true := by
  obtain ⟨s, hreach, hs⟩ := Machine.exists_reaches_of_run (M := machine shortLived)
    (C := RepositoriesWork) (init 0)
    [.createSubscription ⟨.transactionUpdate, "1", "https://hook", ""⟩, .fire 0,
      .resume 1 0 (.read true), .tick, .resume 1 0 (.secret (some "secret"))]
    (fun s => (s.repo.rows 1).any fun subscription =>
      (s.posts 1).any fun post => subscription.isExpired post.sentAt) (by decide) (by decide)
  obtain ⟨subscription, hrow, hposts⟩ := (Option.any_eq_true ..).1 hs
  exact ⟨s, hreach, subscription, hrow, List.any_eq_true.1 hposts⟩

end Handshake

end PolymeshRest
