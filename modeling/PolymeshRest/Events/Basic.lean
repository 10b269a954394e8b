import Mathlib.Data.List.Perm.Basic
import PolymeshRest.Machine.Basic
import PolymeshRest.Notifications.Basic
import PolymeshRest.Subscriptions.Basic

/-!
# Creating events

`EventsService.createEvent` stores an event, looks up the subscriptions it affects, increases
their nonces in one call and creates their notifications in a `Promise.all`, which rejects at the
first failure while the other calls go on.  A call of it is suspended at each repository call;
`CreateEvent` is such a call, and `CreateEvent.next` what it does when the call it awaits ends.

## Main definitions

* `Stores` : the clock and the stores that the services of one instance work on.
* `CreateEvent`, `CreateEvent.next`
* `CreateEvent.looked`, `CreateEvent.pending` : the notifications of a call whose nonces it has
  read but not increased yet, and those it has yet to create.
* `Events.machine ι` : any number of calls, one for each element of `ι`, in any interleaving.

## Main results

* `CreateEvent.next_cases` : what a step of a call can do.
-/

open scoped List

namespace PolymeshRest

/-- The clock, and the stores the services of one instance work on. -/
structure Stores where
  now : ℕ
  subscriptions : SubscriptionRepo
  notifications : NotificationRepo
  events : EventsRepo

/-- `affectedSubscriptions` of `createEventNotifications` -/
def Stores.affectedSubscriptions (w : Stores) (event : EventEntity) : List SubscriptionModel :=
  findAll w.subscriptions w.now (listening event.type event.scope)

/-- `notifications` of `createEventNotifications` -/
def EventEntity.notificationsFor (event : EventEntity) (subscriptions : List SubscriptionModel) :
    List NewNotification :=
  subscriptions.map fun subscription => ⟨event.id, subscription.id, subscription.nextNonce⟩

theorem Stores.row_of_mem_affected {w : Stores} {event : EventEntity} {sub : SubscriptionModel}
    (h : sub ∈ w.affectedSubscriptions event) : w.subscriptions.rows sub.id = some sub :=
  (mem_findAll.1 h).1

theorem Stores.nodup_notificationsFor (w : Stores) (event : EventEntity) :
    ((event.notificationsFor (w.affectedSubscriptions event)).map
      NewNotification.subscriptionId).Nodup := by
  have hids : (event.notificationsFor (w.affectedSubscriptions event)).map
      NewNotification.subscriptionId =
      (w.affectedSubscriptions event).map SubscriptionModel.id := by
    simp [EventEntity.notificationsFor, Function.comp_def]
  rw [hids]
  exact nodup_ids_findAll

namespace CreateEvent

/-- The repository calls of `createEvent`. -/
inductive Call where
  | findAll
  | incrementNonces
  | create
  deriving DecidableEq, Repr

/-- What a call of `createEvent` is awaiting. -/
inductive Phase where
  /-- The affected subscriptions. -/
  | findAll
  /-- `batchBumpNonce` -/
  | batchBumpNonce
  /-- The `Promise.all` of `createNotifications`, with the calls that have not ended. -/
  | createNotifications (pending : List NewNotification)
  /-- `markEventAsProcessed` -/
  | markEventAsProcessed
  | resolved
  /-- A repository call was rejected, and with it `createEvent`; calls of the `Promise.all` that
  have not ended go on. -/
  | rejected (call : Call) (pending : List NewNotification)
  deriving DecidableEq, Repr

/-- How an awaited call ends. -/
inductive Reply where
  /-- `findAll`, `incrementNonces`; `markEventAsProcessed` always resolves. -/
  | call (resolved : Bool)
  /-- The `create` of the `j`-th notification still pending. -/
  | create (j : ℕ) (resolved : Bool)
  deriving DecidableEq, Repr

def Reply.resolved : Reply → Bool
  | .call resolved => resolved
  | .create _ resolved => resolved

end CreateEvent

/-- A call of `createEvent`. -/
structure CreateEvent where
  event : EventEntity
  /-- The variable `notifications`, once it is known. -/
  notifications : Option (List NewNotification)
  phase : CreateEvent.Phase
  deriving DecidableEq, Repr

/-- `createEvent`, up to its first repository call. -/
def Stores.createEvent (w : Stores) (data : EventData) : Stores × CreateEvent :=
  ({ w with events := w.events.create w.now data },
    { event := EventsRepo.entity data w.now (w.events.currentId + 1)
      notifications := none
      phase := .findAll })

namespace CreateEvent

/-- After a `create` of the `Promise.all` that resolved. -/
def Phase.afterCreate : List NewNotification → Phase
  | [] => .markEventAsProcessed
  | pending => .createNotifications pending

/-- `createEvent`, from the end of a call it awaits to the next one. -/
def next (config : NotificationsConfig) (w : Stores) (c : CreateEvent) :
    Reply → Option (Stores × CreateEvent)
  | .call resolved =>
    match c.phase, resolved with
    | .findAll, true =>
      let affectedSubscriptions := w.affectedSubscriptions c.event
      let notifications := c.event.notificationsFor affectedSubscriptions
      if affectedSubscriptions.length = 0 then
        some (w, { c with notifications := some notifications, phase := .markEventAsProcessed })
      else some (w, { c with notifications := some notifications, phase := .batchBumpNonce })
    | .findAll, false => some (w, { c with phase := .rejected .findAll [] })
    | .batchBumpNonce, true =>
      let notifications := c.notifications.getD []
      some ({ w with
          subscriptions :=
            w.subscriptions.incrementNonces (notifications.map NewNotification.subscriptionId) },
        { c with phase := .createNotifications notifications })
    | .batchBumpNonce, false => some (w, { c with phase := .rejected .incrementNonces [] })
    | .markEventAsProcessed, true =>
      some ({ w with events := w.events.markEventAsProcessed c.event.id },
        { c with phase := .resolved })
    | _, _ => none
  | .create j resolved =>
    match c.phase, resolved with
    | .createNotifications pending, true =>
      pending[j]?.map fun new =>
        ({ w with notifications := w.notifications.create config w.now new },
          { c with phase := .afterCreate (pending.eraseIdx j) })
    | .createNotifications pending, false =>
      pending[j]?.map fun _ => (w, { c with phase := .rejected .create (pending.eraseIdx j) })
    | .rejected call pending, true =>
      -- the `Promise.all` has rejected already, but this call of it had been made
      pending[j]?.map fun new =>
        ({ w with notifications := w.notifications.create config w.now new },
          { c with phase := .rejected call (pending.eraseIdx j) })
    | .rejected call pending, false =>
      pending[j]?.map fun _ => (w, { c with phase := .rejected call (pending.eraseIdx j) })
    | _, _ => none

/-- The notifications whose nonces were read and not increased yet. -/
def looked (c : CreateEvent) : List NewNotification :=
  match c.phase with
  | .batchBumpNonce => c.notifications.getD []
  | _ => []

/-- The notifications that have yet to be created. -/
def pending (c : CreateEvent) : List NewNotification :=
  match c.phase with
  | .createNotifications pending => pending
  | .rejected _ pending => pending
  | _ => []

@[simp] theorem looked_afterCreate (event : EventEntity)
    (notifications : Option (List NewNotification)) (news : List NewNotification) :
    looked ⟨event, notifications, .afterCreate news⟩ = [] := by
  cases news <;> rfl

@[simp] theorem pending_afterCreate (event : EventEntity)
    (notifications : Option (List NewNotification)) (news : List NewNotification) :
    pending ⟨event, notifications, .afterCreate news⟩ = news := by
  cases news <;> rfl

/-- The call has resolved or rejected. -/
def settled (c : CreateEvent) : Bool :=
  match c.phase with
  | .resolved => true
  | .rejected _ _ => true
  | _ => false

/-- What a step of a call can do. -/
inductive StepCase (config : NotificationsConfig) (w : Stores) (c : CreateEvent) :
    Reply → Stores → CreateEvent → Prop where
  | affected (phase : c.phase = .findAll) (ne : w.affectedSubscriptions c.event ≠ []) :
    StepCase config w c (.call true) w
      { c with
        notifications := some (c.event.notificationsFor (w.affectedSubscriptions c.event))
        phase := .batchBumpNonce }
  | unaffected (phase : c.phase = .findAll) (nil : w.affectedSubscriptions c.event = []) :
    StepCase config w c (.call true) w
      { c with notifications := some [], phase := .markEventAsProcessed }
  | findAllRejected (phase : c.phase = .findAll) :
    StepCase config w c (.call false) w { c with phase := .rejected .findAll [] }
  | bump (phase : c.phase = .batchBumpNonce) :
    StepCase config w c (.call true)
      { w with subscriptions :=
          w.subscriptions.incrementNonces (c.looked.map NewNotification.subscriptionId) }
      { c with phase := .createNotifications c.looked }
  | bumpRejected (phase : c.phase = .batchBumpNonce) :
    StepCase config w c (.call false) w { c with phase := .rejected .incrementNonces [] }
  | create (j : ℕ) (new : NewNotification) (pending : List NewNotification)
    (phase : c.phase = .createNotifications pending) (new_eq : pending[j]? = some new) :
    StepCase config w c (.create j true)
      { w with notifications := w.notifications.create config w.now new }
      { c with phase := .afterCreate (pending.eraseIdx j) }
  | createRejected (j : ℕ) (new : NewNotification) (pending : List NewNotification)
    (phase : c.phase = .createNotifications pending) (new_eq : pending[j]? = some new) :
    StepCase config w c (.create j false) w
      { c with phase := .rejected .create (pending.eraseIdx j) }
  | lateCreate (j : ℕ) (new : NewNotification) (call : Call) (pending : List NewNotification)
    (phase : c.phase = .rejected call pending) (new_eq : pending[j]? = some new) :
    StepCase config w c (.create j true)
      { w with notifications := w.notifications.create config w.now new }
      { c with phase := .rejected call (pending.eraseIdx j) }
  | lateRejected (j : ℕ) (new : NewNotification) (call : Call) (pending : List NewNotification)
    (phase : c.phase = .rejected call pending) (new_eq : pending[j]? = some new) :
    StepCase config w c (.create j false) w
      { c with phase := .rejected call (pending.eraseIdx j) }
  | processed (phase : c.phase = .markEventAsProcessed) :
    StepCase config w c (.call true)
      { w with events := w.events.markEventAsProcessed c.event.id }
      { c with phase := .resolved }

variable {config : NotificationsConfig} {w w' : Stores} {c c' : CreateEvent} {reply : Reply}

/-- **Every step of a call is one of these.** -/
theorem next_cases (hst : c.next config w reply = some (w', c')) :
    StepCase config w c reply w' c' := by
  unfold next at hst
  split at hst
  · split at hst
    · rename_i resolved hphase
      simp only [List.length_eq_zero_iff] at hst
      split_ifs at hst with hnil <;> cases hst
      · have hcase : StepCase config w c (.call true) w _ := .unaffected hphase hnil
        simpa [hnil, EventEntity.notificationsFor] using hcase
      · exact .affected hphase hnil
    · rename_i hphase
      cases hst
      exact .findAllRejected hphase
    · rename_i hphase
      cases hst
      have hlooked : c.looked = c.notifications.getD [] := by simp only [looked, hphase]
      rw [← hlooked]
      exact .bump hphase
    · rename_i hphase
      cases hst
      exact .bumpRejected hphase
    · rename_i hphase
      cases hst
      exact .processed hphase
    · cases hst
  · split at hst
    · rename_i pending hphase
      obtain ⟨new, hnew, hst⟩ := Option.map_eq_some_iff.1 hst
      cases hst
      exact .create _ new pending hphase hnew
    · rename_i pending hphase
      obtain ⟨new, hnew, hst⟩ := Option.map_eq_some_iff.1 hst
      cases hst
      exact .createRejected _ new pending hphase hnew
    · rename_i call pending hphase
      obtain ⟨new, hnew, hst⟩ := Option.map_eq_some_iff.1 hst
      cases hst
      exact .lateCreate _ new call pending hphase hnew
    · rename_i call pending hphase
      obtain ⟨new, hnew, hst⟩ := Option.map_eq_some_iff.1 hst
      cases hst
      exact .lateRejected _ new call pending hphase hnew
    · cases hst

theorem StepCase.event_eq (h : StepCase config w c reply w' c') : c'.event = c.event := by
  cases h <;> rfl

/-- The notifications of a call that carry a nonce and are yet to be created. -/
def drafts (c : CreateEvent) : List NewNotification := c.looked ++ c.pending

/-- The call is about to look up the affected subscriptions, and will. -/
def looksUp (c : CreateEvent) (reply : Reply) : Bool := c.phase = .findAll && reply = .call true

/-- A call has drafts for the subscriptions it has looked up. -/
theorem StepCase.mem_drafts (h : StepCase config w c reply w' c') {new : NewNotification}
    (hnew : new ∈ c'.drafts) : new ∈ c.drafts ∨
      c.looksUp reply = true ∧ ∃ sub ∈ w.affectedSubscriptions c.event,
        new = ⟨c.event.id, sub.id, sub.nextNonce⟩ := by
  obtain ⟨event, notifications, phase⟩ := c
  cases h with
  | affected hphase hne =>
    cases hphase
    have hmem : new ∈ event.notificationsFor (w.affectedSubscriptions event) := by
      simpa [drafts, looked, CreateEvent.pending] using hnew
    obtain ⟨sub, hsub, rfl⟩ := List.mem_map.1 hmem
    exact .inr ⟨rfl, sub, hsub, rfl⟩
  | unaffected | findAllRejected | bumpRejected | processed =>
    simp [drafts, looked, CreateEvent.pending] at hnew
  | bump hphase =>
    cases hphase
    exact .inl (by simpa [drafts, looked, CreateEvent.pending] using hnew)
  | create j other pending hphase hother =>
    cases hphase
    simp only [drafts, looked_afterCreate, pending_afterCreate, List.nil_append] at hnew
    exact .inl (by simpa [drafts, looked, CreateEvent.pending] using List.mem_of_mem_eraseIdx hnew)
  | createRejected j other pending hphase hother | lateCreate j other call pending hphase hother
  | lateRejected j other call pending hphase hother =>
    cases hphase
    simp only [drafts, looked, CreateEvent.pending, List.nil_append] at hnew
    exact .inl (by simpa [drafts, looked, CreateEvent.pending] using List.mem_of_mem_eraseIdx hnew)

theorem StepCase.subscriptions_cases (h : StepCase config w c reply w' c') :
    w'.subscriptions = w.subscriptions ∨
      c.phase = .batchBumpNonce ∧ w'.subscriptions =
        w.subscriptions.incrementNonces (c.drafts.map NewNotification.subscriptionId) := by
  cases h with
  | bump hphase =>
    refine .inr ⟨hphase, ?_⟩
    simp [drafts, looked, CreateEvent.pending, hphase]
  | _ => exact .inl rfl

theorem StepCase.keeps (h : StepCase config w c reply w' c') :
    w.subscriptions.Keeps w'.subscriptions := by
  obtain hsubs | ⟨-, hsubs⟩ := h.subscriptions_cases
  · rw [hsubs]
    exact .refl _
  · rw [hsubs]
    exact SubscriptionRepo.keeps_incrementNonces _ _

theorem StepCase.notifications_cases (h : StepCase config w c reply w' c') :
    w'.notifications = w.notifications ∨
      ∃ new ∈ c.drafts, w'.notifications = w.notifications.create config w.now new := by
  cases h with
  | create j new pending hphase hnew | lateCreate j new call pending hphase hnew =>
    refine .inr ⟨new, ?_, rfl⟩
    have hmem := List.mem_of_getElem? hnew
    simpa [drafts, looked, CreateEvent.pending, hphase] using hmem
  | _ => exact .inl rfl

end CreateEvent

/-- Taking one of the pending notifications away leaves those for other subscriptions. -/
theorem mem_eraseIdx_iff {pending : List NewNotification}
    (hnodup : (pending.map NewNotification.subscriptionId).Nodup) {j : ℕ} {new : NewNotification}
    (hnew : pending[j]? = some new) (other : NewNotification) :
    other ∈ pending.eraseIdx j ↔
      other ∈ pending ∧ other.subscriptionId ≠ new.subscriptionId := by
  obtain ⟨hj, rfl⟩ := List.getElem?_eq_some_iff.1 hnew
  have hperm : pending[j] :: pending.eraseIdx j ~ pending := List.getElem_cons_eraseIdx_perm hj
  have hnot := ((hperm.map NewNotification.subscriptionId).nodup_iff.2 hnodup).notMem
  rw [← hperm.mem_iff, List.mem_cons]
  constructor
  · intro hmem
    exact ⟨.inr hmem, fun heq => hnot (heq ▸ List.mem_map_of_mem hmem)⟩
  · rintro ⟨rfl | hmem, hne⟩
    · exact absurd rfl hne
    · exact hmem

/-! ### Any number of calls -/

namespace Events

/-- The stores, and the calls of `createEvent`, one for each element of `ι`. -/
structure State (ι : Type*) extends Stores where
  calls : ι → Option CreateEvent

inductive Act (ι : Type*) where
  /-- Time passes. -/
  | tick
  /-- The call `i` of `createEvent` is made. -/
  | createEvent (i : ι) (data : EventData)
  /-- A call that the call `i` of `createEvent` awaits ends. -/
  | resume (i : ι) (reply : CreateEvent.Reply)

variable {ι : Type*} [DecidableEq ι]

/-- One step. -/
def next (config : NotificationsConfig) (s : State ι) : Act ι → Option (State ι)
  | .tick => some { s with now := s.now + 1 }
  | .createEvent i data =>
    if s.calls i = none then
      let (w, c) := s.toStores.createEvent data
      some { toStores := w, calls := Function.update s.calls i (some c) }
    else none
  | .resume i reply =>
    (s.calls i).bind fun c =>
      (c.next config s.toStores reply).map fun (w, c') =>
        { toStores := w, calls := Function.update s.calls i (some c') }

def machine (ι : Type*) [DecidableEq ι] (config : NotificationsConfig) :
    Machine (State ι) (Act ι) := ⟨next config⟩

/-- A state in which no call has been made. -/
def Quiet (s : State ι) : Prop := ∀ i, s.calls i = none

/-- What a step can do. -/
inductive StepCase (config : NotificationsConfig) (s : State ι) : Act ι → State ι → Prop where
  | tick : StepCase config s .tick { s with now := s.now + 1 }
  | createEvent (i : ι) (data : EventData) (free : s.calls i = none) :
    StepCase config s (.createEvent i data)
      { toStores := (s.toStores.createEvent data).1
        calls := Function.update s.calls i (some (s.toStores.createEvent data).2) }
  | resume (i : ι) (reply : CreateEvent.Reply) (c c' : CreateEvent) (w : Stores)
    (call : s.calls i = some c) (step : CreateEvent.StepCase config s.toStores c reply w c') :
    StepCase config s (.resume i reply)
      { toStores := w, calls := Function.update s.calls i (some c') }

/-- **Every step is one of these.** -/
theorem next_cases {config : NotificationsConfig} {s s' : State ι} {a : Act ι}
    (hst : next config s a = some s') : StepCase config s a s' := by
  cases a with
  | tick =>
    cases hst
    exact .tick
  | createEvent i data =>
    simp only [next, Option.ite_none_right_eq_some, Option.some.injEq] at hst
    obtain ⟨hfree, rfl⟩ := hst
    exact .createEvent i data hfree
  | resume i reply =>
    obtain ⟨c, hc, hst⟩ := Option.bind_eq_some_iff.1 hst
    obtain ⟨⟨w, c'⟩, hnext, rfl⟩ := Option.map_eq_some_iff.1 hst
    exact .resume i reply c c' w hc (CreateEvent.next_cases hnext)

/-- No repository call fails. -/
def NoneFails (_ : State ι) (a : Act ι) : Prop :=
  ∀ i reply, a = .resume i reply → reply.resolved = true

instance (s : State ι) : DecidablePred (NoneFails s)
  | .resume _ reply => decidable_of_iff (reply.resolved = true)
      ⟨fun h _ _ he => by cases he; exact h, fun h => h _ _ rfl⟩
  | .tick | .createEvent _ _ => .isTrue fun _ _ he => nomatch he

end Events

end PolymeshRest
