import PolymeshRest.Machine.Basic
import PolymeshRest.Schedule.Basic

/-!
# Scheduled tasks

`ScheduleService` with its timeouts and its intervals, the callbacks that run and how they fail.
Intervals are kept like timeouts: the timer is started, and the registry of intervals is asked
afterwards.  Callbacks call the service themselves; their calls are steps like those of others.

Time does not pass a timer that is due, so a task whose time has come has run.  A timer is due
after the delay that Node makes of the number it is given: one below 1 ms or above 2147483647 ms
counts as 1 ms.

## Main definitions

* `Thrown`, `Thrown.message` : what a callback fails with, and what `wrapCallback` logs of it.
* `Tasks` : the tasks of one kind, with what has become of each that was added.
* `Schedule.machine` : calls of the service, timers, and the ends of callbacks.
* `Schedule.InStep` : the property of one step: an id that is taken is refused and nothing changes,
  timeouts run once when their time comes, and no failure escapes.
* `Schedule.Disciplined` : no id that is taken is added, and failures can be described.

## Main results

* `Schedule.inv_next` : what a disciplined step keeps.
* `Schedule.inStep_iff` : the steps of a run are in step exactly if all of them are disciplined.
-/

namespace PolymeshRest

/-- What a callback throws, or rejects with. -/
inductive Thrown where
  /-- `null` or `undefined` -/
  | nullish
  /-- Another value, by the text of its `message`, if that is truthy, and by what
  `JSON.stringify` makes of it; either text is `none` where making it throws. -/
  | value (message : Option (Option String)) (json : Option String)
  deriving DecidableEq, Repr

/-- The text of `(err as Error).message || JSON.stringify(err)`, where making it does not throw. -/
def Thrown.message : Thrown → Option String
  | .nullish => none
  | .value (some message) _ => message
  | .value none json => json

/-- The delay that Node makes of a number of milliseconds; `setTimeout` sets one that is out of
range to 1. -/
def delay (ms : ℕ) : ℕ := if 1 ≤ ms ∧ ms ≤ 2147483647 then ms else 1

/-- A task, as its timer has it. -/
structure Task where
  /-- When it is to run next. -/
  due : ℕ
  /-- The time between two runs, for an interval. -/
  period : ℕ
  deriving DecidableEq, Repr

/-- What has become of a task that was added. -/
structure Added where
  due : ℕ
  /-- The call that added it returned normally. -/
  returned : Bool
  runs : ℕ
  deleted : Bool
  deriving DecidableEq, Repr

/-- The tasks of one kind. -/
structure Tasks where
  service : ScheduleService Task := .empty
  /-- The tasks that were added, by the handles of their timers. -/
  added : ℕ → Option Added := fun _ => none

namespace Tasks

/-- `addTimeout` or `addInterval` -/
def add (t : Tasks) (id : String) (task : Task) : Tasks where
  service := (t.service.addTimeout id task).1
  added := Function.update t.added t.service.nextHandle
    (some ⟨task.due, (t.service.addTimeout id task).2, 0, false⟩)

/-- `deleteTimeout` or `deleteInterval`, which throws where nothing is registered. -/
def delete (t : Tasks) (id : String) : Tasks :=
  match t.service.timeouts id, t.service.deleteTimeout id with
  | some h, some service =>
    { service
      added := Function.update t.added h ((t.added h).map fun a => { a with deleted := true }) }
  | _, _ => t

/-- The task of a timer runs. -/
def run (t : Tasks) (h : ℕ) : ℕ → Option Added :=
  Function.update t.added h ((t.added h).map fun a => { a with runs := a.runs + 1 })

end Tasks

/-! ### The tasks of one kind -/

namespace Tasks

/-- The registry and the timers agree, and no task was refused. -/
structure Inv (t : Tasks) : Prop where
  coherent : t.service.Coherent
  fresh : ∀ h, t.service.nextHandle ≤ h → t.added h = none
  returned : ∀ h a, t.added h = some a → a.returned = true

variable {t : Tasks}

theorem inv_empty : Inv {} where
  coherent := ScheduleService.coherent_empty
  fresh _ _ := rfl
  returned _ _ ha := nomatch ha

theorem add_added {id : String} (task : Task) (hid : t.service.timeouts id = none) :
    (t.add id task).added =
      Function.update t.added t.service.nextHandle (some ⟨task.due, true, 0, false⟩) := by
  rw [add, ScheduleService.addTimeout_of_free task hid]

theorem add_timers {id : String} (task : Task) (hid : t.service.timeouts id = none) :
    (t.add id task).service.timers = ⟨t.service.nextHandle, id, task⟩ :: t.service.timers := by
  rw [add, ScheduleService.addTimeout_of_free task hid]

/-- A timer is started whether or not the id is free. -/
theorem add_nextHandle (t : Tasks) (id : String) (task : Task) :
    (t.add id task).service.nextHandle = t.service.nextHandle + 1 := by
  rw [add, ScheduleService.addTimeout]
  split <;> rfl

theorem inv_add (h : Inv t) {id : String} (task : Task) (hid : t.service.timeouts id = none) :
    Inv (t.add id task) where
  coherent := ScheduleService.coherent_addTimeout h.coherent task hid
  fresh k hk := by
    rw [add_nextHandle] at hk
    rw [add_added task hid, Function.update_of_ne (by omega)]
    exact h.fresh k (by omega)
  returned k a ha := by
    rw [add_added task hid] at ha
    by_cases hk : k = t.service.nextHandle
    · rw [hk, Function.update_self] at ha
      cases ha
      rfl
    · rw [Function.update_of_ne hk] at ha
      exact h.returned k a ha

theorem eq_or_of_update {added : ℕ → Option Added} {h k : ℕ} {f : Added → Added} {a : Added}
    (ha : Function.update added h ((added h).map f) k = some a) :
    (∃ old, k = h ∧ added k = some old ∧ a = f old) ∨ k ≠ h ∧ added k = some a := by
  by_cases hk : k = h
  · subst hk
    rw [Function.update_self, Option.map_eq_some_iff] at ha
    obtain ⟨old, hold, rfl⟩ := ha
    exact .inl ⟨old, rfl, hold, rfl⟩
  · rw [Function.update_of_ne hk] at ha
    exact .inr ⟨hk, ha⟩

/-- A change of what has become of a task that keeps whether it was refused, with a schedule that
has the same next handle. -/
theorem inv_change (h : Inv t) {service : ScheduleService Task} (hservice : service.Coherent)
    (hnext : service.nextHandle = t.service.nextHandle) (k : ℕ) {f : Added → Added}
    (hf : ∀ a, (f a).returned = a.returned) :
    Inv { service, added := Function.update t.added k ((t.added k).map f) } := by
  refine ⟨hservice, fun j hj => ?_, fun j a ha => ?_⟩
  · have hfresh := h.fresh j (hnext ▸ hj)
    show Function.update t.added k _ j = none
    by_cases hjk : j = k
    · simp [← hjk, hfresh]
    · rw [Function.update_of_ne hjk, hfresh]
  · rcases eq_or_of_update ha with ⟨old, rfl, hold, rfl⟩ | ⟨-, hold⟩
    · rw [hf]
      exact h.returned j old hold
    · exact h.returned j a hold

/-- What `delete` does: nothing, where it throws, or it clears the timer of the task. -/
theorem delete_cases (h : Inv t) (id : String) :
    t.delete id = t ∨ ∃ timer ∈ t.service.timers, t.delete id =
      { service := t.service.clear timer
        added := Function.update t.added timer.handle
          ((t.added timer.handle).map fun a => { a with deleted := true }) } := by
  rw [delete]
  cases hid : t.service.timeouts id with
  | none => exact .inl rfl
  | some handle =>
    obtain ⟨timer, htimer, rfl, hdelete⟩ :=
      ScheduleService.deleteTimeout_of_registered h.coherent hid
    rw [hdelete]
    exact .inr ⟨timer, htimer, rfl⟩

end Tasks

/-! ### The service -/

/-- The service, the clock, and the callbacks that have been called and not ended. -/
structure Schedule where
  now : ℕ := 0
  timeouts : Tasks := {}
  intervals : Tasks := {}
  /-- The ids of the callbacks that run. -/
  running : List String := []
  /-- What was logged. -/
  errors : List String := []
  /-- The number of rejections that nothing handles. -/
  escaped : ℕ := 0

/-- One atomic step. -/
inductive ScheduleAct where
  | addTimeout (id : String) (ms : ℕ)
  | addInterval (id : String) (ms : ℕ)
  | deleteTimeout (id : String)
  | deleteInterval (id : String)
  /-- The timer of a timeout fires. -/
  | fireTimeout (handle : ℕ)
  /-- The timer of an interval fires. -/
  | fireInterval (handle : ℕ)
  /-- A callback ends, or fails. -/
  | callbackEnds (i : ℕ) (failure : Option Thrown)
  /-- Time passes. -/
  | elapse (now : ℕ)
  deriving DecidableEq, Repr

namespace Schedule

/-- The end of a callback that `wrapCallback` has called: a failure is logged, unless describing
it throws. -/
def callbackEnds (s : Schedule) (id : String) : Option Thrown → Schedule
  | none => s
  | some err =>
    match err.message with
    | some message =>
      { s with errors := ("Error on scheduled task \"" ++ id ++ "\": " ++ message) :: s.errors }
    | none => { s with escaped := s.escaped + 1 }

/-- The state a step leads to. -/
def next (s : Schedule) : ScheduleAct → Option Schedule
  | .addTimeout id ms =>
    some { s with timeouts := s.timeouts.add id ⟨s.now + delay ms, delay ms⟩ }
  | .addInterval id ms =>
    some { s with intervals := s.intervals.add id ⟨s.now + delay ms, delay ms⟩ }
  | .deleteTimeout id => some { s with timeouts := s.timeouts.delete id }
  | .deleteInterval id => some { s with intervals := s.intervals.delete id }
  | .fireTimeout h =>
    match s.timeouts.service.timers.find? fun t => t.handle = h, s.timeouts.service.fire h with
    | some t, some (service, fired) =>
      if t.cb.due ≤ s.now then
        match fired with
        | some _ => some { s with
            timeouts := { service, added := s.timeouts.run h }
            running := t.id :: s.running }
        -- the wrapper has thrown, outside its `try`, and the callback does not run
        | none => some { s with
            timeouts := { s.timeouts with service }, escaped := s.escaped + 1 }
      else none
    | _, _ => none
  | .fireInterval h =>
    (s.intervals.service.timers.find? fun t => t.handle = h).bind fun t =>
      if t.cb.due ≤ s.now then
        some { s with
          intervals := {
            service := s.intervals.service.modifyCb h fun task =>
              { task with due := task.due + task.period }
            added := s.intervals.run h }
          running := t.id :: s.running }
      else none
  | .callbackEnds i failure =>
    s.running[i]?.map fun id =>
      { s with running := s.running.eraseIdx i }.callbackEnds id failure
  | .elapse now =>
    if s.now ≤ now ∧ (∀ t ∈ s.timeouts.service.timers, now ≤ t.cb.due) ∧
        ∀ t ∈ s.intervals.service.timers, now ≤ t.cb.due then
      some { s with now }
    else none

/-- The service at work. -/
def machine : Machine Schedule ScheduleAct := ⟨next⟩

/-! ### What is to hold -/

/-- The call that led from `t` to `t'` was refused, and changed nothing. -/
def Refuses (t t' : Tasks) : Prop :=
  (t'.added t.service.nextHandle).map Added.returned = some false ∧ t'.service = t.service

/-- What is to hold of the tasks that were added, and of their failures. -/
structure Good (s : Schedule) : Prop where
  /-- A timeout runs at most once, not early, and once when its time has come, unless it was
  deleted. -/
  once : ∀ h a, s.timeouts.added h = some a → a.returned = true →
    a.runs ≤ 1 ∧ (a.runs = 1 → a.due ≤ s.now ∧ a.deleted = false) ∧
      (a.deleted = false → a.due < s.now → a.runs = 1)
  /-- A task that was refused does not run. -/
  never : ∀ t ∈ [s.timeouts, s.intervals], ∀ h a, t.added h = some a → a.returned = false →
    a.runs = 0
  contained : s.escaped = 0

/-- A step keeps the registry and the timers in step. -/
structure InStep (s : Schedule) (a : ScheduleAct) : Prop where
  timeout : ∀ id ms s', a = .addTimeout id ms → (s.timeouts.service.timeouts id).isSome = true →
    machine.next s a = some s' → Refuses s.timeouts s'.timeouts
  interval : ∀ id ms s', a = .addInterval id ms → (s.intervals.service.timeouts id).isSome = true →
    machine.next s a = some s' → Refuses s.intervals s'.intervals
  good : ∀ s', machine.next s a = some s' → s'.Good

/-- No id that is taken is added, and what callbacks fail with can be described. -/
def Disciplined (s : Schedule) : ScheduleAct → Prop
  | .addTimeout id _ => s.timeouts.service.timeouts id = none
  | .addInterval id _ => s.intervals.service.timeouts id = none
  | .callbackEnds i (some err) => i < s.running.length → err.message.isSome = true
  | _ => True

/-! ### The invariant -/

/-- What disciplined steps keep of the timeouts. -/
structure TimeoutsInv (now : ℕ) (t : Tasks) : Prop extends t.Inv where
  /-- A timeout whose timer runs has not run, and its time has not passed. -/
  waiting : ∀ timer ∈ t.service.timers, now ≤ timer.cb.due ∧
    t.added timer.handle = some ⟨timer.cb.due, true, 0, false⟩
  /-- Any other timeout was deleted, or has run once. -/
  past : ∀ h a, t.added h = some a → (∀ timer ∈ t.service.timers, timer.handle ≠ h) →
    a.deleted = true ∧ a.runs = 0 ∨ a.deleted = false ∧ a.runs = 1 ∧ a.due ≤ now

/-- What disciplined steps keep. -/
structure Inv (s : Schedule) : Prop where
  timeouts : TimeoutsInv s.now s.timeouts
  intervals : s.intervals.Inv
  contained : s.escaped = 0

theorem inv_init : Inv {} where
  timeouts :=
    { Tasks.inv_empty with
      waiting := fun _ htimer => nomatch htimer
      past := fun _ _ ha => nomatch ha }
  intervals := Tasks.inv_empty
  contained := rfl

theorem good_of_inv {s : Schedule} (h : Inv s) : s.Good where
  once k a ha _ := by
    by_cases hlive : ∃ timer ∈ s.timeouts.service.timers, timer.handle = k
    · obtain ⟨timer, htimer, rfl⟩ := hlive
      obtain ⟨hdue, hadded⟩ := h.timeouts.waiting timer htimer
      rw [hadded] at ha
      cases ha
      exact ⟨Nat.zero_le 1, nofun, fun _ hpast => absurd hpast (by simpa using hdue)⟩
    · have hnone : ∀ timer ∈ s.timeouts.service.timers, timer.handle ≠ k := fun timer htimer hk =>
        hlive ⟨timer, htimer, hk⟩
      rcases h.timeouts.past k a ha hnone with ⟨hdeleted, hruns⟩ | ⟨hdeleted, hruns, hdue⟩
      · simp [hdeleted, hruns]
      · simp [hdeleted, hruns, hdue]
  never t ht k a ha hreturned := by
    have hinv : t.Inv := by
      rcases List.mem_pair.1 ht with rfl | rfl
      · exact h.timeouts.toInv
      · exact h.intervals
    rw [hinv.returned k a ha] at hreturned
    cases hreturned
  contained := h.contained

theorem timeoutsInv_add {now : ℕ} {t : Tasks} (h : TimeoutsInv now t) {id : String} {task : Task}
    (hid : t.service.timeouts id = none) (hdue : now ≤ task.due) :
    TimeoutsInv now (t.add id task) := by
  refine ⟨Tasks.inv_add h.toInv task hid, fun timer htimer => ?_, fun k a ha hnone => ?_⟩
  · rw [Tasks.add_timers task hid, List.mem_cons] at htimer
    rw [Tasks.add_added task hid]
    rcases htimer with rfl | htimer
    · exact ⟨hdue, Function.update_self ..⟩
    · have hlt := h.coherent.lt_next timer htimer
      rw [Function.update_of_ne (by omega)]
      exact h.waiting timer htimer
  · rw [Tasks.add_timers task hid] at hnone
    have hk : k ≠ t.service.nextHandle := (hnone _ List.mem_cons_self).symm
    rw [Tasks.add_added task hid, Function.update_of_ne hk] at ha
    exact h.past k a ha fun timer htimer => hnone timer (List.mem_cons_of_mem _ htimer)

theorem timeoutsInv_clear {now : ℕ} {t : Tasks} (h : TimeoutsInv now t) {timer : Timer Task}
    (htimer : timer ∈ t.service.timers) {f : Added → Added}
    (hf : ∀ a, (f a).returned = a.returned)
    (hends : (f ⟨timer.cb.due, true, 0, false⟩).deleted = true ∧
        (f ⟨timer.cb.due, true, 0, false⟩).runs = 0 ∨
      (f ⟨timer.cb.due, true, 0, false⟩).deleted = false ∧
        (f ⟨timer.cb.due, true, 0, false⟩).runs = 1 ∧
          (f ⟨timer.cb.due, true, 0, false⟩).due ≤ now) :
    TimeoutsInv now
      { service := t.service.clear timer
        added := Function.update t.added timer.handle ((t.added timer.handle).map f) } := by
  refine ⟨Tasks.inv_change h.toInv (ScheduleService.coherent_clear h.coherent htimer) rfl _ hf,
    fun other hother => ?_, fun k a ha hnone => ?_⟩
  · obtain ⟨hold, hne⟩ := List.mem_filter.1 hother
    show _ ∧ Function.update t.added timer.handle _ other.handle = _
    rw [Function.update_of_ne (of_decide_eq_true hne)]
    exact h.waiting other hold
  · rcases Tasks.eq_or_of_update ha with ⟨old, rfl, hold, rfl⟩ | ⟨hk, hold⟩
    · rw [(h.waiting timer htimer).2] at hold
      cases hold
      exact hends
    · refine h.past k a hold fun other hother hhandle => ?_
      have hne : other.handle ≠ timer.handle := fun heq => hk (hhandle.symm.trans heq)
      exact hnone other (List.mem_filter.2 ⟨hother, decide_eq_true hne⟩) hhandle

theorem timeoutsInv_elapse {now now' : ℕ} {t : Tasks} (h : TimeoutsInv now t) (hle : now ≤ now')
    (hdue : ∀ timer ∈ t.service.timers, now' ≤ timer.cb.due) : TimeoutsInv now' t := by
  refine ⟨h.toInv, fun timer htimer => ⟨hdue timer htimer, (h.waiting timer htimer).2⟩,
    fun k a ha hnone => ?_⟩
  rcases h.past k a ha hnone with hdeleted | ⟨hdeleted, hruns, hpast⟩
  · exact .inl hdeleted
  · exact .inr ⟨hdeleted, hruns, Nat.le_trans hpast hle⟩

/-- What a failed callback leaves, where what it fails with can be described. -/
theorem inv_callbackEnds {s : Schedule} (h : Inv s) (id : String) {failure : Option Thrown}
    (hfailure : ∀ err, failure = some err → err.message.isSome = true) :
    Inv (s.callbackEnds id failure) := by
  cases failure with
  | none => exact h
  | some err =>
    obtain ⟨message, hmessage⟩ := Option.isSome_iff_exists.1 (hfailure err rfl)
    rw [callbackEnds, hmessage]
    exact ⟨h.timeouts, h.intervals, h.contained⟩

/-- **The step lemma**: what a disciplined step keeps. -/
theorem inv_next {s s' : Schedule} {a : ScheduleAct} (h : Inv s) (hd : Disciplined s a)
    (hst : next s a = some s') : Inv s' := by
  cases a with
  | addTimeout id ms =>
    cases hst
    exact ⟨timeoutsInv_add h.timeouts hd (Nat.le_add_right ..), h.intervals, h.contained⟩
  | addInterval id ms =>
    cases hst
    exact ⟨h.timeouts, Tasks.inv_add h.intervals _ hd, h.contained⟩
  | deleteTimeout id =>
    cases hst
    refine ⟨?_, h.intervals, h.contained⟩
    rcases Tasks.delete_cases h.timeouts.toInv id with hdelete | ⟨timer, htimer, hdelete⟩
    · exact hdelete.symm ▸ h.timeouts
    · rw [hdelete]
      exact timeoutsInv_clear h.timeouts htimer (fun _ => rfl) (.inl ⟨rfl, rfl⟩)
  | deleteInterval id =>
    cases hst
    refine ⟨h.timeouts, ?_, h.contained⟩
    rcases Tasks.delete_cases h.intervals id with hdelete | ⟨timer, htimer, hdelete⟩
    · exact hdelete.symm ▸ h.intervals
    · rw [hdelete]
      exact Tasks.inv_change h.intervals
        (ScheduleService.coherent_clear h.intervals.coherent htimer) rfl _ fun _ => rfl
  | fireTimeout k =>
    simp only [next] at hst
    split at hst
    · rename_i timer service fired hfind hfire
      obtain ⟨fired, hfired, rfl, rfl, rfl⟩ :=
        ScheduleService.fire_of_coherent h.timeouts.coherent hfire
      -- the timer that was found is the one that was cleared
      have htimer : timer = fired := h.timeouts.coherent.eq_of_handle
        (List.mem_of_find?_eq_some hfind) hfired (by simpa using List.find?_some hfind)
      subst htimer
      split at hst
      · rename_i hdue
        cases hst
        exact ⟨timeoutsInv_clear h.timeouts hfired (fun _ => rfl) (.inr ⟨rfl, rfl, hdue⟩),
          h.intervals, h.contained⟩
      · cases hst
    · cases hst
  | fireInterval k =>
    obtain ⟨timer, -, hres⟩ := Option.bind_eq_some_iff.1 hst
    split at hres
    · cases hres
      exact ⟨h.timeouts, Tasks.inv_change h.intervals
        (ScheduleService.coherent_modifyCb h.intervals.coherent ..) rfl _ fun _ => rfl, h.contained⟩
    · cases hres
  | callbackEnds i failure =>
    obtain ⟨id, hid, rfl⟩ := Option.map_eq_some_iff.1 hst
    have hlt : i < s.running.length := (List.getElem?_eq_some_iff.1 hid).1
    have hinv : Inv { s with running := s.running.eraseIdx i } :=
      ⟨h.timeouts, h.intervals, h.contained⟩
    refine inv_callbackEnds hinv id fun err herr => ?_
    subst herr
    exact hd hlt
  | elapse now =>
    simp only [next] at hst
    split at hst
    · rename_i hpass
      cases hst
      exact ⟨timeoutsInv_elapse h.timeouts hpass.1 hpass.2.1, h.intervals, h.contained⟩
    · cases hst

/-- Where a task is added under an id that is taken, its timer has been started all the same. -/
theorem not_refuses_add (t : Tasks) (id : String) (task : Task) : ¬ Refuses t (t.add id task) := by
  intro h
  have hnext := congrArg ScheduleService.nextHandle h.2
  rw [Tasks.add_nextHandle] at hnext
  omega

/-- In a schedule in step, the disciplined steps are the ones that keep it so. -/
theorem inStep_iff_disciplined {s : Schedule} (h : Inv s) (a : ScheduleAct) :
    InStep s a ↔ Disciplined s a := by
  constructor
  · intro hstep
    cases a with
    | addTimeout id ms =>
      by_contra htaken
      exact not_refuses_add _ _ _
        (hstep.timeout id ms _ rfl (Option.isSome_iff_ne_none.2 htaken) rfl)
    | addInterval id ms =>
      by_contra htaken
      exact not_refuses_add _ _ _
        (hstep.interval id ms _ rfl (Option.isSome_iff_ne_none.2 htaken) rfl)
    | callbackEnds i failure =>
      cases failure with
      | none => trivial
      | some err =>
        intro hlt
        cases hmessage : err.message with
        | some message => rfl
        | none =>
          have hnext : machine.next s (.callbackEnds i (some err)) =
              some { s with running := s.running.eraseIdx i, escaped := s.escaped + 1 } := by
            simp [machine, next, callbackEnds, List.getElem?_eq_getElem hlt, hmessage]
          have hcontained := (hstep.good _ hnext).contained
          simp at hcontained
    | _ => trivial
  · intro hd
    refine ⟨fun id ms s' ha htaken _ => ?_, fun id ms s' ha htaken _ => ?_, fun s' hst => ?_⟩
    · subst ha
      rw [show s.timeouts.service.timeouts id = none from hd] at htaken
      cases htaken
    · subst ha
      rw [show s.intervals.service.timeouts id = none from hd] at htaken
      cases htaken
    · exact good_of_inv (inv_next h hd hst)

/-- **The registry and the timers are in step exactly in the disciplined runs**: where no id that
is taken is added and every failure can be described, timeouts run once when their time comes and
no failure escapes; the first step that is not disciplined breaks this. -/
theorem inStep_iff (acts : List ScheduleAct) :
    machine.Meets InStep {} acts ↔ machine.Meets Disciplined {} acts :=
  Machine.meets_iff_meets (J := Inv) (fun _ _ _ => inv_next)
    (fun _ a h => inStep_iff_disciplined h a) inv_init acts

/-- A second timeout under the same id has its timer started before it is refused. -/
theorem started_before_refused : ¬ ∀ acts, machine.Meets InStep {} acts := by
  intro hall
  have hmeets := hall [.addTimeout "someId" 5000, .addTimeout "someId" 5000]
  exact not_refuses_add _ _ _ ((hmeets.2 _ rfl).1.timeout "someId" 5000 _ rfl rfl rfl)

end Schedule

end PolymeshRest
