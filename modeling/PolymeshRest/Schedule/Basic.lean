import Mathlib.Data.List.Nodup
import Mathlib.Logic.Function.Basic
import Mathlib.Tactic.Common

/-!
# The scheduler

`ScheduleService` keeps timers in two places: the timers Node has started, and the entries of
Nest's `SchedulerRegistry`, which maps a task id to a timer and refuses an id it already has.
`addTimeout` starts the timer first and registers it afterwards, and the wrapped callback deletes
the entry of its id before it runs, so the two agree only as long as no id is added twice.

* `ScheduleService.Coherent` : the registry and the running timers agree.
* `ScheduleService.coherent_addTimeout` : adding a free id keeps them in step.
* `ScheduleService.fire_spec` : in a coherent schedule a timer that fires runs its callback, and
  frees its own id only.

Timers may fire in any order: how long each of them waits is not part of the model.
-/

namespace PolymeshRest

/-- A timer that was started and has neither fired nor been cleared. -/
structure Timer (Cb : Type*) where
  /-- What `setTimeout` returned. -/
  handle : ℕ
  /-- The task id it was added under. -/
  id : String
  /-- The callback. -/
  cb : Cb
  deriving DecidableEq

/-- `ScheduleService` and the `SchedulerRegistry` behind it. -/
structure ScheduleService (Cb : Type*) where
  /-- The handle of the next timer. -/
  nextHandle : ℕ
  timers : List (Timer Cb)
  /-- The registry: the handle registered under a task id. -/
  timeouts : String → Option ℕ

namespace ScheduleService

variable {Cb : Type*}

def empty : ScheduleService Cb := ⟨0, [], fun _ => none⟩

/-- `addTimeout`: the timer is started before the registry can refuse the id.  The flag is
`false` when it does, that is, when the call throws. -/
def addTimeout (s : ScheduleService Cb) (id : String) (cb : Cb) : ScheduleService Cb × Bool :=
  let started : ScheduleService Cb :=
    { s with nextHandle := s.nextHandle + 1, timers := ⟨s.nextHandle, id, cb⟩ :: s.timers }
  match s.timeouts id with
  | some _ => (started, false)
  | none =>
    ({ started with timeouts := Function.update s.timeouts id (some s.nextHandle) }, true)

/-- `deleteTimeout`: clears the timer registered under the id; throws (`none`) if there is
none. -/
def deleteTimeout (s : ScheduleService Cb) (id : String) : Option (ScheduleService Cb) :=
  (s.timeouts id).map fun h =>
    { s with
      timers := s.timers.filter fun t => t.handle ≠ h
      timeouts := Function.update s.timeouts id none }

/-- A timer elapses and the callback of `wrapCallback` runs: it deletes the id, and then runs
the task's own callback.  The second component is that callback, `none` when deleting threw. -/
def fire (s : ScheduleService Cb) (h : ℕ) : Option (ScheduleService Cb × Option Cb) :=
  (s.timers.find? fun t => t.handle = h).map fun t =>
    let elapsed := { s with timers := s.timers.filter fun u => u.handle ≠ h }
    match elapsed.deleteTimeout t.id with
    | none => (elapsed, none)
    | some s' => (s', some t.cb)

/-- Change what the timer of a handle has as its callback. -/
def modifyCb (s : ScheduleService Cb) (h : ℕ) (f : Cb → Cb) : ScheduleService Cb :=
  { s with timers := s.timers.map fun t => if t.handle = h then { t with cb := f t.cb } else t }

theorem mem_timers_addTimeout {s : ScheduleService Cb} {id : String} {cb : Cb} {t : Timer Cb}
    (ht : t ∈ (s.addTimeout id cb).1.timers) : t ∈ s.timers ∨ t.cb = cb := by
  have hcons : (s.addTimeout id cb).1.timers = ⟨s.nextHandle, id, cb⟩ :: s.timers := by
    unfold addTimeout
    split <;> rfl
  rw [hcons] at ht
  obtain rfl | hold := List.mem_cons.1 ht
  · exact .inr rfl
  · exact .inl hold

theorem timers_fire {s s' : ScheduleService Cb} {h : ℕ} {r : Option Cb}
    (hf : s.fire h = some (s', r)) :
    (∀ t ∈ s'.timers, t ∈ s.timers) ∧ ∀ cb, r = some cb → ∃ t ∈ s.timers, t.cb = cb := by
  obtain ⟨t, ht, hres⟩ := Option.map_eq_some_iff.1 hf
  have hmem : t ∈ s.timers := List.mem_of_find?_eq_some ht
  simp only at hres
  split at hres
  · cases hres
    exact ⟨fun u hu => List.mem_of_mem_filter hu, nofun⟩
  · rename_i elapsed hdelete
    cases hres
    obtain ⟨g, -, rfl⟩ := Option.map_eq_some_iff.1 hdelete
    refine ⟨fun u hu => List.mem_of_mem_filter (List.mem_of_mem_filter hu), ?_⟩
    rintro cb ⟨⟩
    exact ⟨t, hmem, rfl⟩

/-- The registry and the running timers agree. -/
structure Coherent (s : ScheduleService Cb) : Prop where
  registered : ∀ t ∈ s.timers, s.timeouts t.id = some t.handle
  running : ∀ id h, s.timeouts id = some h → ∃ t ∈ s.timers, t.id = id ∧ t.handle = h
  lt_next : ∀ t ∈ s.timers, t.handle < s.nextHandle
  nodup : (s.timers.map Timer.handle).Nodup

variable {s : ScheduleService Cb}

theorem coherent_empty : (empty : ScheduleService Cb).Coherent where
  registered := by simp [empty]
  running := by simp [empty]
  lt_next := by simp [empty]
  nodup := by simp [empty]

theorem Coherent.eq_of_handle (hs : s.Coherent) {t u : Timer Cb} (ht : t ∈ s.timers)
    (hu : u ∈ s.timers) (h : t.handle = u.handle) : t = u :=
  List.inj_on_of_nodup_map hs.nodup ht hu h

/-- At most one timer runs under an id. -/
theorem Coherent.eq_of_id (hs : s.Coherent) {t u : Timer Cb} (ht : t ∈ s.timers)
    (hu : u ∈ s.timers) (h : t.id = u.id) : t = u := by
  refine hs.eq_of_handle ht hu ?_
  have hreg := hs.registered t ht
  rw [h, hs.registered u hu] at hreg
  exact (Option.some.inj hreg).symm

theorem addTimeout_of_free {id : String} (cb : Cb) (h : s.timeouts id = none) :
    s.addTimeout id cb =
      (⟨s.nextHandle + 1, ⟨s.nextHandle, id, cb⟩ :: s.timers,
        Function.update s.timeouts id (some s.nextHandle)⟩, true) := by
  simp only [addTimeout, h]

/-- Adding a free id keeps the registry and the timers in step. -/
theorem coherent_addTimeout (hs : s.Coherent) {id : String} (cb : Cb)
    (h : s.timeouts id = none) : (s.addTimeout id cb).1.Coherent := by
  rw [addTimeout_of_free cb h]
  refine ⟨fun t ht => ?_, fun id' h' hid' => ?_, fun t ht => ?_, ?_⟩
  · rcases List.mem_cons.1 ht with rfl | ht
    · simp
    · have hreg := hs.registered t ht
      have hne : t.id ≠ id := by
        intro he
        rw [he, h] at hreg
        cases hreg
      simpa [Function.update_of_ne hne] using hreg
  · by_cases he : id' = id
    · subst he
      simp only [Function.update_self, Option.some.injEq] at hid'
      exact ⟨_, List.mem_cons_self, rfl, hid'⟩
    · simp only [Function.update_of_ne he] at hid'
      obtain ⟨t, ht, hti, hth⟩ := hs.running id' h' hid'
      exact ⟨t, List.mem_cons_of_mem _ ht, hti, hth⟩
  · rcases List.mem_cons.1 ht with rfl | ht
    · exact Nat.lt_succ_self _
    · exact Nat.lt_succ_of_lt (hs.lt_next t ht)
  · simp only [List.map_cons, List.nodup_cons]
    refine ⟨fun hmem => ?_, hs.nodup⟩
    obtain ⟨t, ht, hth⟩ := List.mem_map.1 hmem
    exact absurd (hs.lt_next t ht) (by omega)

/-- The schedule without a timer and its registration. -/
def clear (s : ScheduleService Cb) (t : Timer Cb) : ScheduleService Cb :=
  { s with
    timers := s.timers.filter fun u => u.handle ≠ t.handle
    timeouts := Function.update s.timeouts t.id none }

theorem coherent_clear (hs : s.Coherent) {t : Timer Cb} (ht : t ∈ s.timers) :
    (s.clear t).Coherent := by
  refine ⟨fun u hu => ?_, fun id g hid => ?_, fun u hu => ?_, ?_⟩
  · simp only [clear, List.mem_filter, decide_eq_true_eq] at hu
    have hne : u.id ≠ t.id := fun he => hu.2 (congrArg Timer.handle (hs.eq_of_id hu.1 ht he))
    simpa [clear, Function.update_of_ne hne] using hs.registered u hu.1
  · by_cases he : id = t.id
    · subst he
      simp [clear] at hid
    · simp only [clear, Function.update_of_ne he] at hid
      obtain ⟨u, hu, rfl, rfl⟩ := hs.running id g hid
      have hne : u.handle ≠ t.handle := fun hh => he (by rw [hs.eq_of_handle hu ht hh])
      exact ⟨u, List.mem_filter.2 ⟨hu, decide_eq_true hne⟩, rfl, rfl⟩
  · exact hs.lt_next u (List.mem_filter.1 hu).1
  · exact hs.nodup.sublist (List.filter_sublist.map _)

theorem mem_modifyCb {h : ℕ} {f : Cb → Cb} {t : Timer Cb} (ht : t ∈ (s.modifyCb h f).timers) :
    ∃ u ∈ s.timers, t.handle = u.handle ∧ t.id = u.id := by
  obtain ⟨u, hu, rfl⟩ := List.mem_map.1 ht
  refine ⟨u, hu, ?_⟩
  split <;> exact ⟨rfl, rfl⟩

/-- What a timer has as its callback does not matter to the registry. -/
theorem coherent_modifyCb (hs : s.Coherent) (h : ℕ) (f : Cb → Cb) :
    (s.modifyCb h f).Coherent := by
  refine ⟨fun t ht => ?_, fun id g hid => ?_, fun t ht => ?_, ?_⟩
  · obtain ⟨u, hu, hhandle, hid⟩ := mem_modifyCb ht
    rw [hhandle, hid]
    exact hs.registered u hu
  · obtain ⟨u, hu, rfl, rfl⟩ := hs.running id g hid
    refine ⟨_, List.mem_map_of_mem hu, ?_⟩
    split <;> exact ⟨rfl, rfl⟩
  · obtain ⟨u, hu, hhandle, -⟩ := mem_modifyCb ht
    exact hhandle ▸ hs.lt_next u hu
  · have hhandles : (s.modifyCb h f).timers.map Timer.handle = s.timers.map Timer.handle := by
      simp only [modifyCb, List.map_map]
      refine List.map_congr_left fun u _ => ?_
      simp only [Function.comp_apply]
      split <;> rfl
    exact hhandles ▸ hs.nodup

theorem deleteTimeout_of_registered (hs : s.Coherent) {id : String} {h : ℕ}
    (hid : s.timeouts id = some h) :
    ∃ t ∈ s.timers, t.handle = h ∧ s.deleteTimeout id = some (s.clear t) := by
  obtain ⟨t, ht, rfl, rfl⟩ := hs.running id h hid
  exact ⟨t, ht, rfl, by rw [deleteTimeout, hid]; rfl⟩

theorem fire_of_coherent (hs : s.Coherent) {h : ℕ} {s' : ScheduleService Cb} {r : Option Cb}
    (hf : s.fire h = some (s', r)) :
    ∃ t ∈ s.timers, t.handle = h ∧ s' = s.clear t ∧ r = some t.cb := by
  obtain ⟨t, hfind, hres⟩ := Option.map_eq_some_iff.1 hf
  have ht : t ∈ s.timers := List.mem_of_find?_eq_some hfind
  have hth : t.handle = h := by simpa using List.find?_some hfind
  have hfilter : (s.timers.filter fun u => u.handle ≠ h).filter (fun u => u.handle ≠ t.handle) =
      s.timers.filter fun u => u.handle ≠ t.handle := by
    simp [hth, List.filter_filter]
  simp only [deleteTimeout, hs.registered t ht, Option.map_some, Prod.mk.injEq, hfilter] at hres
  exact ⟨t, ht, hth, hres.1.symm, hres.2.symm⟩

/-- **A timer that fires** in a coherent schedule runs its callback, once, and the schedule
without it is coherent: its id is free again, and no other id is affected. -/
theorem fire_spec (hs : s.Coherent) {h : ℕ} {s' : ScheduleService Cb} {r : Option Cb}
    (hf : s.fire h = some (s', r)) :
    ∃ t ∈ s.timers, r = some t.cb ∧ s'.Coherent ∧
      s'.timeouts = Function.update s.timeouts t.id none ∧
      s'.timers = s.timers.filter fun u => u.handle ≠ t.handle := by
  obtain ⟨t, ht, -, rfl, rfl⟩ := fire_of_coherent hs hf
  exact ⟨t, ht, rfl, coherent_clear hs ht, rfl, rfl⟩

/-- The timers running under a registered id: exactly one. -/
theorem Coherent.length_filter_id (hs : s.Coherent) (id : String) :
    (s.timers.filter fun t => t.id = id).length = if (s.timeouts id).isSome then 1 else 0 := by
  cases hreg : s.timeouts id with
  | none =>
    have hnil : s.timers.filter (fun t => t.id = id) = [] := by
      refine List.filter_eq_nil_iff.2 fun t ht hid => ?_
      have := hs.registered t ht
      rw [of_decide_eq_true hid, hreg] at this
      cases this
    simp [hnil]
  | some h =>
    obtain ⟨t, ht, rfl, rfl⟩ := hs.running id h hreg
    have hall : ∀ u ∈ s.timers.filter (fun u => u.id = t.id), u = t := by
      intro u hu
      simp only [List.mem_filter, decide_eq_true_eq] at hu
      exact hs.eq_of_id hu.1 ht hu.2
    have hnodup : (s.timers.filter fun u => u.id = t.id).Nodup :=
      (List.Nodup.of_map _ hs.nodup).filter _
    have hmem : t ∈ s.timers.filter fun u => u.id = t.id := by simpa using ht
    rw [List.eq_replicate_of_mem hall, List.nodup_replicate] at hnodup
    have hpos := List.length_pos_of_mem hmem
    simp only [Option.isSome_some, if_true]
    omega

end ScheduleService

end PolymeshRest
