import PolymeshRest.Schedule.Basic

/-!
# Attempts that reschedule themselves

A task that is retried from a timer is, at any moment, waiting for its timer, running, or
neither.  `Attempts Pc` holds the schedule and, for every entity, the attempts under way for it,
each at a suspension point `Pc`; nothing in the data says that an entity has only one.

`Attempts.Tracks` does: it gives every entity one `Slot` and says the schedule and the running
attempts are exactly what the slots show.  Each operation of an attempt changes the slot of its
own entity only:

* `tracks_start` : starting a timer for an idle entity,
* `tracks_fire` : a timer that fires,
* `tracks_settle` : a running attempt that moves on or ends,
* `tracks_proceed` : the same, for an attempt that may also start its own next timer.

So "at most one timer or attempt" (`outstanding_eq`) is kept by anything built from them.
-/

namespace PolymeshRest

/-- The timers and the running attempts of a family of retried tasks, one task per entity. -/
structure Attempts (Pc : Type*) where
  schedule : ScheduleService ℕ
  /-- The attempts under way for each entity. -/
  running : ℕ → List Pc

/-- What an entity's task is doing. -/
inductive Slot (Pc : Type*) where
  /-- Neither a timer nor an attempt. -/
  | idle
  /-- A timer is pending. -/
  | scheduled
  /-- An attempt is under way. -/
  | running (pc : Pc)

/-- How an attempt goes on once the call it awaits has ended. -/
inductive After (Pc : Type*) where
  /-- It awaits its next call, at `pc`. -/
  | suspend (pc : Pc)
  /-- It returns, or throws into the scheduler's wrapper. -/
  | finish
  /-- It adds the timer of the next attempt and returns. -/
  | reschedule

/-- The attempts a slot stands for. -/
def Slot.attempts {Pc : Type*} : Slot Pc → List Pc
  | .running pc => [pc]
  | _ => []

/-- The slot an attempt leaves its entity with. -/
def After.slot {Pc : Type*} : After Pc → Slot Pc
  | .suspend pc => .running pc
  | .finish => .idle
  | .reschedule => .scheduled

namespace Attempts

variable {Pc : Type*} (taskId : ℕ → String)

def empty : Attempts Pc := ⟨.empty, fun _ => []⟩

/-- Start a timer for entity `id`. -/
def start (a : Attempts Pc) (id : ℕ) : Attempts Pc :=
  { a with schedule := (a.schedule.addTimeout (taskId id) id).1 }

/-- A timer fires; its callback starts an attempt at `first`. -/
def fire (first : Pc) (a : Attempts Pc) (h : ℕ) : Option (Attempts Pc) :=
  (a.schedule.fire h).map fun
    | (s, none) => { a with schedule := s }
    | (s, some id) =>
      { schedule := s, running := Function.update a.running id (a.running id ++ [first]) }

/-- The `i`-th attempt of entity `id` moves on to `pc'`, or ends. -/
def settle (a : Attempts Pc) (id i : ℕ) (pc' : Option Pc) : Attempts Pc :=
  { a with
    running := Function.update a.running id
      (match pc' with
        | some pc => (a.running id).set i pc
        | none => (a.running id).eraseIdx i) }

/-- The `i`-th attempt of entity `id` goes on as `after` says. -/
def proceed (a : Attempts Pc) (id i : ℕ) : After Pc → Attempts Pc
  | .suspend pc => a.settle id i (some pc)
  | .finish => a.settle id i none
  | .reschedule => (a.settle id i none).start taskId id

/-- The number of timers and attempts of an entity. -/
def outstanding (a : Attempts Pc) (id : ℕ) : ℕ :=
  (a.schedule.timers.filter fun t => t.cb = id).length + (a.running id).length

/-- The slots show the timers and the attempts exactly. -/
structure Tracks (a : Attempts Pc) (slots : ℕ → Slot Pc) : Prop where
  coherent : a.schedule.Coherent
  /-- Every timer was added under the task id of its entity. -/
  id_eq : ∀ t ∈ a.schedule.timers, t.id = taskId t.cb
  timer_iff : ∀ id, (a.schedule.timeouts (taskId id)).isSome ↔ slots id = .scheduled
  running_eq : ∀ id, a.running id = (slots id).attempts

variable {taskId} {a : Attempts Pc} {slots : ℕ → Slot Pc}

theorem tracks_empty : (empty : Attempts Pc).Tracks taskId fun _ => .idle where
  coherent := ScheduleService.coherent_empty
  id_eq := by simp [empty, ScheduleService.empty]
  timer_iff := by simp [empty, ScheduleService.empty]
  running_eq := by simp [empty, Slot.attempts]

theorem Tracks.timeouts_eq_none (h : a.Tracks taskId slots) {id : ℕ} (hid : slots id ≠ .scheduled) :
    a.schedule.timeouts (taskId id) = none := by
  rw [← Option.not_isSome_iff_eq_none, h.timer_iff]
  exact hid

theorem Tracks.slot_of_getElem? (h : a.Tracks taskId slots) {id i : ℕ} {pc : Pc}
    (hpc : (a.running id)[i]? = some pc) : slots id = .running pc ∧ i = 0 := by
  rw [h.running_eq] at hpc
  cases hs : slots id with
  | idle => simp [hs, Slot.attempts] at hpc
  | scheduled => simp [hs, Slot.attempts] at hpc
  | running pc' =>
    simp only [hs, Slot.attempts, List.getElem?_singleton] at hpc
    split_ifs at hpc with hi
    cases hpc
    exact ⟨rfl, hi⟩

theorem tracks_start (htask : Function.Injective taskId) (h : a.Tracks taskId slots) {id : ℕ}
    (hid : slots id = .idle) :
    (a.start taskId id).Tracks taskId (Function.update slots id .scheduled) := by
  have hfree : a.schedule.timeouts (taskId id) = none := h.timeouts_eq_none (by simp [hid])
  have hadd := ScheduleService.addTimeout_of_free id hfree
  refine ⟨ScheduleService.coherent_addTimeout h.coherent id hfree, fun t ht => ?_, fun k => ?_,
    fun k => ?_⟩
  · simp only [start, hadd, List.mem_cons] at ht
    rcases ht with rfl | ht
    · rfl
    · exact h.id_eq t ht
  · simp only [start, hadd]
    by_cases hk : k = id
    · subst hk
      simp
    · rw [Function.update_of_ne (htask.ne hk), Function.update_of_ne hk]
      exact h.timer_iff k
  · change a.running k = _
    by_cases hk : k = id
    · subst hk
      rw [h.running_eq, hid, Function.update_self]
      rfl
    · rw [Function.update_of_ne hk]
      exact h.running_eq k

/-- **A timer that fires** belongs to a scheduled entity, and starts its one attempt. -/
theorem tracks_fire (htask : Function.Injective taskId) (h : a.Tracks taskId slots) {first : Pc}
    {g : ℕ} {a' : Attempts Pc} (hf : a.fire first g = some a') :
    ∃ id, slots id = .scheduled ∧
      a'.Tracks taskId (Function.update slots id (.running first)) := by
  obtain ⟨⟨s, r⟩, hfire, hres⟩ := Option.map_eq_some_iff.1 hf
  obtain ⟨t, ht, rfl, hcoh, htimeouts, htimers⟩ := ScheduleService.fire_spec h.coherent hfire
  have htid := h.id_eq t ht
  have hslot : slots t.cb = .scheduled := by
    rw [← h.timer_iff, ← htid, h.coherent.registered t ht]
    rfl
  subst hres
  refine ⟨t.cb, hslot, hcoh, fun u hu => ?_, fun k => ?_, fun k => ?_⟩
  · simp only [htimers] at hu
    exact h.id_eq u (List.mem_filter.1 hu).1
  · simp only [htimeouts, htid]
    by_cases hk : k = t.cb
    · subst hk
      simp
    · rw [Function.update_of_ne (htask.ne hk), Function.update_of_ne hk]
      exact h.timer_iff k
  · by_cases hk : k = t.cb
    · subst hk
      simp [h.running_eq, hslot, Slot.attempts]
    · simp only [Function.update_of_ne hk]
      exact h.running_eq k

/-- A running attempt that moves on to `pc'`, or ends, changes its entity's slot only. -/
theorem tracks_settle (h : a.Tracks taskId slots) {id i : ℕ} {pc : Pc}
    (hpc : (a.running id)[i]? = some pc) (pc' : Option Pc) :
    (a.settle id i pc').Tracks taskId
      (Function.update slots id (pc'.elim .idle .running)) := by
  obtain ⟨hslot, rfl⟩ := h.slot_of_getElem? hpc
  refine ⟨h.coherent, h.id_eq, fun k => ?_, fun k => ?_⟩
  · change (a.schedule.timeouts (taskId k)).isSome ↔ _
    rw [h.timer_iff]
    by_cases hk : k = id
    · subst hk
      cases pc' <;> simp [hslot]
    · rw [Function.update_of_ne hk]
  · by_cases hk : k = id
    · subst hk
      cases pc' <;> simp [settle, h.running_eq, hslot, Slot.attempts]
    · simp only [settle, Function.update_of_ne hk]
      exact h.running_eq k

theorem tracks_proceed (htask : Function.Injective taskId) (h : a.Tracks taskId slots) {id i : ℕ}
    {pc : Pc} (hpc : (a.running id)[i]? = some pc) (after : After Pc) :
    (a.proceed taskId id i after).Tracks taskId (Function.update slots id after.slot) := by
  cases after with
  | suspend pc' => exact tracks_settle h hpc (some pc')
  | finish => exact tracks_settle h hpc none
  | reschedule =>
    have hslot : Function.update slots id (.idle : Slot Pc) id = .idle := Function.update_self ..
    have hstart := tracks_start htask (tracks_settle h hpc none) hslot
    rwa [Function.update_idem] at hstart

/-- **An entity has at most one timer or attempt**, and none exactly when its slot is idle. -/
theorem Tracks.outstanding_eq (h : a.Tracks taskId slots) (htask : Function.Injective taskId)
    (id : ℕ) : a.outstanding id = match slots id with
      | .idle => 0
      | _ => 1 := by
  have hcb : (a.schedule.timers.filter fun t => t.cb = id) =
      a.schedule.timers.filter fun t => t.id = taskId id := by
    refine List.filter_congr fun t ht => ?_
    simp only [h.id_eq t ht, htask.eq_iff]
  have htimer := h.timer_iff id
  rw [outstanding, hcb, h.coherent.length_filter_id, h.running_eq]
  cases hs : slots id <;> simp_all [Slot.attempts]

theorem Tracks.outstanding_le_one (h : a.Tracks taskId slots) (htask : Function.Injective taskId)
    (id : ℕ) : a.outstanding id ≤ 1 := by
  rw [h.outstanding_eq htask]
  split <;> omega

/-! ### What an operation starts -/

/-- The entity has a timer or an attempt. -/
def Busy (a : Attempts Pc) (id : ℕ) : Prop :=
  (∃ t ∈ a.schedule.timers, t.cb = id) ∨ a.running id ≠ []

instance (a : Attempts Pc) (id : ℕ) : Decidable (a.Busy id) :=
  inferInstanceAs (Decidable (_ ∨ _))

theorem not_busy_empty (id : ℕ) : ¬ (empty : Attempts Pc).Busy id := by
  rintro (⟨t, ht, -⟩ | hrunning)
  · cases ht
  · exact hrunning rfl

theorem busy_of_getElem? {id i : ℕ} {pc : Pc} (hpc : (a.running id)[i]? = some pc) : a.Busy id :=
  .inr (List.ne_nil_of_mem (List.mem_of_getElem? hpc))

theorem Tracks.ne_idle_of_busy (h : a.Tracks taskId slots) {id : ℕ} (hbusy : a.Busy id) :
    slots id ≠ .idle := by
  intro hidle
  obtain ⟨t, ht, rfl⟩ | hrunning := hbusy
  · have hregistered := h.coherent.registered t ht
    rw [h.id_eq t ht, h.timeouts_eq_none (by simp [hidle])] at hregistered
    cases hregistered
  · rw [h.running_eq, hidle] at hrunning
    exact hrunning rfl

theorem busy_start {id k : ℕ} (h : (a.start taskId id).Busy k) : a.Busy k ∨ k = id := by
  obtain ⟨t, ht, rfl⟩ | hrunning := h
  · obtain hold | hnew := ScheduleService.mem_timers_addTimeout ht
    · exact .inl (.inl ⟨t, hold, rfl⟩)
    · exact .inr hnew
  · exact .inl (.inr hrunning)

theorem fire_cases {first : Pc} {g : ℕ} {a' : Attempts Pc} (hf : a.fire first g = some a') :
    (∀ t ∈ a'.schedule.timers, t ∈ a.schedule.timers) ∧ (a'.running = a.running ∨
      ∃ t ∈ a.schedule.timers,
        a'.running = Function.update a.running t.cb (a.running t.cb ++ [first])) := by
  obtain ⟨⟨s, r⟩, hfire, hres⟩ := Option.map_eq_some_iff.1 hf
  obtain ⟨htimers, hcb⟩ := ScheduleService.timers_fire hfire
  cases r with
  | none =>
    subst hres
    exact ⟨htimers, .inl rfl⟩
  | some id =>
    subst hres
    obtain ⟨t, ht, rfl⟩ := hcb id rfl
    exact ⟨htimers, .inr ⟨t, ht, rfl⟩⟩

theorem busy_fire {first : Pc} {g k : ℕ} {a' : Attempts Pc} (hf : a.fire first g = some a')
    (h : a'.Busy k) : a.Busy k := by
  obtain ⟨htimers, hrunning⟩ := fire_cases hf
  obtain ⟨t, ht, rfl⟩ | hk := h
  · exact .inl ⟨t, htimers t ht, rfl⟩
  · obtain hsame | ⟨t, ht, hnew⟩ := hrunning
    · exact .inr (hsame ▸ hk)
    · by_cases hid : k = t.cb
      · exact .inl ⟨t, ht, hid.symm⟩
      · rw [hnew, Function.update_of_ne hid] at hk
        exact .inr hk

theorem mem_running_fire {first pc : Pc} {g k : ℕ} {a' : Attempts Pc}
    (hf : a.fire first g = some a') (hpc : pc ∈ a'.running k) : pc ∈ a.running k ∨ pc = first := by
  obtain hsame | ⟨t, -, hnew⟩ := (fire_cases hf).2
  · exact .inl (hsame ▸ hpc)
  · rw [hnew] at hpc
    by_cases hid : k = t.cb
    · subst hid
      rw [Function.update_self, List.mem_append, List.mem_singleton] at hpc
      exact hpc
    · rw [Function.update_of_ne hid] at hpc
      exact .inl hpc

/-- The attempts after one has gone on are those before it, and the one that has. -/
theorem mem_running_proceed {id i k : ℕ} {after : After Pc} {pc : Pc}
    (hpc : pc ∈ (a.proceed taskId id i after).running k) :
    pc ∈ a.running k ∨ k = id ∧ after = .suspend pc := by
  have hsettle : ∀ pc' : Option Pc, pc ∈ (a.settle id i pc').running k →
      pc ∈ a.running k ∨ k = id ∧ pc' = some pc := by
    intro pc' hmem
    simp only [settle] at hmem
    by_cases hk : k = id
    · subst hk
      rw [Function.update_self] at hmem
      cases pc' with
      | none => exact .inl (List.mem_of_mem_eraseIdx hmem)
      | some pc' =>
        obtain hold | rfl := List.mem_or_eq_of_mem_set hmem
        · exact .inl hold
        · exact .inr ⟨rfl, rfl⟩
    · rw [Function.update_of_ne hk] at hmem
      exact .inl hmem
  cases after with
  | suspend pc' =>
    obtain hold | ⟨hk, heq⟩ := hsettle (some pc') hpc
    · exact .inl hold
    · exact .inr ⟨hk, by rw [Option.some.inj heq]⟩
  | finish | reschedule =>
    obtain hold | ⟨-, heq⟩ := hsettle none hpc
    · exact .inl hold
    · cases heq

theorem busy_proceed {id i k : ℕ} {pc : Pc} (hpc : (a.running id)[i]? = some pc) {after : After Pc}
    (h : (a.proceed taskId id i after).Busy k) : a.Busy k := by
  by_cases hk : k = id
  · subst hk
    exact busy_of_getElem? hpc
  · obtain ⟨t, ht, rfl⟩ | hrunning := h
    · refine .inl ⟨t, ?_, rfl⟩
      cases after with
      | suspend pc' => exact ht
      | finish => exact ht
      | reschedule =>
        obtain hold | hnew := ScheduleService.mem_timers_addTimeout ht
        · exact hold
        · exact absurd hnew hk
    · obtain ⟨pc', hpc'⟩ := List.exists_mem_of_ne_nil _ hrunning
      obtain hold | ⟨hid, -⟩ := mem_running_proceed hpc'
      · exact .inr (List.ne_nil_of_mem hold)
      · exact absurd hid hk

end Attempts

end PolymeshRest
