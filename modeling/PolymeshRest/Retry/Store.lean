import PolymeshRest.Data.Table
import PolymeshRest.Machine.Basic
import PolymeshRest.Retry.Basic
import PolymeshRest.Schedule.Attempts

/-!
# A table of retried tasks

A service that retries one task for each row of a table: the row holds the task's status and the
tries left, a timer starts an attempt, and an attempt ends by settling the row or by starting the
next timer.  Several attempts interleave freely.

## Main definitions

* `TaskStore` : the rows, what is under way for each, and what was sent and failed so far.
* `TaskStore.create`, `TaskStore.fire`, `TaskStore.commit` : the steps.
* `TaskStore.Tracked` : the slots show what is under way for each row.
* `TaskView` : how a row and an attempt are read as a state of the bounded retry loop.
* `TaskStore.Retries` : the steps of a machine, seen through its task store, are moves of the
  retry loop for every row.

## Main results

* `TaskStore.tracked_create`, `tracked_fire`, `tracked_commit` : the slots follow the steps.
* `TaskStore.refines_create`, `refines_fire`, `refines_commit` : they are moves of the retry loop.
* `TaskStore.Retries.inv_reaches`, `TaskStore.Retries.settled` : so the invariant of the retry
  loop holds of every row along a run, and a settled row is never attempted again.
-/

namespace PolymeshRest

/-- The rows of retried tasks, what is under way for each, and what was done for each so far. -/
structure TaskStore (Row : Type*) (key : Row → ℕ) (Pc Post : Type*) where
  repo : Table Row key
  tasks : Attempts Pc
  /-- What was sent for a row. -/
  posts : ℕ → List Post
  /-- The attempts for a row that failed. -/
  failures : ℕ → ℕ

/-- What an attempt does between two calls it awaits. -/
structure Effect {Row : Type*} (key : Row → ℕ) (Pc Post : Type*) where
  /-- What is written to its row. -/
  write : Option (Table.Rewrite key) := none
  post : Option Post := none
  /-- The attempt ends as a failed one. -/
  failed : Bool := false
  after : After Pc

/-- How a row and an attempt for it are read as a state of the retry loop. -/
structure TaskView (Row Pc : Type*) where
  status : Row → Retry.Status
  triesLeft : Row → ℤ
  phase : Pc → Retry.Phase
  phase_ne_idle : ∀ pc, phase pc ≠ .idle

/-- The phase of a slot. -/
def TaskView.slotPhase {Row Pc : Type*} (v : TaskView Row Pc) : Slot Pc → Retry.Phase
  | .idle => .idle
  | .scheduled => .scheduled
  | .running pc => v.phase pc

theorem TaskView.slotPhase_eq_idle {Row Pc : Type*} {v : TaskView Row Pc} {slot : Slot Pc} :
    v.slotPhase slot = .idle ↔ slot = .idle := by
  cases slot with
  | idle | scheduled => simp [slotPhase]
  | running pc => simp [slotPhase, v.phase_ne_idle pc]

namespace TaskStore

variable {Row : Type*} {key : Row → ℕ} {Pc Post : Type*} (taskId : ℕ → String)

def empty : TaskStore Row key Pc Post := ⟨.empty, .empty, fun _ => [], fun _ => 0⟩

/-- Store a new row, and start the timer of its first attempt. -/
def create (t : TaskStore Row key Pc Post) (mk : ℕ → Row) (hmk : ∀ k, key (mk k) = k) :
    TaskStore Row key Pc Post :=
  { t with
    repo := t.repo.insert mk hmk
    tasks := t.tasks.start taskId (t.repo.currentId + 1) }

/-- A timer fires; it starts an attempt at `first`. -/
def fire (first : Pc) (t : TaskStore Row key Pc Post) (handle : ℕ) :
    Option (TaskStore Row key Pc Post) :=
  (t.tasks.fire first handle).map fun tasks => { t with tasks }

/-- The `i`-th attempt for the row `id` has its effect. -/
def commit (t : TaskStore Row key Pc Post) (id i : ℕ) (e : Effect key Pc Post) :
    TaskStore Row key Pc Post where
  repo := match e.write with
    | some w => t.repo.update id w
    | none => t.repo
  tasks := t.tasks.proceed taskId id i e.after
  posts := Function.update t.posts id (t.posts id ++ e.post.toList)
  failures := Function.update t.failures id (t.failures id + e.failed.toNat)

/-- The call the `i`-th attempt for the row `id` awaits ends; `step` says what the attempt then
does. -/
def resume {Reply : Type*} (step : Pc → Reply → Option (Effect key Pc Post))
    (t : TaskStore Row key Pc Post) (id i : ℕ) (reply : Reply) :
    Option (TaskStore Row key Pc Post) :=
  ((t.tasks.running id)[i]?.bind fun pc => step pc reply).map (t.commit taskId id i)

/-- What an effect makes of its row. -/
def rewrite (e : Effect key Pc Post) (row : Row) : Row :=
  match e.write with
  | some w => w.apply row
  | none => row

/-- The slots show what is under way for each row; there is nothing for an id without a row. -/
structure Tracked (t : TaskStore Row key Pc Post) (slots : ℕ → Slot Pc) : Prop where
  tracks : t.tasks.Tracks taskId slots
  fresh : ∀ id, t.repo.rows id = none → slots id = .idle ∧ t.posts id = [] ∧ t.failures id = 0

variable {taskId} {t t' : TaskStore Row key Pc Post} {slots slots' : ℕ → Slot Pc}

theorem commit_rows {id i : ℕ} {e : Effect key Pc Post} (k : ℕ) :
    (t.commit taskId id i e).repo.rows k =
      if k = id then (t.repo.rows k).map (rewrite e) else t.repo.rows k := by
  unfold commit rewrite
  cases e.write with
  | some w => exact Table.update_rows k
  | none => simp

theorem resume_eq_some {Reply : Type*} {step : Pc → Reply → Option (Effect key Pc Post)}
    {id i : ℕ} {reply : Reply} : t.resume taskId step id i reply = some t' ↔
      ∃ pc e, (t.tasks.running id)[i]? = some pc ∧ step pc reply = some e ∧
        t' = t.commit taskId id i e := by
  simp only [resume, Option.map_eq_some_iff, Option.bind_eq_some_iff]
  constructor
  · rintro ⟨e, ⟨pc, hpc, he⟩, rfl⟩
    exact ⟨pc, e, hpc, he, rfl⟩
  · rintro ⟨pc, e, hpc, he, rfl⟩
    exact ⟨e, ⟨pc, hpc, he⟩, rfl⟩

/-! ### The slots follow the steps -/

theorem tracked_empty :
    Tracked taskId (empty : TaskStore Row key Pc Post) fun _ => .idle where
  tracks := Attempts.tracks_empty
  fresh _ _ := ⟨rfl, rfl, rfl⟩

theorem Tracked.exists_row (h : Tracked taskId t slots) {id : ℕ} (hid : slots id ≠ .idle) :
    ∃ row, t.repo.rows id = some row := by
  rw [← Option.ne_none_iff_exists']
  exact fun hnone => hid (h.fresh id hnone).1

/-- The next row has nothing under way yet. -/
theorem Tracked.idle_next (h : Tracked taskId t slots) :
    slots (t.repo.currentId + 1) = .idle :=
  (h.fresh _ Table.rows_next).1

theorem tracked_create (htask : Function.Injective taskId) (h : Tracked taskId t slots)
    (mk : ℕ → Row) (hmk : ∀ k, key (mk k) = k) :
    Tracked taskId (t.create taskId mk hmk)
      (Function.update slots (t.repo.currentId + 1) .scheduled) := by
  refine ⟨Attempts.tracks_start htask h.tracks h.idle_next, fun k hk => ?_⟩
  simp only [create, Table.insert_rows] at hk
  split_ifs at hk with hne
  rw [Function.update_of_ne hne]
  exact h.fresh k hk

theorem tracked_fire (htask : Function.Injective taskId) (h : Tracked taskId t slots) {first : Pc}
    {handle : ℕ} (hf : t.fire first handle = some t') :
    ∃ id row tasks, slots id = .scheduled ∧ t.repo.rows id = some row ∧ t' = { t with tasks } ∧
      Tracked taskId t' (Function.update slots id (.running first)) := by
  obtain ⟨tasks, hfire, rfl⟩ := Option.map_eq_some_iff.1 hf
  obtain ⟨id, hid, htracks⟩ := Attempts.tracks_fire htask h.tracks hfire
  have hbusy : slots id ≠ .idle := by simp [hid]
  obtain ⟨row, hrow⟩ := h.exists_row hbusy
  refine ⟨id, row, tasks, hid, hrow, rfl, htracks, fun k hk => ?_⟩
  have hne : k ≠ id := by
    rintro rfl
    simp [hrow] at hk
  rw [Function.update_of_ne hne]
  exact h.fresh k hk

theorem Tracked.attempt (h : Tracked taskId t slots) {id i : ℕ} {pc : Pc}
    (hpc : (t.tasks.running id)[i]? = some pc) :
    slots id = .running pc ∧ ∃ row, t.repo.rows id = some row := by
  have hslot := (h.tracks.slot_of_getElem? hpc).1
  have hbusy : slots id ≠ .idle := by simp [hslot]
  exact ⟨hslot, h.exists_row hbusy⟩

theorem tracked_commit (htask : Function.Injective taskId) (h : Tracked taskId t slots)
    {id i : ℕ} {pc : Pc} (hpc : (t.tasks.running id)[i]? = some pc) (e : Effect key Pc Post) :
    Tracked taskId (t.commit taskId id i e) (Function.update slots id e.after.slot) := by
  obtain ⟨hslot, row, hrow⟩ := h.attempt hpc
  refine ⟨Attempts.tracks_proceed htask h.tracks hpc e.after, fun k hk => ?_⟩
  rw [commit_rows] at hk
  have hne : k ≠ id := by
    rintro rfl
    simp [hrow] at hk
  simp only [commit, Function.update_of_ne hne]
  exact h.fresh k (by simpa [hne] using hk)

theorem tracked_update (h : Tracked taskId t slots) (id : ℕ) (w : Table.Rewrite key) :
    Tracked taskId { t with repo := t.repo.update id w } slots := by
  refine ⟨h.tracks, fun k hk => h.fresh k ?_⟩
  simp only [Table.update_rows] at hk
  split_ifs at hk with hid
  · simpa using hk
  · exact hk

/-! ### The steps as moves of the retry loop -/

variable {v : TaskView Row Pc} {max : ℤ}

/-- One row as a state of the retry loop. -/
def view (v : TaskView Row Pc) (t : TaskStore Row key Pc Post) (slot : Slot Pc) (row : Row) :
    Retry.State where
  status := v.status row
  phase := v.slotPhase slot
  triesLeft := v.triesLeft row
  failures := t.failures (key row)
  sends := (t.posts (key row)).length

/-- The rows after a step are those before it, each moved on by its retry loop, and new ones with
`max` tries. -/
structure Refines (v : TaskView Row Pc) (max : ℤ) (t : TaskStore Row key Pc Post)
    (slots : ℕ → Slot Pc) (t' : TaskStore Row key Pc Post) (slots' : ℕ → Slot Pc) : Prop where
  kept : ∀ id row, t.repo.rows id = some row →
    ∃ row', t'.repo.rows id = some row' ∧
      Retry.Moves (view v t (slots id) row) (view v t' (slots' id) row')
  created : ∀ id row, t.repo.rows id = none → t'.repo.rows id = some row →
    view v t' (slots' id) row = Retry.init max

theorem Refines.refl : Refines v max t slots t slots where
  kept _ row hrow := ⟨row, hrow, .refl _⟩
  created _ _ hnone hrow := by simp [hnone] at hrow

theorem refines_create (h : Tracked taskId t slots) {mk : ℕ → Row} (hmk : ∀ k, key (mk k) = k)
    (hstatus : ∀ k, v.status (mk k) = .waiting) (htries : ∀ k, v.triesLeft (mk k) = max) :
    Refines v max t slots (t.create taskId mk hmk)
      (Function.update slots (t.repo.currentId + 1) .scheduled) := by
  refine ⟨fun id row hrow => ?_, fun id row hnone hrow => ?_⟩
  · have hne : id ≠ t.repo.currentId + 1 := by
      rintro rfl
      simp at hrow
    refine ⟨row, Table.insert_rows_of_some hmk hrow, ?_⟩
    rw [Function.update_of_ne hne]
    exact .refl _
  · simp only [create, Table.insert_rows] at hrow
    split_ifs at hrow with hid
    · cases hrow
      have hfresh := h.fresh id hnone
      rw [hid] at hfresh
      simp [view, create, Retry.init, TaskView.slotPhase, hid, hmk, hstatus, htries, hfresh]
    · simp [hnone] at hrow

theorem refines_fire {first : Pc} (hfirst : v.phase first = .started) {id : ℕ}
    (hid : slots id = .scheduled) (tasks : Attempts Pc) :
    Refines v max t slots { t with tasks } (Function.update slots id (.running first)) := by
  refine ⟨fun k row hrow => ⟨row, hrow, ?_⟩, fun k row hnone hrow => by simp [hnone] at hrow⟩
  by_cases hk : k = id
  · subst hk
    refine .step .fire ?_
    simp [view, TaskView.slotPhase, Retry.next, hid, hfirst]
  · rw [Function.update_of_ne hk]
    exact .refl _

/-- A step of an attempt is a move for its own row, if what it does there is one, and for no
other row. -/
theorem refines_commit {id i : ℕ} {e : Effect key Pc Post} {row : Row}
    (hrow : t.repo.rows id = some row)
    (hmove : Retry.Moves (view v t (slots id) row)
      (view v (t.commit taskId id i e) e.after.slot (rewrite e row))) :
    Refines v max t slots (t.commit taskId id i e) (Function.update slots id e.after.slot) := by
  refine ⟨fun k other hother => ?_, fun k other hnone hother => ?_⟩
  · by_cases hk : k = id
    · subst hk
      obtain rfl : row = other := Option.some.inj (hrow.symm.trans hother)
      refine ⟨rewrite e row, by simp [commit_rows, hrow], ?_⟩
      rwa [Function.update_self]
    · refine ⟨other, by simp [commit_rows, hk, hother], ?_⟩
      have hkey : key other ≠ id := by rwa [t.repo.key_eq hother]
      rw [Function.update_of_ne hk]
      simp only [view, commit, Function.update_of_ne hkey]
      exact .refl _
  · rw [commit_rows] at hother
    split_ifs at hother <;> simp [hnone] at hother

/-- Rewriting a row from outside is a move if the retry loop cannot tell the difference. -/
theorem refines_update {id : ℕ} {w : Table.Rewrite key} {row : Row}
    (hrow : t.repo.rows id = some row) (hstatus : v.status (w.apply row) = v.status row)
    (htries : v.triesLeft (w.apply row) = v.triesLeft row) :
    Refines v max t slots { t with repo := t.repo.update id w } slots := by
  refine ⟨fun k other hother => ?_, fun k other hnone hother => ?_⟩
  · by_cases hk : k = id
    · subst hk
      obtain rfl : row = other := Option.some.inj (hrow.symm.trans hother)
      refine ⟨w.apply row, by simp [Table.update_rows, hrow], ?_⟩
      simp only [view, hstatus, htries, w.key_apply]
      exact .refl _
    · exact ⟨other, by simp [Table.update_rows, hk, hother], .refl _⟩
  · simp only [Table.update_rows] at hother
    split_ifs at hother <;> simp [hnone] at hother

/-! ### Runs -/

/-- Every row is in a state the retry loop can be in. -/
structure Inv (taskId : ℕ → String) (v : TaskView Row Pc) (max : ℤ)
    (t : TaskStore Row key Pc Post) (slots : ℕ → Slot Pc) : Prop where
  tracked : Tracked taskId t slots
  retry : ∀ id row, t.repo.rows id = some row → Retry.Inv max (view v t (slots id) row)

theorem inv_empty :
    Inv taskId v max (empty : TaskStore Row key Pc Post) fun _ => .idle where
  tracked := tracked_empty
  retry _ _ h := nomatch h

theorem Inv.next (hmax : 1 ≤ max) (h : Inv taskId v max t slots)
    (htracked : Tracked taskId t' slots') (hrefines : Refines v max t slots t' slots') :
    Inv taskId v max t' slots' := by
  refine ⟨htracked, fun id row hrow => ?_⟩
  cases hold : t.repo.rows id with
  | none =>
    rw [hrefines.created id row hold hrow]
    exact Retry.inv_init hmax
  | some old =>
    obtain ⟨row', hrow', hmoves⟩ := hrefines.kept id old hold
    obtain rfl : row = row' := Option.some.inj (hrow.symm.trans hrow')
    exact (h.retry id old hold).moves hmoves

variable {S A : Type*}

/-- The steps of `M` that meet `C`, seen through the task store of the states, are moves of the
retry loop for every row. -/
def Retries (taskId : ℕ → String) (v : TaskView Row Pc) (max : ℤ) (M : Machine S A)
    (C : S → A → Prop) (store : S → TaskStore Row key Pc Post) : Prop :=
  ∀ s a s' slots, Tracked taskId (store s) slots → C s a → M.next s a = some s' →
    ∃ slots', Tracked taskId (store s') slots' ∧
      Refines v max (store s) slots (store s') slots'

variable {M : Machine S A} {C : S → A → Prop} {store : S → TaskStore Row key Pc Post} {s s' : S}

/-- **The invariant of the retry loop holds of every row along a run.** -/
theorem Retries.inv_reaches (hM : Retries taskId v max M C store) (hmax : 1 ≤ max)
    (hinv : Inv taskId v max (store s) slots) (h : M.Reaches C s s') :
    ∃ slots', Inv taskId v max (store s') slots' := by
  refine h.invariant (I := fun u => ∃ slots', Inv taskId v max (store u) slots') ⟨slots, hinv⟩ ?_
  rintro u a u' ⟨slots', hu⟩ hC hst
  obtain ⟨slots'', htracked, hrefines⟩ := hM u a u' slots' hu.tracked hC hst
  exact ⟨slots'', hu.next hmax htracked hrefines⟩

/-- **A row moves as the retry loop does**: along the steps of `M`, what the loop sees of the row
stored under `k` is a run of the loop. -/
theorem Retries.simulates (hM : Retries taskId v max M C store) (hmax : 1 ≤ max) (k : ℕ) :
    Machine.Simulates M C Retry.machine fun u retry => ∃ slots row,
      Inv taskId v max (store u) slots ∧ (store u).repo.rows k = some row ∧
        view v (store u) (slots k) row = retry := by
  rintro u _ a u' ⟨slots, row, hu, hrow, rfl⟩ hC hst
  obtain ⟨slots', htracked, hrefines⟩ := hM u a u' slots hu.tracked hC hst
  obtain ⟨row', hrow', hmoves⟩ := hrefines.kept k row hrow
  exact ⟨_, hmoves, slots', row', hu.next hmax htracked hrefines, hrow', rfl⟩

/-- **A settled row stays as it is along a run**, and nothing is sent or under way for it. -/
theorem Retries.settled (hM : Retries taskId v max M C store) (htask : Function.Injective taskId)
    (hmax : 1 ≤ max) (hinv : Inv taskId v max (store s) slots) {row : Row}
    (hrow : (store s).repo.rows (key row) = some row) (hsettled : v.status row ≠ .waiting)
    (h : M.Reaches C s s') :
    ∃ row', (store s').repo.rows (key row) = some row' ∧ v.status row' = v.status row ∧
      (store s').tasks.outstanding (key row) = 0 ∧
      ((store s').posts (key row)).length = ((store s).posts (key row)).length := by
  obtain ⟨_, hmoves, slots', row', hinv', hrow', rfl⟩ :=
    (hM.simulates hmax (key row)).reaches h ⟨slots, row, hinv, hrow, rfl⟩
  have hview : view v (store s') (slots' (key row)) row' = view v (store s) (slots (key row)) row :=
    (hinv.retry (key row) row hrow).eq_of_moves hsettled hmoves
  have hstatus : v.status row' = v.status row := congrArg Retry.State.status hview
  have hidle := (hinv'.retry (key row) row' hrow').phase_idle (hstatus.trans_ne hsettled)
  refine ⟨row', hrow', hstatus, ?_, ?_⟩
  · rw [hinv'.tracked.tracks.outstanding_eq htask, TaskView.slotPhase_eq_idle.1 hidle]
  · have hsends := congrArg Retry.State.sends hview
    simpa only [view, (store s').repo.key_eq hrow'] using hsends

end TaskStore

end PolymeshRest
