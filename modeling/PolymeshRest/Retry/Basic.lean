import Mathlib.Algebra.Order.Ring.Int
import Mathlib.Data.Int.Cast.Lemmas
import PolymeshRest.Machine.Basic

/-!
# Bounded retry

A task is attempted until it succeeds or its tries run out.  An attempt reads the tries left when
it starts and, if it fails, writes that number minus one back; the loop stops when the number
written *equals* zero.  So the bound holds only as long as no failure is counted twice or lost.

* `Retry.machine` : one task, its remaining tries and what is under way for it.
* `Retry.StepCase` : what each step asks of the phase, and what it does.
* `Retry.Inv` : tries left and failures add up to the maximum; an attempt under way has read the
  current number; a task that is settled has nothing under way.
* `Retry.Inv.moves` : the invariant holds in every state a run reaches.
* `Retry.Inv.sends_le`, `Retry.Inv.exhausted_iff_failures`, `Retry.Inv.eq_of_moves` : at most
  `max` sends; exhausted exactly when `max` attempts failed; a settled task never moves again.
-/

namespace PolymeshRest

namespace Retry

/-- How the task stands. -/
inductive Status where
  /-- Not settled. -/
  | waiting
  | succeeded
  /-- The tries ran out. -/
  | exhausted
  /-- Given up for a reason other than the tries. -/
  | dropped
  deriving DecidableEq, Repr

/-- What is under way for the task. -/
inductive Phase where
  | idle
  /-- The next attempt waits for its timer. -/
  | scheduled
  /-- An attempt has started and has not read the tries left. -/
  | started
  /-- An attempt that read `budget` tries; `spent` once it has sent or will not send any more. -/
  | running (budget : ℤ) (spent : Bool)
  deriving DecidableEq, Repr

/-- The state of one task. -/
structure State where
  status : Status
  phase : Phase
  triesLeft : ℤ
  /-- Failed attempts, counted when their failure is written back. -/
  failures : ℕ
  /-- Attempts that got as far as sending. -/
  sends : ℕ

inductive Act where
  /-- The timer fires and an attempt starts. -/
  | fire
  /-- The attempt ends before it reads anything. -/
  | abandon
  /-- The attempt reads the tries left. -/
  | read
  | send
  /-- The attempt fails before it sends. -/
  | skip
  | succeed
  /-- The attempt gives the task up. -/
  | drop
  /-- The attempt has failed: write the budget minus one back, and try again unless that is
  zero. -/
  | fail
  deriving DecidableEq, Repr

/-- One step of the loop. -/
def next (s : State) : Act → Option State
  | .fire => match s.phase with
    | .scheduled => some { s with phase := .started }
    | _ => none
  | .abandon => match s.phase with
    | .started => some { s with phase := .idle }
    | _ => none
  | .read => match s.phase with
    | .started => some { s with phase := .running s.triesLeft false }
    | _ => none
  | .send => match s.phase with
    | .running k false => some { s with phase := .running k true, sends := s.sends + 1 }
    | _ => none
  | .skip => match s.phase with
    | .running k false => some { s with phase := .running k true }
    | _ => none
  | .succeed => match s.phase with
    | .running _ true => some { s with phase := .idle, status := .succeeded }
    | _ => none
  | .drop => match s.phase with
    | .running _ false => some { s with phase := .idle, status := .dropped }
    | _ => none
  | .fail => match s.phase with
    | .running k true =>
      if k - 1 = 0 then
        some { s with
          phase := .idle, status := .exhausted, triesLeft := k - 1, failures := s.failures + 1 }
      else
        some { s with phase := .scheduled, triesLeft := k - 1, failures := s.failures + 1 }
    | _ => none

def machine : Machine State Act := ⟨next⟩

/-- A new task with `max` tries. -/
def init (max : ℤ) : State := ⟨.waiting, .scheduled, max, 0, 0⟩

/-- An attempt is counted as sent but not yet as failed. -/
def State.unsettledSend (s : State) : ℕ :=
  match s.phase, s.status with
  | .running _ true, _ => 1
  | _, .succeeded => 1
  | _, _ => 0

/-- The invariant of the retry loop. -/
structure Inv (max : ℤ) (s : State) : Prop where
  triesLeft_eq : s.triesLeft = max - s.failures
  nonneg : 0 ≤ s.triesLeft
  exhausted_iff : s.status = .exhausted ↔ s.triesLeft = 0
  waiting : s.phase ≠ .idle → s.status = .waiting
  /-- The attempt under way has read the current number of tries. -/
  budget_eq : ∀ k b, s.phase = .running k b → k = s.triesLeft
  sends_le_failures : s.sends ≤ s.failures + s.unsettledSend

variable {max : ℤ} {s s' : State} {a : Act}

theorem inv_init (hmax : 1 ≤ max) : Inv max (init max) where
  triesLeft_eq := by simp [init]
  nonneg := by simp only [init]; omega
  exhausted_iff := by simp only [init, reduceCtorEq, false_iff]; omega
  waiting _ := rfl
  budget_eq := by simp [init]
  sends_le_failures := by simp [init]

theorem Inv.triesLeft_pos (h : Inv max s) (hphase : s.phase ≠ .idle) : 0 < s.triesLeft := by
  have hne : s.triesLeft ≠ 0 := fun h0 => by
    have := h.exhausted_iff.2 h0
    rw [h.waiting hphase] at this
    cases this
  have := h.nonneg
  omega

/-- What a step asks of the phase, and what it does. -/
inductive StepCase (s : State) : Act → State → Prop
  | fire (hphase : s.phase = .scheduled) : StepCase s .fire { s with phase := .started }
  | abandon (hphase : s.phase = .started) : StepCase s .abandon { s with phase := .idle }
  | read (hphase : s.phase = .started) :
    StepCase s .read { s with phase := .running s.triesLeft false }
  | send {k : ℤ} (hphase : s.phase = .running k false) :
    StepCase s .send { s with phase := .running k true, sends := s.sends + 1 }
  | skip {k : ℤ} (hphase : s.phase = .running k false) :
    StepCase s .skip { s with phase := .running k true }
  | succeed {k : ℤ} (hphase : s.phase = .running k true) :
    StepCase s .succeed { s with phase := .idle, status := .succeeded }
  | drop {k : ℤ} (hphase : s.phase = .running k false) :
    StepCase s .drop { s with phase := .idle, status := .dropped }
  /-- The last try has failed. -/
  | exhaust {k : ℤ} (hphase : s.phase = .running k true) (hzero : k - 1 = 0) :
    StepCase s .fail { s with
      phase := .idle, status := .exhausted, triesLeft := k - 1, failures := s.failures + 1 }
  /-- A try has failed, and it is not the last one. -/
  | retry {k : ℤ} (hphase : s.phase = .running k true) (hne : k - 1 ≠ 0) :
    StepCase s .fail { s with
      phase := .scheduled, triesLeft := k - 1, failures := s.failures + 1 }

theorem next_cases (hst : next s a = some s') : StepCase s a s' := by
  cases a with
  | fire =>
    simp only [next] at hst
    split at hst
    · rename_i hphase
      cases hst
      exact .fire hphase
    · cases hst
  | abandon =>
    simp only [next] at hst
    split at hst
    · rename_i hphase
      cases hst
      exact .abandon hphase
    · cases hst
  | read =>
    simp only [next] at hst
    split at hst
    · rename_i hphase
      cases hst
      exact .read hphase
    · cases hst
  | send =>
    simp only [next] at hst
    split at hst
    · rename_i hphase
      cases hst
      exact .send hphase
    · cases hst
  | skip =>
    simp only [next] at hst
    split at hst
    · rename_i hphase
      cases hst
      exact .skip hphase
    · cases hst
  | succeed =>
    simp only [next] at hst
    split at hst
    · rename_i hphase
      cases hst
      exact .succeed hphase
    · cases hst
  | drop =>
    simp only [next] at hst
    split at hst
    · rename_i hphase
      cases hst
      exact .drop hphase
    · cases hst
  | fail =>
    simp only [next] at hst
    split at hst
    · rename_i hphase
      split at hst
      · rename_i hzero
        cases hst
        exact .exhaust hphase hzero
      · rename_i hne
        cases hst
        exact .retry hphase hne
    · cases hst

theorem inv_next (h : Inv max s) (hst : next s a = some s') : Inv max s' := by
  have hsends := h.sends_le_failures
  have htries := h.triesLeft_eq
  have hnonneg := h.nonneg
  have hpos := h.triesLeft_pos
  have hwait := h.waiting
  have hexh := h.exhausted_iff
  unfold State.unsettledSend at hsends
  cases next_cases hst with
  | fire hp =>
    have hw := hwait (by simp [hp])
    refine ⟨htries, hnonneg, hexh, fun _ => hw, by simp, ?_⟩
    simpa [State.unsettledSend, hp, hw] using hsends
  | abandon hp =>
    have hw := hwait (by simp [hp])
    refine ⟨htries, hnonneg, hexh, by simp, by simp, ?_⟩
    simpa [State.unsettledSend, hp, hw] using hsends
  | read hp =>
    -- nothing has been written yet, so the attempt reads the current number
    have hw := hwait (by simp [hp])
    refine ⟨htries, hnonneg, hexh, fun _ => hw, ?_, ?_⟩
    · intro k b hk
      cases hk
      rfl
    · simpa [State.unsettledSend, hp, hw] using hsends
  | send hp =>
    have hw := hwait (by simp [hp])
    refine ⟨htries, hnonneg, hexh, fun _ => hw, ?_, ?_⟩
    · intro j b hj
      cases hj
      exact h.budget_eq _ false hp
    · simp only [hp, hw] at hsends
      simpa [State.unsettledSend] using hsends
  | skip hp =>
    have hw := hwait (by simp [hp])
    refine ⟨htries, hnonneg, hexh, fun _ => hw, ?_, ?_⟩
    · intro j b hj
      cases hj
      exact h.budget_eq _ false hp
    · simp only [hp, hw] at hsends
      exact Nat.le_succ_of_le hsends
  | succeed hp =>
    have hw := hwait (by simp [hp])
    have h0 := hpos (by simp [hp])
    refine ⟨htries, hnonneg, ?_, by simp, by simp, ?_⟩
    · simp only [reduceCtorEq, false_iff]
      omega
    · simpa [State.unsettledSend, hp] using hsends
  | drop hp =>
    have hw := hwait (by simp [hp])
    have h0 := hpos (by simp [hp])
    refine ⟨htries, hnonneg, ?_, by simp, by simp, ?_⟩
    · simp only [reduceCtorEq, false_iff]
      omega
    · simpa [State.unsettledSend, hp, hw] using hsends
  | exhaust hp hzero =>
    -- the send that is counted now as a failure was the unsettled one
    have hone : s.sends ≤ s.failures + 1 := by
      simpa only [hp] using hsends
    have hk := h.budget_eq _ true hp
    refine ⟨?_, ?_, ?_, by simp, by simp, ?_⟩
    · push_cast
      omega
    · exact hzero.ge
    · simpa using hzero
    · simpa [State.unsettledSend] using hone
  | retry hp hne =>
    have hw := hwait (by simp [hp])
    have h0 := hpos (by simp [hp])
    have hk := h.budget_eq _ true hp
    have hone : s.sends ≤ s.failures + 1 := by
      simpa only [hp] using hsends
    refine ⟨?_, ?_, ?_, fun _ => hw, by simp, ?_⟩
    · push_cast
      omega
    · rename_i k
      change 0 ≤ k - 1
      omega
    · simpa [hw] using hne
    · simpa [State.unsettledSend, hw] using hone

/-- What a run can make of the state of a task. -/
def Moves (s s' : State) : Prop := machine.Reaches Machine.Unrestricted s s'

theorem Moves.refl (s : State) : Moves s s := Machine.Reaches.refl s

theorem Moves.step (a : Act) (h : next s a = some s') : Moves s s' :=
  Machine.Reaches.single trivial h

/-- **The invariant holds in every state a run reaches.** -/
theorem Inv.moves (hinv : Inv max s) (h : Moves s s') : Inv max s' :=
  Machine.Reaches.invariant h hinv fun _ _ _ ht _ hst => inv_next ht hst

/-! ### Consequences -/

/-- At most `max` attempts ever send. -/
theorem Inv.sends_le (h : Inv max s) : (s.sends : ℤ) ≤ max := by
  have hsends := h.sends_le_failures
  have htries := h.triesLeft_eq
  have hnonneg := h.nonneg
  by_cases h1 : s.unsettledSend = 0
  · omega
  · have hstatus : s.status ≠ .exhausted := by
      intro he
      refine h1 ?_
      have hidle : s.phase = .idle := by
        by_contra hne
        rw [h.waiting hne] at he
        cases he
      simp [State.unsettledSend, hidle, he]
    have hne : s.triesLeft ≠ 0 := fun h0 => hstatus (h.exhausted_iff.2 h0)
    have hle : s.unsettledSend ≤ 1 := by
      unfold State.unsettledSend
      split <;> omega
    omega

/-- The task is exhausted exactly when `max` attempts have failed. -/
theorem Inv.exhausted_iff_failures (h : Inv max s) :
    s.status = .exhausted ↔ (s.failures : ℤ) = max := by
  rw [h.exhausted_iff, h.triesLeft_eq]
  omega

theorem Inv.phase_idle (h : Inv max s) (hs : s.status ≠ .waiting) : s.phase = .idle := by
  by_contra hne
  exact hs (h.waiting hne)

theorem Inv.next_eq_none (h : Inv max s) (hs : s.status ≠ .waiting) : next s a = none := by
  have hidle := h.phase_idle hs
  cases a <;> simp [next, hidle]

/-- **A settled task never moves again.** -/
theorem Inv.eq_of_moves (h : Inv max s) (hs : s.status ≠ .waiting) (hm : Moves s s') : s' = s := by
  refine Machine.Reaches.invariant (I := fun t => t = s) hm rfl ?_
  rintro t a t' rfl - hst
  rw [show machine.next t a = none from h.next_eq_none hs] at hst
  cases hst

end Retry

end PolymeshRest
