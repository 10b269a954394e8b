import Mathlib.Tactic.Common

/-!
# Rejections and where they come from

A computation of several steps is rejected with the failure of one of them, or with what a handler
has made of it on the way.  `Attempt` keeps both: the failure as it was thrown, and the value that
is rejected with.

* `attempt`, `Attempt.catching` : a step, and a computation whose rejections are handled.
* `Attempt.Rejects` : what holds of every rejection of a computation; `rejects_bind_iff` and its
  like give it step by step.
* `failure`, `firstFailure` : the failure of a step, and the first one of several;
  `bind_eq_ok_iff` : none of them fails.
-/

namespace PolymeshRest

namespace Js

/-- What a computation is rejected with, and the failure it comes from. -/
structure Rejection (E : Type*) where
  origin : E
  value : E

/-- A computation that may be rejected. -/
abbrev Attempt (E α : Type*) := Except (Rejection E) α

section

variable {E : Type*} {α β : Type}

/-- A step that may fail. -/
def attempt (step : Except E α) : Attempt E α := step.mapError fun e => ⟨e, e⟩

/-- The failure of a step. -/
def failure : Except E α → Option E
  | .error e => some e
  | .ok _ => none

/-- The first of several steps to fail. -/
def firstFailure (failures : List (Option E)) : Option E := failures.findSome? id

@[simp] theorem firstFailure_nil : firstFailure ([] : List (Option E)) = none := rfl

@[simp] theorem firstFailure_none_cons (failures : List (Option E)) :
    firstFailure (none :: failures) = firstFailure failures := rfl

@[simp] theorem firstFailure_some_cons (e : E) (failures : List (Option E)) :
    firstFailure (some e :: failures) = some e := rfl

theorem failure_bind_pure (x : Except E α) (f : α → β) :
    failure (x >>= fun a => pure (f a)) = failure x := by
  cases x <;> rfl

/-- Steps one after the other succeed if each of them does. -/
theorem bind_eq_ok_iff {x : Except E α} {f : α → Except E β} {b : β} :
    x >>= f = .ok b ↔ ∃ a, x = .ok a ∧ f a = .ok b := by
  constructor
  · intro h
    cases x with
    | error e => cases h
    | ok a => exact ⟨a, rfl, h⟩
  · rintro ⟨a, rfl, h⟩
    exact h

namespace Attempt

/-- The rejections are handled. -/
def catching (handle : E → E) (x : Attempt E α) : Attempt E α :=
  x.mapError fun r => ⟨r.origin, handle r.value⟩

/-- Every rejection of the computation satisfies `P`. -/
def Rejects (P : Rejection E → Prop) (x : Attempt E α) : Prop := ∀ r, x = .error r → P r

variable {P Q : Rejection E → Prop}

theorem attempt_eq_ok_iff {step : Except E α} {a : α} : attempt step = .ok a ↔ step = .ok a := by
  cases step with
  | ok b => exact ⟨fun h => congrArg Except.ok (Except.ok.inj h), fun h => h ▸ rfl⟩
  | error e => exact iff_of_false nofun nofun

theorem catching_eq_ok_iff {handle : E → E} {x : Attempt E α} {a : α} :
    x.catching handle = .ok a ↔ x = .ok a := by
  cases x with
  | ok b => exact Iff.rfl
  | error r => exact iff_of_false nofun nofun

theorem rejects_ok (a : α) : Rejects P (.ok a : Attempt E α) := nofun

theorem Rejects.imp {x : Attempt E α} (h : x.Rejects P) (himp : ∀ r, P r → Q r) : x.Rejects Q :=
  fun r hr => himp r (h r hr)

theorem rejects_bind_iff {x : Attempt E α} {f : α → Attempt E β} :
    Rejects P (x >>= f) ↔ x.Rejects P ∧ ∀ a, x = .ok a → (f a).Rejects P := by
  cases x with
  | ok a =>
    constructor
    · intro h
      refine ⟨rejects_ok a, fun b hb => ?_⟩
      cases hb
      exact h
    · exact fun h => h.2 a rfl
  | error r =>
    constructor
    · intro h
      refine ⟨fun s hs => ?_, nofun⟩
      cases hs
      exact h r rfl
    · rintro ⟨h, -⟩ s hs
      cases hs
      exact h r rfl

theorem rejects_map_iff {x : Attempt E α} {f : α → β} : Rejects P (f <$> x) ↔ x.Rejects P := by
  cases x with
  | ok a => exact iff_of_true (rejects_ok _) (rejects_ok a)
  | error r =>
    constructor
    · intro h s hs
      cases hs
      exact h r rfl
    · intro h s hs
      cases hs
      exact h r rfl

theorem rejects_attempt_iff {step : Except E α} :
    Rejects P (attempt step) ↔ ∀ e, failure step = some e → P ⟨e, e⟩ := by
  cases step with
  | ok a => exact iff_of_true (rejects_ok a) nofun
  | error e =>
    constructor
    · intro h f hf
      cases hf
      exact h _ rfl
    · intro h r hr
      cases hr
      exact h e rfl

/-- Handled rejections keep where they come from. -/
theorem rejects_catching_iff {handle : E → E} {x : Attempt E α} :
    Rejects P (x.catching handle) ↔ x.Rejects fun r => P ⟨r.origin, handle r.value⟩ := by
  cases x with
  | ok a => exact iff_of_true (rejects_ok a) (rejects_ok a)
  | error r =>
    constructor
    · intro h s hs
      cases hs
      exact h _ rfl
    · intro h s hs
      cases hs
      exact h r rfl

end Attempt

end

end Js

end PolymeshRest
