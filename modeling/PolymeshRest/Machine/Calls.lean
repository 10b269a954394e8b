import PolymeshRest.Machine.Basic

/-!
# Implementations of the same calls

A `Service S C R` answers calls `C` with results `R` and keeps a state `S`.  Two services that
answer the same calls are compared by giving both the same calls: `Service.beside` is the machine
whose state is the pair of their states.

* `Service.Answers R` : what a caller can tell apart, as a relation between the two answers.
-/

namespace PolymeshRest

/-- Calls `C`, answered by `R` over states `S`. -/
structure Service (S C R : Type*) where
  call : S → C → R × S

namespace Service

variable {S T C R R' : Type*}

/-- The state after a call. -/
def after (F : Service S C R) (s : S) (c : C) : S := (F.call s c).2

/-- The answer to a call. -/
def answer (F : Service S C R) (s : S) (c : C) : R := (F.call s c).1

/-- Two services that are given the same calls. -/
def beside (F : Service S C R) (G : Service T C R') : Machine (S × T) C where
  next s c := some (F.after s.1 c, G.after s.2 c)

variable {F : Service S C R} {G : Service T C R'}

/-- The answers of the two services to a call are related by `same`. -/
def Answers (F : Service S C R) (G : Service T C R') (same : R → R' → Prop) (s : S × T) (c : C) :
    Prop :=
  same (F.answer s.1 c) (G.answer s.2 c)

@[simp] theorem beside_next (s : S × T) (c : C) :
    (F.beside G).next s c = some (F.after s.1 c, G.after s.2 c) := rfl

end Service

end PolymeshRest
