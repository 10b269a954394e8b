import Mathlib.Logic.Function.Basic
import Mathlib.Tactic.Common

/-!
# Executable machines and their runs

Every concurrent part of the service is given as a machine: a state and a partial function that
says where an action leads.  One action is one atomic step of one of the activities under way, so
a list of actions is an interleaving of them, and "for every interleaving" is "for every list of
actions".

## Main definitions

* `Machine S A` : the partial step function `S → A → Option S`.
* `Machine.run` : the state after a list of actions.
* `Machine.Meets C` : every step of a run is taken where the condition `C` allows it.  It says
  both which steps the environment may take and which steps a guarantee depends on.
* `Machine.Always P` : `P` holds in every state a run visits.
* `Machine.Reaches C s s'` : some run from `s` whose steps all meet `C` ends in `s'`.
* `Machine.log shows` : what the steps of a run show, in their order.

## Main results

* `Machine.Reaches.invariant` : a predicate kept by the steps that meet `C` holds where they lead.
* `Machine.log_invariant` : the same for a predicate of the state and the log of the run so far.
* `Machine.always_iff_meets` : if `C` is exactly the condition under which one step keeps `P`,
  then a run keeps `P` throughout iff all its steps meet `C`.
* `Machine.meets_iff_meets` : conditions that agree on every step allow the same runs.
* `Machine.exists_reaches_of_run` : a run of given actions, computed.
* `Machine.Simulates.reaches` : a simulation carries runs to runs.
-/

namespace PolymeshRest

/-- A machine with states `S` and actions `A`. -/
structure Machine (S A : Type*) where
  /-- The state an action leads to, or `none` where the action cannot happen. -/
  next : S → A → Option S

namespace Machine

variable {S A : Type*} (M : Machine S A)

/-- The state after the actions of a list, taken in order. -/
def run : S → List A → Option S
  | s, [] => some s
  | s, a :: as => (M.next s a).bind fun s' => run s' as

/-- Every step of the run of `as` from `s` is taken in a state and by an action that `C` allows. -/
def Meets (C : S → A → Prop) : S → List A → Prop
  | _, [] => True
  | s, a :: as => C s a ∧ ∀ s', M.next s a = some s' → Meets C s' as

/-- Every state the run of `as` from `s` visits satisfies `P`. -/
def Always (P : S → Prop) : S → List A → Prop
  | s, [] => P s
  | s, a :: as => P s ∧ ∀ s', M.next s a = some s' → Always P s' as

/-- A run whose steps all meet `C` leads from `s` to `s'`. -/
def Reaches (C : S → A → Prop) (s s' : S) : Prop :=
  ∃ as, M.run s as = some s' ∧ M.Meets C s as

/-- No condition on the steps. -/
def Unrestricted : S → A → Prop := fun _ _ => True

variable {M} {C : S → A → Prop}

@[simp] theorem run_nil (s : S) : M.run s [] = some s := rfl

theorem run_cons {s s'' : S} {a : A} {as : List A} :
    M.run s (a :: as) = some s'' ↔ ∃ s', M.next s a = some s' ∧ M.run s' as = some s'' := by
  simp only [run, Option.bind_eq_some_iff]

theorem Reaches.refl (s : S) : M.Reaches C s s := ⟨[], rfl, trivial⟩

theorem Reaches.head {s s' s'' : S} {a : A} (hC : C s a) (hst : M.next s a = some s')
    (h : M.Reaches C s' s'') : M.Reaches C s s'' := by
  obtain ⟨as, hrun, hmeets⟩ := h
  refine ⟨a :: as, run_cons.2 ⟨s', hst, hrun⟩, hC, fun t ht => ?_⟩
  obtain rfl : s' = t := Option.some.inj (hst.symm.trans ht)
  exact hmeets

/-- Induction on a run from its first step. -/
theorem Reaches.head_induction {s'' : S} {P : S → Prop} (hlast : P s'')
    (hhead : ∀ s a s', C s a → M.next s a = some s' → M.Reaches C s' s'' → P s' → P s) {s : S}
    (h : M.Reaches C s s'') : P s := by
  obtain ⟨as, hrun, hmeets⟩ := h
  induction as generalizing s with
  | nil =>
    cases hrun
    exact hlast
  | cons a as ih =>
    obtain ⟨s', hst, hrun'⟩ := run_cons.1 hrun
    have hrest := hmeets.2 s' hst
    exact hhead s a s' hmeets.1 hst ⟨as, hrun', hrest⟩ (ih hrun' hrest)

theorem Reaches.trans {s s' s'' : S} (h : M.Reaches C s s') (h' : M.Reaches C s' s'') :
    M.Reaches C s s'' :=
  Reaches.head_induction (P := fun t => M.Reaches C t s'') h'
    (fun _ _ _ hC hst _ ih => Reaches.head hC hst ih) h

theorem Reaches.single {s s' : S} {a : A} (hC : C s a) (hst : M.next s a = some s') :
    M.Reaches C s s' :=
  Reaches.head hC hst (.refl s')

theorem Reaches.tail {s s' s'' : S} {a : A} (h : M.Reaches C s s') (hC : C s' a)
    (hst : M.next s' a = some s'') : M.Reaches C s s'' :=
  h.trans (.single hC hst)

/-- **The invariant rule**: a predicate kept by every step that meets `C` is kept by every run
whose steps meet `C`. -/
theorem Reaches.invariant {I : S → Prop} {s s' : S} (h : M.Reaches C s s') (h₀ : I s)
    (hstep : ∀ s a s', I s → C s a → M.next s a = some s' → I s') : I s' := by
  refine Reaches.head_induction (P := fun t => I t → I s') (fun ht => ht) ?_ h h₀
  exact fun t a t' hC hst _ ih ht => ih (hstep t a t' ht hC hst)

/-- What the steps of a run show, in their order. -/
def log {O : Type*} (M : Machine S A) (shows : S → A → S → List O) : S → List A → List O
  | _, [] => []
  | s, a :: as => (M.next s a).elim [] fun s' => shows s a s' ++ log M shows s' as

/-- **The invariant rule with a log**: what the steps that meet `C` keep of the state and the log
so far is kept by every run whose steps meet `C`. -/
theorem log_invariant {O : Type*} {shows : S → A → S → List O} {I : S → List O → Prop} {s s' : S}
    {as : List A} (hrun : M.run s as = some s') (hmeets : M.Meets C s as) (h₀ : I s [])
    (hstep : ∀ s l a s', I s l → C s a → M.next s a = some s' → I s' (l ++ shows s a s')) :
    I s' (M.log shows s as) := by
  -- the run of `as` continues one that has left the log `l`
  have hrest : ∀ l, I s l → I s' (l ++ M.log shows s as) := by
    clear h₀
    induction as generalizing s with
    | nil =>
      intro l hl
      cases hrun
      rwa [log, List.append_nil]
    | cons a as ih =>
      intro l hl
      obtain ⟨t, hst, hrun⟩ := run_cons.1 hrun
      rw [log, hst, Option.elim_some, ← List.append_assoc]
      exact ih hrun (hmeets.2 t hst) _ (hstep s l a t hl hmeets.1 hst)
  exact hrest [] h₀

/-- **When one step decides a property, a run's steps decide it throughout.**  `J` is an
invariant of all steps; under it, and where `P` holds before the step, `C` says exactly which
steps keep `P`. -/
theorem always_iff_meets {J P : S → Prop} (hJ : ∀ s a s', J s → M.next s a = some s' → J s')
    (hP : ∀ s a s', J s → P s → M.next s a = some s' → (P s' ↔ C s a)) {s s' : S} {as : List A}
    (hrun : M.run s as = some s') (hj : J s) (hp : P s) : M.Always P s as ↔ M.Meets C s as := by
  induction as generalizing s with
  | nil => exact ⟨fun _ => trivial, fun _ => hp⟩
  | cons a as ih =>
    obtain ⟨t, hst, hrun'⟩ := run_cons.1 hrun
    have hone : ∀ {Q : S → Prop}, (∀ t', M.next s a = some t' → Q t') ↔ Q t := fun {Q} =>
      ⟨fun h => h t hst, fun h t' ht' => Option.some.inj (hst.symm.trans ht') ▸ h⟩
    have hstep := hP s a t hj hp hst
    simp only [Always, Meets, hone]
    constructor
    · rintro ⟨-, h⟩
      have ht : P t := by
        cases as with
        | nil => exact h
        | cons => exact h.1
      exact ⟨hstep.1 ht, (ih hrun' (hJ s a t hj hst) ht).1 h⟩
    · rintro ⟨hC, h⟩
      have ht : P t := hstep.2 hC
      exact ⟨hp, (ih hrun' (hJ s a t hj hst) ht).2 h⟩

/-- **Two conditions that agree on every step a run can take allow the same runs.**  The states
where they are compared are those of `J`, which the steps that meet `C` keep. -/
theorem meets_iff_meets {J : S → Prop} {D : S → A → Prop}
    (hJ : ∀ s a s', J s → C s a → M.next s a = some s' → J s')
    (hCD : ∀ s a, J s → (D s a ↔ C s a)) {s : S} (hj : J s) (as : List A) :
    M.Meets D s as ↔ M.Meets C s as := by
  induction as generalizing s with
  | nil => exact Iff.rfl
  | cons a as ih =>
    simp only [Meets, hCD s a hj]
    refine and_congr_right fun hC => forall_congr' fun s' => ?_
    exact ⟨fun h hst => (ih (hJ s a s' hj hC hst)).1 (h hst),
      fun h hst => (ih (hJ s a s' hj hC hst)).2 (h hst)⟩

/-- What one step keeps where it meets `C`, and shows there, every step of a run shows. -/
theorem Meets.imp {J : S → Prop} {D : S → A → Prop}
    (hJ : ∀ s a s', J s → C s a → M.next s a = some s' → J s')
    (hCD : ∀ s a, J s → C s a → D s a) {s : S} {as : List A} (hj : J s) (h : M.Meets C s as) :
    M.Meets D s as := by
  induction as generalizing s with
  | nil => exact trivial
  | cons a as ih =>
    exact ⟨hCD s a hj h.1, fun s' hst => ih (hJ s a s' hj h.1 hst) (h.2 s' hst)⟩

/-! ### Concrete runs -/

/-- Whether a given run meets a decidable condition can be computed along the run. -/
instance decidableMeets [∀ s a, Decidable (C s a)] : ∀ s as, Decidable (M.Meets C s as)
  | _, [] => .isTrue trivial
  | s, a :: as =>
    match hst : M.next s a with
    | none => decidable_of_iff (C s a)
        ⟨fun hC => ⟨hC, fun s' hs' => by simp [hst] at hs'⟩, fun h => h.1⟩
    | some s' =>
      have := decidableMeets s' as
      decidable_of_iff (C s a ∧ M.Meets C s' as)
        ⟨fun h => ⟨h.1, fun t ht => Option.some.inj (hst.symm.trans ht) ▸ h.2⟩,
          fun h => ⟨h.1, h.2 s' hst⟩⟩

theorem meets_unrestricted (s : S) (as : List A) : M.Meets Unrestricted s as := by
  induction as generalizing s with
  | nil => exact trivial
  | cons a as ih => exact ⟨trivial, fun s' _ => ih s'⟩

/-- A run that was computed is a run. -/
theorem exists_reaches_of_run (s : S) (as : List A) (p : S → Bool)
    (hrun : (M.run s as).any p = true) (hmeets : M.Meets C s as) :
    ∃ s', M.Reaches C s s' ∧ p s' = true := by
  obtain ⟨s', hs', hp⟩ := (Option.any_eq_true ..).1 hrun
  exact ⟨s', ⟨as, hs', hmeets⟩, hp⟩

/-! ### Simulation -/

variable {T B : Type*}

/-- `R` is a simulation: a step of `M` that meets `C`, from a state related to `t`, is matched
by a run of `N` from `t`. -/
def Simulates (M : Machine S A) (C : S → A → Prop) (N : Machine T B) (R : S → T → Prop) : Prop :=
  ∀ s t a s', R s t → C s a → M.next s a = some s' →
    ∃ t', N.Reaches Unrestricted t t' ∧ R s' t'

/-- **A simulation carries runs to runs.** -/
theorem Simulates.reaches {N : Machine T B} {R : S → T → Prop} (hsim : Simulates M C N R)
    {s s' : S} {t : T} (h : M.Reaches C s s') (hR : R s t) :
    ∃ t', N.Reaches Unrestricted t t' ∧ R s' t' := by
  refine h.invariant (I := fun u => ∃ t', N.Reaches Unrestricted t t' ∧ R u t')
    ⟨t, .refl t, hR⟩ ?_
  rintro u a u' ⟨t', ht', hR'⟩ hC hst
  obtain ⟨t'', ht'', hR''⟩ := hsim u t' a u' hR' hC hst
  exact ⟨t'', ht'.trans ht'', hR''⟩

end Machine

end PolymeshRest
