import PolymeshRest.Data.Lists
import PolymeshRest.Transactions.System

/-!
# Entries and listeners that are left behind

`submitAndSubscribe` adds the entry of `transactionStore` and the listener before two calls that
can fail, and takes them away in none of their error paths; the handler of a terminal status takes
them away only after its `createEvent` has resolved.

## Main definitions

* `Transactions.LeakFree` : what is to hold of `transactionStore` and the listeners.
* `Transactions.Registered` : what does hold, in every run.
* `Transactions.NeverLeaks` : the steps after which nothing is left behind.

## Main results

* `Transactions.leakFree_iff_neverLeaks` : every state of a run is free of leaks exactly if every
  step of it is one of these.
* `Transactions.left_by_createSubscription` : a `createSubscription` that fails.
-/

namespace PolymeshRest

namespace StatusHandler

/-- The stages that the handler of a terminal status reaches once it has looked for the entry. -/
def Stage.afterEntry : Stage → Bool
  | .createEvent => false
  | .caught .assemblePayload _ => false
  | .caught .createEvent _ => false
  | .findAll | .batchMarkAsDone _ | .finished | .caught _ _ => true

/-- The handler of a terminal status has released the listener, or found it released. -/
def released (h : StatusHandler) : Bool := h.status.isTerminal && h.stage.afterEntry

/-- The handler of a terminal status has returned. -/
def terminated (h : StatusHandler) : Bool := h.status.isTerminal && h.returned

/-- The `createEvent` of the handler was rejected. -/
def eventRejected (h : StatusHandler) : Bool :=
  h.call.any fun c => match c.phase with
    | .rejected _ _ => true
    | _ => false

@[simp] theorem afterEntry_afterUpdate (pending : List ℕ) :
    (Stage.afterUpdate pending).afterEntry = true := by
  cases pending <;> rfl

variable {config : NotificationsConfig} {w w' : Stores} {stored freed : Bool}
  {h h' : StatusHandler} {reply : Reply}

/-- A handler gets past the entry by releasing the listener, or where there is no entry. -/
theorem StepCase.released_iff (hcase : StepCase config w stored h reply w' h' freed) :
    h'.released = true ↔ h.released = true ∨ freed = true ∨
      stored = false ∧ h.status.isTerminal = true ∧ h'.stage = .caught .transactionStore [] := by
  obtain ⟨id, status, call, stage⟩ := h
  -- past the entry, a handler stays past it
  have hpast : ∀ {before after : Stage}, before.afterEntry = true → after.afterEntry = true →
      (released ⟨id, status, call, after⟩ = true ↔ released ⟨id, status, call, before⟩ = true ∨
        false = true ∨ stored = false ∧ status.isTerminal = true ∧
          after = .caught .transactionStore []) := by
    intro before after hbefore hafter
    simp +contextual [released, hbefore, hafter]
  cases hcase with
  | event reply c c' w' hc hstep => simp +contextual [released, Stage.afterEntry]
  | eventCreated c hstage hc hresolved hterminal => simp_all [released]
  | release c hstage hc hresolved hterminal hentry => simp_all [released, Stage.afterEntry]
  | noEntry c hstage hc hresolved hterminal hentry => simp_all [released, Stage.afterEntry]
  | eventRejected c hstage hc failed pending hrejected => simp_all [released, Stage.afterEntry]
  | lookUp hstage =>
    cases hstage
    exact hpast rfl (afterEntry_afterUpdate _)
  | lookUpRejected hstage =>
    cases hstage
    exact hpast rfl rfl
  | update j subscriptionId pending hstage hid =>
    cases hstage
    exact hpast rfl (afterEntry_afterUpdate _)
  | updateRejected j subscriptionId pending outcome hstage hid hfailed =>
    cases hstage
    exact hpast rfl rfl
  | lateUpdate j subscriptionId failure pending outcome hstage hid =>
    cases hstage
    cases failure <;> simp +contextual [released, Stage.afterEntry]

/-- The listener is released where there is an entry. -/
theorem StepCase.of_freed (hcase : StepCase config w stored h reply w' h' true) :
    h'.released = true ∧ stored = true := by
  cases hcase with
  | release c hstage hc hresolved hterminal hentry =>
    exact ⟨by simp [released, Stage.afterEntry, hterminal], hentry⟩

theorem not_released_of_call (w : Stores) (id : ℕ) (transaction : Transaction) :
    (w.handleTransactionStatusChange id transaction).2.released = false := by
  unfold Stores.handleTransactionStatusChange
  split <;> simp [StatusHandler.released, Stage.afterEntry]

/-- The handler of a terminal status returns past the entry, unless its `createEvent` was
rejected. -/
theorem StepCase.terminated_cases (hcase : StepCase config w stored h reply w' h' freed)
    (hended : h'.terminated = true) : h.terminated = true ∨ h'.released = true ∨
      reply = .proceed ∧ h.status.isTerminal = true ∧ h.eventRejected = true := by
  obtain ⟨id, status, call, stage⟩ := h
  simp only [terminated, Bool.and_eq_true] at hended
  obtain ⟨hterminal, hreturned⟩ := hended
  cases hcase with
  | event reply c c' w' hc hstep => exact .inl (Bool.and_eq_true_iff.2 ⟨hterminal, hreturned⟩)
  | eventCreated c hstage hc hresolved hnot => simp [hnot] at hterminal
  | eventRejected c hstage hc failed pending hrejected =>
    refine .inr (.inr ⟨rfl, hterminal, ?_⟩)
    cases hc
    simp [StatusHandler.eventRejected, hrejected]
  | lateUpdate j subscriptionId failure pending outcome hstage hid =>
    cases hstage
    exact .inl (by simp [terminated, returned, hterminal])
  | release | noEntry | lookUpRejected | updateRejected =>
    exact .inr (.inl (by simp [released, Stage.afterEntry, hterminal]))
  | lookUp hstage | update j subscriptionId pending hstage hid =>
    exact .inr (.inl (by rw [released, afterEntry_afterUpdate, hterminal]; rfl))

end StatusHandler

namespace Transactions

variable {π τ : Type*} [DecidableEq π] [DecidableEq τ] {config : Config} {s s' : State π τ}
  {a : Act π τ}

section

omit [DecidableEq π] [DecidableEq τ]

/-- Nothing of the instance `p` awaits anything. -/
def Quiescent (s : State π τ) (p : π) : Prop :=
  ∀ T x, s.transactions T = some x → x.process = p → s.alive x = true →
    (x.phase = .running ∨ x.phase = .rejected) ∧ ∀ h ∈ x.handlers, h.returned = true

/-- Neither entries nor listeners are left behind. -/
structure LeakFree (s : State π τ) : Prop where
  /-- In an instance that awaits nothing, the entries are those of the transactions that were run
  and whose terminal status has not been handled. -/
  entries : ∀ p, Quiescent s p → ∀ id, ((s.processes p).transactionStore id).isSome = true ↔
    ∃ T x, s.transactions T = some x ∧ x.process = p ∧ s.alive x = true ∧ x.id = id ∧
      x.phase = .running ∧ ∀ h ∈ x.handlers, h.terminated = false
  /-- A call that was rejected leaves neither entry nor listener. -/
  rejected : ∀ T x, s.transactions T = some x → s.alive x = true → x.phase = .rejected →
    (s.processes x.process).transactionStore x.id = none ∧ (s.listeners T).attached = false
  /-- When the handler of a terminal status has returned, the entry is gone and `unsubCallback`
  was called once. -/
  terminated : ∀ T x, s.transactions T = some x → s.alive x = true → ∀ h ∈ x.handlers,
    h.terminated = true → (s.processes x.process).transactionStore x.id = none ∧
      (s.listeners T).unsubs = 1

/-- What holds of entries, listeners and handlers in every run. -/
structure Registered (s : State π τ) : Prop where
  restarts_le : ∀ T x, s.transactions T = some x → x.restarts ≤ (s.processes x.process).restarts
  id_le : ∀ T x, s.transactions T = some x → s.alive x = true →
    x.id ≤ (s.processes x.process).currentId
  distinct : ∀ T T' x x', s.transactions T = some x → s.transactions T' = some x' →
    s.alive x = true → s.alive x' = true → x.process = x'.process → x.id = x'.id → T = T'
  /-- An entry is that of a transaction which the instance listens to. -/
  entry : ∀ p id T, (s.processes p).transactionStore id = some T →
    ∃ x, s.transactions T = some x ∧ x.process = p ∧ s.alive x = true ∧ x.id = id ∧
      (s.listeners T).attached = true
  attached : ∀ T x, s.transactions T = some x → s.alive x = true →
    (s.listeners T).attached = true → (s.processes x.process).transactionStore x.id = some T
  untouched : ∀ T, s.transactions T = none → s.listeners T = ⟨false, 0⟩
  unsubs : ∀ T x, s.transactions T = some x →
    s.listeners T = ⟨true, 0⟩ ∨ s.listeners T = ⟨false, 1⟩
  released : ∀ T x, s.transactions T = some x → s.alive x = true →
    ((s.listeners T).attached = false ↔ ∃ h ∈ x.handlers, h.released = true)
  handler_id : ∀ T x, s.transactions T = some x → ∀ h ∈ x.handlers, h.id = x.id
  handlers : ∀ T x, s.transactions T = some x → x.phase ≠ .running → x.handlers = []

theorem Registered.congr (h : Registered s)
    (hprocesses : ∀ p, (s'.processes p).restarts = (s.processes p).restarts ∧
      (s'.processes p).currentId = (s.processes p).currentId ∧
      (s'.processes p).transactionStore = (s.processes p).transactionStore)
    (hlisteners : s'.listeners = s.listeners) (htransactions : s'.transactions = s.transactions) :
    Registered s' := by
  have halive : ∀ x, s'.alive x = s.alive x := by
    intro x
    simp only [State.alive, (hprocesses _).1]
  obtain ⟨h₁, h₂, h₃, h₄, h₅, h₆, h₇, h₈, h₉, h₁₀⟩ := h
  constructor <;> simp only [halive, hlisteners, htransactions, hprocesses] <;> assumption

theorem registered_init (now : ℕ) : Registered (init now : State π τ) where
  restarts_le _ _ h := nomatch h
  id_le _ _ h := nomatch h
  distinct _ _ _ _ h := nomatch h
  entry _ _ _ h := nomatch h
  attached _ _ h := nomatch h
  untouched _ _ := rfl
  unsubs _ _ h := nomatch h
  released _ _ h := nomatch h
  handler_id _ _ h := nomatch h
  handlers _ _ h := nomatch h

theorem alive_congr (h : ∀ p, (s'.processes p).restarts = (s.processes p).restarts)
    {x x' : Submission π} (hprocess : x'.process = x.process)
    (hrestarts : x'.restarts = x.restarts) :
    s'.alive x' = s.alive x := by
  simp only [State.alive, h, hprocess, hrestarts]

/-- Of the transactions of an instance, an entry is that of the one with its id. -/
theorem Registered.entry_eq (h : Registered s) {T T' : τ} {x : Submission π}
    (hx : s.transactions T = some x) (halive : s.alive x = true)
    (hentry : (s.processes x.process).transactionStore x.id = some T') : T' = T := by
  obtain ⟨x', hx', hprocess, halive', hid, -⟩ := h.entry _ _ _ hentry
  exact h.distinct T' T x' x hx' hx halive' halive hprocess hid

theorem Registered.entry_isSome (h : Registered s) {T : τ} {x : Submission π}
    (hx : s.transactions T = some x) (halive : s.alive x = true) :
    ((s.processes x.process).transactionStore x.id).isSome = (s.listeners T).attached := by
  rw [Bool.eq_iff_iff]
  constructor
  · intro hsome
    obtain ⟨T', hentry⟩ := Option.isSome_iff_exists.1 hsome
    obtain rfl := h.entry_eq hx halive hentry
    obtain ⟨-, -, -, -, -, hattached⟩ := h.entry _ _ _ hentry
    exact hattached
  · intro hattached
    rw [h.attached T x hx halive hattached]
    rfl

end

omit [DecidableEq π] in
/-- A step that changes what is known of one transaction, but neither entries nor listeners. -/
theorem Registered.update (h : Registered s) {T : τ} {x x' : Submission π}
    (hx : s.transactions T = some x)
    (hprocesses : ∀ p, (s'.processes p).restarts = (s.processes p).restarts ∧
      (s'.processes p).currentId = (s.processes p).currentId ∧
      (s'.processes p).transactionStore = (s.processes p).transactionStore)
    (hlisteners : s'.listeners = s.listeners)
    (htransactions : s'.transactions = Function.update s.transactions T (some x'))
    (hprocess : x'.process = x.process) (hrestarts : x'.restarts = x.restarts)
    (hid : x'.id = x.id)
    (hreleased : s.alive x = true → ((∃ g ∈ x'.handlers, g.released = true) ↔
      ∃ g ∈ x.handlers, g.released = true))
    (hids : ∀ g ∈ x'.handlers, g.id = x.id) (hphase : x'.phase ≠ .running → x'.handlers = []) :
    Registered s' := by
  -- what is known now of a transaction, and what was known of it
  have hold : ∀ T' y', s'.transactions T' = some y' → ∃ y, s.transactions T' = some y ∧
      y'.process = y.process ∧ y'.restarts = y.restarts ∧ y'.id = y.id ∧
      (s.alive y = true → ((∃ g ∈ y'.handlers, g.released = true) ↔
        ∃ g ∈ y.handlers, g.released = true)) ∧
      (∀ g ∈ y'.handlers, g.id = y'.id) ∧ (y'.phase ≠ .running → y'.handlers = []) := by
    intro T' y' hy'
    rw [htransactions] at hy'
    obtain ⟨rfl, rfl⟩ | ⟨-, hold⟩ := eq_or_of_update hy'
    · exact ⟨x, hx, hprocess, hrestarts, hid, hreleased,
        fun g hg => (hids g hg).trans hid.symm, hphase⟩
    · exact ⟨y', hold, rfl, rfl, rfl, fun _ => Iff.rfl, h.handler_id T' y' hold,
        h.handlers T' y' hold⟩
  have halive : ∀ {y y' : Submission π}, y'.process = y.process → y'.restarts = y.restarts →
      s'.alive y' = s.alive y := fun hp hr => alive_congr (fun p => (hprocesses p).1) hp hr
  refine ⟨fun T' y' hy' => ?_, fun T' y' hy' ha => ?_,
    fun T₁ T₂ y₁' y₂' hy₁' hy₂' ha₁ ha₂ hp hi => ?_, fun p id T' hentry => ?_,
    fun T' y' hy' ha hattached => ?_, fun T' hnone => ?_,
    fun T' y' hy' => ?_, fun T' y' hy' ha => ?_, fun T' y' hy' => ?_, fun T' y' hy' => ?_⟩
  · obtain ⟨y, hy, hp, hr, -⟩ := hold T' y' hy'
    rw [hr, hp, (hprocesses _).1]
    exact h.restarts_le T' y hy
  · obtain ⟨y, hy, hp, hr, hi, -⟩ := hold T' y' hy'
    rw [hi, hp, (hprocesses _).2.1]
    exact h.id_le T' y hy (by rwa [halive hp hr] at ha)
  · -- ids are distinct among the transactions that are alive
    obtain ⟨y₁, hy₁, hp₁, hr₁, hi₁, -⟩ := hold T₁ y₁' hy₁'
    obtain ⟨y₂, hy₂, hp₂, hr₂, hi₂, -⟩ := hold T₂ y₂' hy₂'
    rw [halive hp₁ hr₁] at ha₁
    rw [halive hp₂ hr₂] at ha₂
    exact h.distinct T₁ T₂ y₁ y₂ hy₁ hy₂ ha₁ ha₂ (hp₁ ▸ hp₂ ▸ hp) (hi₁ ▸ hi₂ ▸ hi)
  · rw [(hprocesses p).2.2] at hentry
    obtain ⟨y, hy, hp, ha, hi, hattached⟩ := h.entry p id T' hentry
    rw [htransactions, hlisteners, Function.update_apply]
    split_ifs with hT
    · subst hT
      rw [hx] at hy
      cases hy
      exact ⟨x', rfl, hprocess.trans hp, (halive hprocess hrestarts).trans ha, hid.trans hi,
        hattached⟩
    · exact ⟨y, hy, hp, (halive rfl rfl).trans ha, hi, hattached⟩
  · obtain ⟨y, hy, hp, hr, hi, -⟩ := hold T' y' hy'
    rw [halive hp hr] at ha
    rw [hlisteners] at hattached
    rw [hp, hi, (hprocesses _).2.2]
    exact h.attached T' y hy ha hattached
  · rw [htransactions, Function.update_apply] at hnone
    split_ifs at hnone
    rw [hlisteners]
    exact h.untouched T' hnone
  · obtain ⟨y, hy, -⟩ := hold T' y' hy'
    rw [hlisteners]
    exact h.unsubs T' y hy
  · obtain ⟨y, hy, hp, hr, -, hrel, -⟩ := hold T' y' hy'
    rw [halive hp hr] at ha
    rw [hlisteners, hrel ha]
    exact h.released T' y hy ha
  · obtain ⟨-, -, -, -, -, -, hg, -⟩ := hold T' y' hy'
    exact hg
  · obtain ⟨-, -, -, -, -, -, -, hp⟩ := hold T' y' hy'
    exact hp

omit [DecidableEq τ] in
theorem withStores_process (p q : π) (w : Stores) :
    ((s.withStores p w).processes q).restarts = (s.processes q).restarts ∧
      ((s.withStores p w).processes q).currentId = (s.processes q).currentId ∧
      ((s.withStores p w).processes q).transactionStore = (s.processes q).transactionStore := by
  by_cases hq : q = p
  · subst hq
    simp [State.withStores]
  · simp [State.withStores, hq]

omit [DecidableEq τ] in
theorem withHandshakes_process (p q : π) (h : Handshake.State) :
    ((s.withHandshakes p h).processes q).restarts = (s.processes q).restarts ∧
      ((s.withHandshakes p h).processes q).currentId = (s.processes q).currentId ∧
      ((s.withHandshakes p h).processes q).transactionStore = (s.processes q).transactionStore := by
  by_cases hq : q = p
  · subst hq
    simp [State.withHandshakes]
  · simp [State.withHandshakes, hq]

/-- `addListener` gives a new transaction an id that its instance has not used. -/
theorem registered_addListener (h : Registered s) {T : τ} (p : π) (webhookUrl : String)
    (hfree : s.transactions T = none) : Registered (s.addListener T p webhookUrl) := by
  have hprocesses : ∀ q, ((s.addListener T p webhookUrl).processes q).restarts =
        (s.processes q).restarts ∧
      ((s.addListener T p webhookUrl).processes q).currentId =
        (if q = p then (s.processes q).currentId + 1 else (s.processes q).currentId) ∧
      ∀ id, ((s.addListener T p webhookUrl).processes q).transactionStore id =
        if q = p ∧ id = (s.processes p).currentId + 1 then some T
        else (s.processes q).transactionStore id := by
    intro q
    by_cases hq : q = p
    · subst hq
      simp [State.addListener, Function.update_apply]
    · simp [State.addListener, hq]
  have halive : ∀ y, (s.addListener T p webhookUrl).alive y = s.alive y :=
    fun y => alive_congr (fun q => (hprocesses q).1) rfl rfl
  have hlisteners : (s.addListener T p webhookUrl).listeners T = ⟨true, 0⟩ := by
    simp [State.addListener, h.untouched T hfree]
  -- another transaction is as it was, and has another id
  have hold : ∀ T' y, (s.addListener T p webhookUrl).transactions T' = some y → T' ≠ T →
      s.transactions T' = some y ∧
        (s.addListener T p webhookUrl).listeners T' = s.listeners T' := by
    intro T' y hy hT
    simp only [State.addListener, Function.update_of_ne hT] at hy
    exact ⟨hy, by simp [State.addListener, hT]⟩
  have hnew : ∀ y, (s.addListener T p webhookUrl).transactions T = some y →
      y.process = p ∧ y.restarts = (s.processes p).restarts ∧
        y.id = (s.processes p).currentId + 1 ∧ y.phase = .createSubscription ∧ y.handlers = [] := by
    intro y hy
    simp only [State.addListener, Function.update_self, Option.some.injEq] at hy
    subst hy
    exact ⟨rfl, rfl, rfl, rfl, rfl⟩
  have hother : ∀ T' y, s.transactions T' = some y → s.alive y = true →
      ¬ (y.process = p ∧ y.id = (s.processes p).currentId + 1) := by
    rintro T' y hy ha ⟨rfl, hid⟩
    have hle := h.id_le T' y hy ha
    omega
  refine ⟨fun T' y hy => ?_, fun T' y hy ha => ?_, fun T₁ T₂ y₁ y₂ hy₁ hy₂ ha₁ ha₂ hp hi => ?_,
    fun q id T' hentry => ?_, fun T' y hy ha hattached => ?_, fun T' hnone => ?_,
    fun T' y hy => ?_, fun T' y hy ha => ?_, fun T' y hy => ?_, fun T' y hy => ?_⟩
  · rw [(hprocesses _).1]
    by_cases hT : T' = T
    · subst hT
      obtain ⟨hp, hr, -⟩ := hnew y hy
      rw [hp, hr]
    · exact h.restarts_le T' y (hold T' y hy hT).1
  · rw [(hprocesses _).2.1]
    by_cases hT : T' = T
    · subst hT
      obtain ⟨hp, -, hi, -⟩ := hnew y hy
      rw [hp, hi, if_pos rfl]
    · rw [halive] at ha
      have hle := h.id_le T' y (hold T' y hy hT).1 ha
      split <;> omega
  · rw [halive] at ha₁ ha₂
    by_cases hT₁ : T₁ = T <;> by_cases hT₂ : T₂ = T
    · rw [hT₁, hT₂]
    · subst hT₁
      obtain ⟨hp₁, -, hi₁, -⟩ := hnew y₁ hy₁
      exact absurd ⟨hp ▸ hp₁, hi ▸ hi₁⟩ (hother T₂ y₂ (hold T₂ y₂ hy₂ hT₂).1 ha₂)
    · subst hT₂
      obtain ⟨hp₂, -, hi₂, -⟩ := hnew y₂ hy₂
      exact absurd ⟨hp ▸ hp₂, hi ▸ hi₂⟩ (hother T₁ y₁ (hold T₁ y₁ hy₁ hT₁).1 ha₁)
    · exact h.distinct T₁ T₂ y₁ y₂ (hold T₁ y₁ hy₁ hT₁).1 (hold T₂ y₂ hy₂ hT₂).1 ha₁ ha₂ hp hi
  · rw [(hprocesses q).2.2] at hentry
    split_ifs at hentry with hq
    · obtain ⟨rfl, rfl⟩ := hq
      cases hentry
      refine ⟨_, Function.update_self .., rfl, ?_, rfl, by rw [hlisteners]⟩
      rw [halive]
      simp [State.alive]
    · obtain ⟨y, hy, hp, ha, hi, hattached⟩ := h.entry q id T' hentry
      have hT : T' ≠ T := by
        rintro rfl
        rw [hfree] at hy
        cases hy
      have hy' : (s.addListener T p webhookUrl).transactions T' = some y := by
        simp only [State.addListener, Function.update_of_ne hT, hy]
      refine ⟨y, hy', hp, (halive y).trans ha, hi, ?_⟩
      rw [(hold T' y hy' hT).2]
      exact hattached
  · rw [halive] at ha
    rw [(hprocesses _).2.2]
    by_cases hT : T' = T
    · subst hT
      obtain ⟨hp, -, hi, -⟩ := hnew y hy
      rw [if_pos ⟨hp, hi⟩]
    · obtain ⟨hy, hl⟩ := hold T' y hy hT
      rw [if_neg (hother T' y hy ha)]
      exact h.attached T' y hy ha (hl ▸ hattached)
  · by_cases hT : T' = T
    · subst hT
      simp [State.addListener] at hnone
    · simp only [State.addListener, Function.update_of_ne hT] at hnone ⊢
      exact h.untouched T' hnone
  · by_cases hT : T' = T
    · subst hT
      exact .inl hlisteners
    · obtain ⟨hy, hl⟩ := hold T' y hy hT
      rw [hl]
      exact h.unsubs T' y hy
  · by_cases hT : T' = T
    · subst hT
      obtain ⟨-, -, -, -, hh⟩ := hnew y hy
      simp [hlisteners, hh]
    · rw [halive] at ha
      obtain ⟨hy, hl⟩ := hold T' y hy hT
      rw [hl]
      exact h.released T' y hy ha
  all_goals by_cases hT : T' = T
  · subst hT
    obtain ⟨-, -, -, -, hh⟩ := hnew y hy
    simp [hh]
  · exact h.handler_id T' y (hold T' y hy hT).1
  · subst hT
    obtain ⟨-, -, -, -, hh⟩ := hnew y hy
    exact fun _ => hh
  · exact h.handlers T' y (hold T' y hy hT).1

omit [DecidableEq τ] in
/-- A restart leaves the instance without entries and without transactions that are alive. -/
theorem registered_restart (h : Registered s) (p : π) : Registered (s.restart p) := by
  have halive : ∀ T x, s.transactions T = some x →
      ((s.restart p).alive x = true ↔ s.alive x = true ∧ x.process ≠ p) := by
    intro T x hx
    have hle := h.restarts_le T x hx
    by_cases hp : x.process = p
    · subst hp
      simp only [State.alive, State.restart, Function.update_self, Process.init,
        decide_eq_true_eq, ne_eq, not_true_eq_false, and_false, iff_false]
      omega
    · simp [State.alive, State.restart, hp]
  have hprocess : ∀ q, q ≠ p → (s.restart p).processes q = s.processes q := by
    intro q hq
    simp [State.restart, hq]
  refine ⟨fun T x hx => ?_, fun T x hx ha => ?_, fun T T' x x' hx hx' ha ha' => ?_,
    fun q id T hentry => ?_, fun T x hx ha => ?_, h.untouched, h.unsubs, fun T x hx ha => ?_,
    h.handler_id, h.handlers⟩
  · have hle := h.restarts_le T x hx
    by_cases hp : x.process = p
    · subst hp
      simp only [State.restart, Function.update_self, Process.init]
      omega
    · rwa [hprocess _ hp]
  · obtain ⟨ha, hp⟩ := (halive T x hx).1 ha
    rw [hprocess _ hp]
    exact h.id_le T x hx ha
  · exact h.distinct T T' x x' hx hx' ((halive T x hx).1 ha).1 ((halive T' x' hx').1 ha').1
  · by_cases hq : q = p
    · subst hq
      simp [State.restart, Process.init] at hentry
    · rw [hprocess q hq] at hentry
      obtain ⟨x, hx, hp, ha, hi, hattached⟩ := h.entry q id T hentry
      exact ⟨x, hx, hp, (halive T x hx).2 ⟨ha, hp ▸ hq⟩, hi, hattached⟩
  · obtain ⟨ha, hp⟩ := (halive T x hx).1 ha
    rw [hprocess _ hp]
    exact h.attached T x hx ha
  · exact h.released T x hx ((halive T x hx).1 ha).1

/-- What releasing the listener of `T` changes: its entry, and the listener itself. -/
theorem commit_released (h : Registered s) {T : τ} {x : Submission π} {i : ℕ} {g' : StatusHandler}
    {w : Stores} (hx : s.transactions T = some x) (halive : s.alive x = true)
    (hentry : (s.processes x.process).transactionStore x.id = some T) (hid : g'.id = x.id) :
    (∀ q id, ((s.commit T x i g' w true).processes q).transactionStore id =
        if q = x.process ∧ id = x.id then none else (s.processes q).transactionStore id) ∧
      (s.commit T x i g' w true).listeners = Function.update s.listeners T ⟨false, 1⟩ := by
  constructor
  · intro q id
    by_cases hq : q = x.process
    · subst hq
      simp [State.commit, State.release, State.withStores, State.withTransaction,
        Function.update_apply, hid]
    · simp [State.commit, State.release, State.withStores, State.withTransaction, hq]
  · funext T'
    have hstore : ((((s.withStores x.process w).withTransaction T
        { x with handlers := x.handlers.set i g' }).processes x.process).transactionStore x.id) =
          some T := by
      simpa [State.withStores, State.withTransaction] using hentry
    simp only [State.commit, if_true, State.release, hid, hstore, Option.some.injEq]
    by_cases hT : T' = T
    · subst hT
      rw [if_pos rfl, Function.update_self]
      have hattached : (s.listeners T').attached = true := by
        rw [← h.entry_isSome hx halive, hentry]
        rfl
      obtain hl | hl := h.unsubs T' x hx
      · show (⟨false, (s.listeners T').unsubs + 1⟩ : Listener) = ⟨false, 1⟩
        rw [hl]
      · rw [hl] at hattached
        cases hattached
    · rw [if_neg (Ne.symm hT), Function.update_of_ne hT]
      rfl

/-- The handler of a terminal status takes away the entry and calls `unsubCallback`. -/
theorem registered_release (h : Registered s) {T : τ} {x : Submission π} {i : ℕ}
    {g g' : StatusHandler} {w : Stores} (hx : s.transactions T = some x) (halive : s.alive x = true)
    (hg : x.handlers[i]? = some g) (hid : g'.id = g.id) (hreleased : g'.released = true)
    (hrunning : x.phase = .running)
    (hstored : ((s.processes x.process).transactionStore g.id).isSome = true) :
    Registered (s.commit T x i g' w true) := by
  have hgid : g.id = x.id := h.handler_id T x hx g (List.mem_of_getElem? hg)
  have hentry : (s.processes x.process).transactionStore x.id = some T := by
    rw [hgid, h.entry_isSome hx halive] at hstored
    exact h.attached T x hx halive hstored
  obtain ⟨hstore, hlisteners⟩ := commit_released (i := i) (w := w) h hx halive hentry
    (hid.trans hgid)
  have halive' : ∀ y y' : Submission π, y'.process = y.process → y'.restarts = y.restarts →
      (s.commit T x i g' w true).alive y' = s.alive y :=
    fun y y' => alive_congr fun q => by simp
  -- another transaction is as it was, and `T` has the handler that released it
  have hold : ∀ T' y', (s.commit T x i g' w true).transactions T' = some y' →
      T' = T ∧ y' = { x with handlers := x.handlers.set i g' } ∨
        T' ≠ T ∧ s.transactions T' = some y' := by
    intro T' y' hy'
    rw [State.commit_transactions] at hy'
    exact eq_or_of_update hy'
  have hmem : g' ∈ x.handlers.set i g' := by
    obtain ⟨hi, -⟩ := List.getElem?_eq_some_iff.1 hg
    exact List.mem_set hi g'
  refine ⟨fun T' y' hy' => ?_, fun T' y' hy' ha => ?_, fun T₁ T₂ y₁ y₂ hy₁ hy₂ ha₁ ha₂ hp hi => ?_,
    fun q id T' hentry' => ?_, fun T' y' hy' ha hattached => ?_, fun T' hnone => ?_,
    fun T' y' hy' => ?_, fun T' y' hy' ha => ?_, fun T' y' hy' => ?_, fun T' y' hy' => ?_⟩
  · rw [State.commit_restarts]
    obtain ⟨rfl, rfl⟩ | ⟨-, hy⟩ := hold T' y' hy'
    · exact h.restarts_le T' x hx
    · exact h.restarts_le T' y' hy
  · rw [State.commit_currentId]
    obtain ⟨rfl, rfl⟩ | ⟨-, hy⟩ := hold T' y' hy'
    · exact h.id_le T' x hx halive
    · exact h.id_le T' y' hy ((halive' y' y' rfl rfl) ▸ ha)
  · obtain ⟨rfl, rfl⟩ | ⟨-, hz₁⟩ := hold T₁ y₁ hy₁ <;>
      obtain ⟨rfl, rfl⟩ | ⟨-, hz₂⟩ := hold T₂ y₂ hy₂
    · rfl
    · exact h.distinct T₁ T₂ x y₂ hx hz₂ halive ((halive' y₂ y₂ rfl rfl) ▸ ha₂) hp hi
    · exact h.distinct T₁ T₂ y₁ x hz₁ hx ((halive' y₁ y₁ rfl rfl) ▸ ha₁) halive hp hi
    · exact h.distinct T₁ T₂ y₁ y₂ hz₁ hz₂ ((halive' y₁ y₁ rfl rfl) ▸ ha₁)
        ((halive' y₂ y₂ rfl rfl) ▸ ha₂) hp hi
  · rw [hstore] at hentry'
    split_ifs at hentry' with hq
    obtain ⟨y, hy, hp, ha, hi, hattached⟩ := h.entry q id T' hentry'
    have hT : T' ≠ T := by
      rintro rfl
      rw [hx] at hy
      cases hy
      exact hq ⟨hp.symm, hi.symm⟩
    refine ⟨y, ?_, hp, (halive' y y rfl rfl).trans ha, hi, ?_⟩
    · rw [State.commit_transactions, Function.update_of_ne hT, hy]
    · rw [hlisteners, Function.update_of_ne hT, hattached]
  · rw [hlisteners] at hattached
    obtain ⟨rfl, rfl⟩ | ⟨hT, hy⟩ := hold T' y' hy'
    · rw [Function.update_self] at hattached
      cases hattached
    · rw [Function.update_of_ne hT] at hattached
      rw [halive' y' y' rfl rfl] at ha
      have hold' := h.attached T' y' hy ha hattached
      rw [hstore, if_neg, hold']
      rintro ⟨hp, hi⟩
      exact hT (h.distinct T' T y' x hy hx ha halive hp hi)
  · rw [State.commit_transactions, Function.update_apply] at hnone
    split_ifs at hnone with hT
    rw [hlisteners, Function.update_of_ne hT]
    exact h.untouched T' hnone
  · rw [hlisteners]
    obtain ⟨rfl, rfl⟩ | ⟨hT, hy⟩ := hold T' y' hy'
    · rw [Function.update_self]
      exact .inr rfl
    · rw [Function.update_of_ne hT]
      exact h.unsubs T' y' hy
  · rw [hlisteners]
    obtain ⟨rfl, rfl⟩ | ⟨hT, hy⟩ := hold T' y' hy'
    · rw [Function.update_self]
      exact ⟨fun _ => ⟨g', hmem, hreleased⟩, fun _ => rfl⟩
    · rw [Function.update_of_ne hT]
      exact h.released T' y' hy ((halive' y' y' rfl rfl) ▸ ha)
  · obtain ⟨rfl, rfl⟩ | ⟨hT, hy⟩ := hold T' y' hy'
    · intro f hf
      obtain hf | rfl := List.mem_or_eq_of_mem_set hf
      · exact h.handler_id T' x hx f hf
      · exact hid.trans hgid
    · exact h.handler_id T' y' hy
  · obtain ⟨rfl, rfl⟩ | ⟨hT, hy⟩ := hold T' y' hy'
    · exact fun hne => absurd hrunning hne
    · exact h.handlers T' y' hy

theorem commit_kept {T : τ} {x : Submission π} {i : ℕ} {g' : StatusHandler} {w : Stores} (q : π) :
    ((s.commit T x i g' w false).processes q).transactionStore =
      (s.processes q).transactionStore :=
  (withStores_process x.process q w).2.2

/-- **One step.** -/
theorem registered_next (h : Registered s) (hst : next config s a = some s') : Registered s' := by
  cases next_cases hst with
  | tick => exact h.congr (fun q => ⟨rfl, rfl, rfl⟩) rfl rfl
  | submitAndSubscribe T p webhookUrl hfree => exact registered_addListener h p webhookUrl hfree
  | subscriptionCreated T x hx halive hphase =>
    have hnil := h.handlers T x hx (by simp [hphase])
    exact h.update hx (fun q => withHandshakes_process x.process q _) rfl rfl rfl rfl rfl
      (fun _ => Iff.rfl) (h.handler_id T x hx) fun _ => hnil
  | subscriptionRejected T x hx halive hphase =>
    have hnil := h.handlers T x hx (by simp [hphase])
    exact h.update hx (fun q => ⟨rfl, rfl, rfl⟩) rfl rfl rfl rfl rfl (fun _ => Iff.rfl)
      (h.handler_id T x hx) fun _ => hnil
  | nonceSet T x outcome k hx halive hphase hk =>
    have hnil := h.handlers T x hx (by simp [hphase])
    exact h.update hx (fun q => ⟨rfl, rfl, rfl⟩) rfl rfl rfl rfl rfl (fun _ => Iff.rfl)
      (h.handler_id T x hx) fun _ => hnil
  | statusChange T x transaction hx halive hattached hphase =>
    refine h.update hx (fun q => withStores_process x.process q _) rfl rfl rfl rfl rfl (fun _ => ?_)
      (fun g hg => ?_) fun hne => absurd hphase hne
    · simp [StatusHandler.not_released_of_call, or_and_right, exists_or]
    · obtain hold | hnew := List.mem_append.1 hg
      · exact h.handler_id T x hx g hold
      · rw [List.mem_singleton.1 hnew]
        exact StatusHandler.id_of_call _ _ _
  | handler T x i reply g g' w freed hx halive hg hcase =>
    have hmem := List.mem_of_getElem? hg
    have hrunning : x.phase = .running := by
      by_contra hne
      rw [h.handlers T x hx hne] at hmem
      cases hmem
    cases freed with
    -- the entry is found, and listener and entry go
    | true =>
      obtain ⟨hreleased, hstored⟩ := hcase.of_freed
      exact registered_release h hx halive hg hcase.id_eq.1 hreleased hrunning hstored
    | false =>
      refine h.update hx (fun q => ⟨by simp, by simp, commit_kept q⟩) rfl State.commit_transactions
        rfl rfl rfl (fun _ => ?_) (fun f hf => ?_) fun hne => absurd hrunning hne
      · constructor
        · rintro ⟨f, hf, hreleased⟩
          obtain hf | rfl := List.mem_or_eq_of_mem_set hf
          · exact ⟨f, hf, hreleased⟩
          · obtain hold | hfalse | ⟨hstored, -⟩ := hcase.released_iff.1 hreleased
            · exact ⟨g, hmem, hold⟩
            · cases hfalse
            · -- the entry was gone: another handler has released the listener
              rw [h.handler_id T x hx g hmem, h.entry_isSome hx halive] at hstored
              exact (h.released T x hx halive).1 hstored
        · exact exists_mem_set hg fun hreleased => hcase.released_iff.2 (.inl hreleased)
      · obtain hf | rfl := List.mem_or_eq_of_mem_set hf
        · exact h.handler_id T x hx f hf
        · exact hcase.id_eq.1.trans (h.handler_id T x hx g hmem)
  | handshake p a' h' hstep =>
    exact h.congr (fun q => withHandshakes_process p q h') rfl rfl
  | restart p => exact registered_restart h p

/-! ### Steps that leave nothing behind -/

omit [DecidableEq π] [DecidableEq τ] in
/-- Neither call that `submitAndSubscribe` awaits fails, the payload of a terminal status can be
assembled, and a `createEvent` for one is not rejected while the entry is there. -/
def NeverLeaks (s : State π τ) : Act π τ → Prop
  | .createSubscription _ resolved => resolved = true
  | .updateSubscription _ outcome => outcome.ok = true
  | .statusChange _ transaction => transaction.status.isTerminal = true → transaction.Complete
  | .handler T i .proceed => ∀ x ∈ s.transactions T, ∀ h ∈ x.handlers[i]?,
      h.status.isTerminal = true → h.eventRejected = true →
        (s.processes x.process).transactionStore h.id = none
  | _ => True

omit [DecidableEq π] in
instance (s : State π τ) : DecidablePred (NeverLeaks s)
  | .createSubscription _ resolved => inferInstanceAs (Decidable (resolved = true))
  | .updateSubscription _ outcome => inferInstanceAs (Decidable (outcome.ok = true))
  | .statusChange _ transaction =>
    inferInstanceAs (Decidable (transaction.status.isTerminal = true → transaction.Complete))
  | .handler T i .proceed =>
    inferInstanceAs (Decidable (∀ x ∈ s.transactions T, ∀ h ∈ x.handlers[i]?,
      h.status.isTerminal = true → h.eventRejected = true →
        (s.processes x.process).transactionStore h.id = none))
  | .handler _ _ (.event _) | .handler _ _ (.findAll _) | .handler _ _ (.update _ _) | .tick
  | .submitAndSubscribe _ _ _ | .handshake _ _ | .restart _ => .isTrue trivial

section

omit [DecidableEq π] [DecidableEq τ]

/-- A transaction that was rejected, or whose terminal status was handled, is not listened to. -/
def Clean (s : State π τ) : Prop :=
  ∀ T x, s.transactions T = some x → s.alive x = true →
    (x.phase = .rejected ∨ ∃ h ∈ x.handlers, h.terminated = true) → (s.listeners T).attached = false

theorem entry_eq_none (h : Registered s) {T : τ} {x : Submission π}
    (hx : s.transactions T = some x) (halive : s.alive x = true)
    (hattached : (s.listeners T).attached = false) :
    (s.processes x.process).transactionStore x.id = none := by
  have hsome := h.entry_isSome hx halive
  rw [hattached] at hsome
  simpa using hsome

theorem leakFree_iff (h : Registered s) : LeakFree s ↔ Clean s := by
  constructor
  · rintro hleak T x hx halive (hrejected | ⟨g, hg, hended⟩)
    · exact (hleak.rejected T x hx halive hrejected).2
    · have hunsubs := (hleak.terminated T x hx halive g hg hended).2
      obtain hl | hl := h.unsubs T x hx
      · rw [hl] at hunsubs
        cases hunsubs
      · rw [hl]
  · intro hclean
    have hgone : ∀ T x, s.transactions T = some x → s.alive x = true →
        (s.listeners T).attached = false →
        (s.processes x.process).transactionStore x.id = none ∧ (s.listeners T).unsubs = 1 := by
      intro T x hx halive hattached
      refine ⟨entry_eq_none h hx halive hattached, ?_⟩
      obtain hl | hl := h.unsubs T x hx
      · rw [hl] at hattached
        cases hattached
      · rw [hl]
    refine ⟨fun p hquiet id => ⟨fun hsome => ?_, ?_⟩, fun T x hx halive hrejected => ?_,
      fun T x hx halive g hg hended => ?_⟩
    · obtain ⟨T, hentry⟩ := Option.isSome_iff_exists.1 hsome
      obtain ⟨x, hx, hp, halive, hi, hattached⟩ := h.entry p id T hentry
      -- it is listened to, so it was neither rejected nor handled
      have hnot : ¬ (x.phase = .rejected ∨ ∃ g ∈ x.handlers, g.terminated = true) := by
        intro hor
        rw [hclean T x hx halive hor] at hattached
        cases hattached
      refine ⟨T, x, hx, hp, halive, hi, ?_, fun g hg => ?_⟩
      · exact (hquiet T x hx hp halive).1.resolve_right fun hrejected => hnot (.inl hrejected)
      · rw [Bool.eq_false_iff]
        exact fun hended => hnot (.inr ⟨g, hg, hended⟩)
    · rintro ⟨T, x, hx, rfl, halive, rfl, hrunning, hnone⟩
      rw [h.entry_isSome hx halive]
      by_contra hattached
      -- a handler that released the listener has returned
      obtain ⟨g, hg, hreleased⟩ := (h.released T x hx halive).1 (by simpa using hattached)
      have hterminal := (Bool.and_eq_true_iff.1 hreleased).1
      have hreturned := (hquiet T x hx rfl halive).2 g hg
      have hended := hnone g hg
      rw [StatusHandler.terminated, hterminal, hreturned] at hended
      cases hended
    · have hattached := hclean T x hx halive (.inl hrejected)
      exact ⟨(hgone T x hx halive hattached).1, hattached⟩
    · exact hgone T x hx halive (hclean T x hx halive (.inr ⟨g, hg, hended⟩))

end

omit [DecidableEq π] in
theorem Clean.update (hclean : Clean s) {T : τ} {x' : Submission π}
    (hrestarts : ∀ p, (s'.processes p).restarts = (s.processes p).restarts)
    (htransactions : s'.transactions = Function.update s.transactions T (some x'))
    (hlisteners : ∀ T', T' ≠ T → s'.listeners T' = s.listeners T')
    (hT : s'.alive x' = true → (x'.phase = .rejected ∨ ∃ g ∈ x'.handlers, g.terminated = true) →
      (s'.listeners T).attached = false) : Clean s' := by
  intro T' y hy halive hor
  rw [htransactions] at hy
  obtain ⟨rfl, rfl⟩ | ⟨hne, hold⟩ := eq_or_of_update hy
  · exact hT halive hor
  · rw [hlisteners T' hne]
    rw [alive_congr hrestarts rfl rfl] at halive
    exact hclean T' y hold halive hor

omit [DecidableEq π] [DecidableEq τ] in
theorem attached_of_not_running (h : Registered s) {T : τ} {x : Submission π}
    (hx : s.transactions T = some x) (halive : s.alive x = true) (hphase : x.phase ≠ .running) :
    (s.listeners T).attached = true := by
  by_contra hattached
  obtain ⟨g, hg, -⟩ := (h.released T x hx halive).1 (by simpa using hattached)
  rw [h.handlers T x hx hphase] at hg
  cases hg

omit [DecidableEq π] in
/-- A call that is rejected leaves its listener behind. -/
theorem not_clean_of_rejected {T : τ} {x' : Submission π}
    (htransactions : s'.transactions = Function.update s.transactions T (some x'))
    (halive : s'.alive x' = true) (hrejected : x'.phase = .rejected)
    (hattached : (s'.listeners T).attached = true) : ¬ Clean s' := by
  intro hclean
  have hx' : s'.transactions T = some x' := by rw [htransactions, Function.update_self]
  rw [hclean T x' hx' halive (.inl hrejected)] at hattached
  cases hattached

/-- What a handler that has been called can be: it has returned only if the payload of its status
could not be assembled. -/
theorem terminated_of_call (w : Stores) (id : ℕ) (transaction : Transaction) :
    (w.handleTransactionStatusChange id transaction).2.terminated = true ↔
      transaction.status.isTerminal = true ∧ ¬ transaction.Complete := by
  rw [← transaction.isSome_assemblePayload none]
  unfold Stores.handleTransactionStatusChange
  split
  · rename_i payload hpayload
    simp [StatusHandler.terminated, StatusHandler.returned, hpayload]
  · rename_i hpayload
    simp [StatusHandler.terminated, StatusHandler.returned, hpayload]

/-- **One step leaves nothing behind** exactly if it is one that never does. -/
theorem clean_next (h : Registered s) (hclean : Clean s) (hst : next config s a = some s') :
    Clean s' ↔ NeverLeaks s a := by
  cases next_cases hst with
  | tick => exact ⟨fun _ => trivial, fun _ => hclean⟩
  | submitAndSubscribe T p webhookUrl hfree =>
    refine ⟨fun _ => trivial, fun _ => hclean.update (fun q => ?_) rfl (fun T' hT => ?_) ?_⟩
    · by_cases hq : q = p
      · subst hq
        simp [State.addListener]
      · simp [State.addListener, hq]
    · simp [State.addListener, hT]
    · rintro - (hrejected | ⟨g, hg, -⟩)
      · cases hrejected
      · cases hg
  | subscriptionCreated T x hx halive hphase =>
    have hnil := h.handlers T x hx (by simp [hphase])
    refine ⟨fun _ => rfl, fun _ => hclean.update (fun q => (withHandshakes_process x.process q _).1)
      rfl (fun _ _ => rfl) ?_⟩
    rintro - (hrejected | ⟨g, hg, -⟩)
    · cases hrejected
    · rw [hnil] at hg
      cases hg
  | subscriptionRejected T x hx halive hphase =>
    -- the call ends here, and nothing will ever take the listener away
    have hattached := attached_of_not_running h hx halive (by simp [hphase])
    have hnot : ¬ Clean (s.withTransaction T { x with phase := .rejected }) :=
      not_clean_of_rejected rfl halive rfl hattached
    exact ⟨fun hc => absurd hc hnot, fun hfalse => nomatch hfalse⟩
  | nonceSet T x outcome k hx halive hphase hk =>
    have hnil := h.handlers T x hx (by simp [hphase])
    have hattached := attached_of_not_running h hx halive (by simp [hphase])
    show _ ↔ outcome.ok = true
    cases hok : outcome.ok with
    | true =>
      refine ⟨fun _ => rfl, fun _ => hclean.update (fun _ => rfl) rfl (fun _ _ => rfl) ?_⟩
      rintro - (hrejected | ⟨g, hg, -⟩)
      · simp at hrejected
      · simp [hnil] at hg
    | false =>
      -- as above, but the second call of `submitAndSubscribe` has failed
      refine ⟨fun hc => absurd hc (not_clean_of_rejected rfl halive ?_ hattached),
        fun hfalse => nomatch hfalse⟩
      simp
  | statusChange T x transaction hx halive hattached hphase =>
    constructor
    · intro hc hterminal
      by_contra hnot
      -- without a payload the handler of a terminal status ends before it comes to the listener
      have hended := (terminated_of_call (s.stores x.process) x.id transaction).2 ⟨hterminal, hnot⟩
      have halive' := (alive_congr (fun q => (withStores_process x.process q
        ((s.stores x.process).handleTransactionStatusChange x.id transaction).1).1) rfl rfl).trans
          halive
      have hgone := hc T _ (Function.update_self ..) halive'
        (.inr ⟨_, List.mem_append_right _ (List.mem_singleton_self _), hended⟩)
      rw [show (s.listeners T).attached = false from hgone] at hattached
      cases hattached
    · intro hcomplete
      refine hclean.update (fun q => (withStores_process x.process q _).1) rfl (fun _ _ => rfl) ?_
      rintro - (hrejected | ⟨g, hg, hended⟩)
      · simp [hphase] at hrejected
      · obtain hold | hnew := List.mem_append.1 hg
        · exact hclean T x hx halive (.inr ⟨g, hold, hended⟩)
        · rw [List.mem_singleton.1 hnew, terminated_of_call] at hended
          exact absurd (hcomplete hended.1) hended.2
  | handler T x i reply g g' w freed hx halive hg hcase =>
    have hmem := List.mem_of_getElem? hg
    have hgid := h.handler_id T x hx g hmem
    have hentry := h.entry_isSome hx halive
    constructor
    · intro hc
      cases hcase with
      | event | lookUp | lookUpRejected | update | updateRejected | lateUpdate => trivial
      | eventCreated c hstage hcall hresolved | release c hstage hcall hresolved
      | noEntry c hstage hcall hresolved =>
        intro y hy f hf hterminal hrejected
        rw [Option.mem_def, hx, Option.some.injEq] at hy
        subst hy
        rw [Option.mem_def, hg, Option.some.injEq] at hf
        subst hf
        simp [StatusHandler.eventRejected, hcall, hresolved] at hrejected
      | eventRejected c hstage hcall failed pending hrejected =>
        intro y hy f hf hterminal _
        rw [Option.mem_def, hx, Option.some.injEq] at hy
        subst hy
        rw [Option.mem_def, hg, Option.some.injEq] at hf
        subst hf
        -- the handler has ended, so its listener is gone, and the entry has gone with it
        obtain ⟨hi, -⟩ := List.getElem?_eq_some_iff.1 hg
        have hgone : (s.listeners T).attached = false := by
          refine hc T _ State.commit_transactions_self
            ((alive_congr (fun q => State.commit_restarts q) rfl rfl).trans halive)
            (.inr ⟨_, List.mem_set hi _, ?_⟩)
          simp [StatusHandler.terminated, StatusHandler.returned, hterminal]
        rw [hgid]
        exact entry_eq_none h hx halive hgone
    · intro hnever
      cases freed with
      | true =>
        -- it has found the entry, which still has the listener of this transaction
        obtain ⟨-, hstored⟩ := hcase.of_freed
        rw [hgid, hentry] at hstored
        obtain ⟨-, hlisteners⟩ := commit_released (i := i) (w := w) h hx halive
          (h.attached T x hx halive hstored) (hcase.id_eq.1.trans hgid)
        refine hclean.update (fun q => by simp) State.commit_transactions (fun T' hT => ?_)
          fun _ _ => ?_
        · rw [hlisteners, Function.update_of_ne hT]
        · rw [hlisteners, Function.update_self]
      | false =>
        refine hclean.update (fun q => by simp) State.commit_transactions (fun _ _ => rfl) ?_
        rintro - (hrejected | ⟨f, hf, hended⟩)
        · exact hclean T x hx halive (.inl hrejected)
        · obtain hold | rfl := List.mem_or_eq_of_mem_set hf
          · exact hclean T x hx halive (.inr ⟨f, hold, hended⟩)
          · obtain hold | hreleased | ⟨rfl, hterminal, hrejected⟩ := hcase.terminated_cases hended
            · exact hclean T x hx halive (.inr ⟨g, hmem, hold⟩)
            · -- it found no entry: another handler has released the listener
              obtain hold | hfalse | ⟨hstored, -⟩ := hcase.released_iff.1 hreleased
              · exact (h.released T x hx halive).2 ⟨g, hmem, hold⟩
              · cases hfalse
              · rw [hgid, hentry] at hstored
                exact hstored
            · have hnone := hnever x hx g hg hterminal hrejected
              rw [hgid] at hnone
              rw [hnone] at hentry
              exact hentry.symm
  | handshake p a' h' hstep =>
    refine ⟨fun _ => trivial, fun _ T x hx halive hor => hclean T x hx ?_ hor⟩
    rwa [alive_congr (fun q => (withHandshakes_process p q h').1) rfl rfl] at halive
  | restart p =>
    refine ⟨fun _ => trivial, fun _ T x hx halive hor => hclean T x hx ?_ hor⟩
    -- what was alive in this instance is no more
    have hle := h.restarts_le T x hx
    by_cases hp : x.process = p
    · subst hp
      simp only [State.alive, State.restart, Function.update_self, Process.init,
        decide_eq_true_eq] at halive
      omega
    · simpa [State.alive, State.restart, hp] using halive

/-- **No leak, exactly if no step of the run leaves anything behind**, for any number of
instances and transactions, in any interleaving and with any of the calls failing. -/
theorem leakFree_iff_neverLeaks {now : ℕ} {as : List (Act π τ)}
    (hrun : (machine π τ config).run (init now) as = some s) :
    (machine π τ config).Always LeakFree (init now) as ↔
      (machine π τ config).Meets NeverLeaks (init now) as := by
  have hclean : Clean (init now : State π τ) := fun T x hx => nomatch hx
  refine Machine.always_iff_meets (J := Registered) (fun _ _ _ h hst => registered_next h hst)
    (fun u b u' h hleak hst => ?_) hrun (registered_init now)
    ((leakFree_iff (registered_init now)).2 hclean)
  rw [leakFree_iff (registered_next h hst)]
  exact clean_next h ((leakFree_iff h).1 hleak) hst

/-- The listener of a transaction that succeeds is released, though `markSubsAsDone` fails. -/
theorem leakFree_succeeded : ∃ as : List (Act Bool Bool), ∃ s,
    (machine Bool Bool oneMinute).run (init 0) as = some s ∧
      s.listeners true = ⟨false, 1⟩ ∧
      (machine Bool Bool oneMinute).Always LeakFree (init 0) as := by
  have hrun : ((machine Bool Bool oneMinute).run (init 0)
      (submission true false ++ [.statusChange true succeeded,
        .handler true 0 (.event (.call true)), .handler true 0 (.event (.call true)),
        .handler true 0 .proceed, .handler true 0 (.findAll false)])).any
      (fun s => s.listeners true = ⟨false, 1⟩) = true := by decide
  obtain ⟨s, hs, hlisteners⟩ := (Option.any_eq_true ..).1 hrun
  exact ⟨_, s, hs, of_decide_eq_true hlisteners, (leakFree_iff_neverLeaks hs).2 (by decide)⟩

/-- A `createSubscription` that fails leaves the entry and the listener behind. -/
theorem left_by_createSubscription : ∃ s,
    (machine Unit Unit oneMinute).Reaches Machine.Unrestricted (init 0) s ∧ ¬ LeakFree s := by
  obtain ⟨s, hreach, hs⟩ := Machine.exists_reaches_of_run (M := machine Unit Unit oneMinute)
    (C := Machine.Unrestricted) (init 0)
    [.submitAndSubscribe () () "https://hook", .createSubscription () false]
    (fun s => (s.transactions ()).any fun x => s.alive x && x.phase = .rejected &&
      (s.listeners ()).attached) (by decide) (Machine.meets_unrestricted ..)
  obtain ⟨x, hx, hleft⟩ := (Option.any_eq_true ..).1 hs
  simp only [Bool.and_eq_true, decide_eq_true_eq] at hleft
  obtain ⟨⟨halive, hphase⟩, hattached⟩ := hleft
  refine ⟨s, hreach, fun hleak => ?_⟩
  rw [(hleak.rejected () x hx halive hphase).2] at hattached
  cases hattached

end Transactions

end PolymeshRest
