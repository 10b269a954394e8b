import PolymeshRest.Transactions.System

/-!
# The subscription of a transaction

What holds of transactions and their subscriptions in every run, whatever fails: every
subscription was created for one transaction, listens to its internal id, and is not taken away;
handlers report events of their own transaction, and concern subscriptions that are stored.

* `Transactions.State.Owns`
* `Transactions.Filed`, `Transactions.filed_of_reaches`
-/

namespace PolymeshRest

namespace Transactions

variable {π τ : Type*} [DecidableEq π] [DecidableEq τ] {config : Config} {s s' : State π τ}
  {a : Act π τ}

/-- `k` is the subscription created for the transaction `T`. -/
def State.Owns {π τ : Type*} (s : State π τ) (T : τ) (k : ℕ) : Prop :=
  ∃ x, s.transactions T = some x ∧ x.subscriptionId = some k

/-- Subscriptions belong to the transactions they were created for, and handlers work for theirs. -/
structure Filed (s : State π τ) : Prop where
  owner : ∀ k sub, s.subscriptions.rows k = some sub → ∃ T, s.Owns T k
  stored : ∀ T k, s.Owns T k → ∃ sub, s.subscriptions.rows k = some sub
  unique : ∀ T T' k, s.Owns T k → s.Owns T' k → T = T'
  unset : ∀ T x, s.transactions T = some x → x.phase = .createSubscription →
    x.subscriptionId = none
  /-- A subscription listens to the internal id of its transaction. -/
  scope : ∀ T x k sub, s.transactions T = some x → x.subscriptionId = some k →
    s.subscriptions.rows k = some sub →
      sub.eventScope = x.id.repr ∧ sub.eventType = .transactionUpdate
  handlers : ∀ T x, s.transactions T = some x → ∀ h ∈ x.handlers, h.id = x.id ∧ h.Reports
  /-- What a handler concerns is stored. -/
  concerns : ∀ T x, s.transactions T = some x → ∀ h ∈ x.handlers, ∀ k, h.Concerns k →
    ∃ sub, s.subscriptions.rows k = some sub

omit [DecidableEq π] [DecidableEq τ] in
theorem filed_init (now : ℕ) : Filed (init now : State π τ) where
  owner _ _ h := nomatch h
  stored _ _ := fun ⟨_, h, _⟩ => nomatch h
  unique _ _ _ := fun ⟨_, h, _⟩ => nomatch h
  unset _ _ h := nomatch h
  scope _ _ _ _ h := nomatch h
  handlers _ _ h := nomatch h
  concerns _ _ h := nomatch h

omit [DecidableEq π] in
/-- A step that updates subscriptions, and what is known of one transaction. -/
theorem Filed.update (h : Filed s) {T : τ} {x x' : Submission π} (hx : s.transactions T = some x)
    (hkeeps : s.subscriptions.Keeps s'.subscriptions)
    (htransactions : s'.transactions = Function.update s.transactions T (some x'))
    (hid : x'.id = x.id) (hsub : x'.subscriptionId = x.subscriptionId)
    (hphase : x'.phase = .createSubscription → x'.subscriptionId = none)
    (hhandlers : ∀ g ∈ x'.handlers, g.id = x.id ∧ g.Reports)
    (hconcerns : ∀ g ∈ x'.handlers, ∀ k, g.Concerns k →
      ∃ sub, s.subscriptions.rows k = some sub) : Filed s' := by
  -- what is known now of a transaction, and what was known of it
  have hold : ∀ T' y', s'.transactions T' = some y' → ∃ y, s.transactions T' = some y ∧
      y'.id = y.id ∧ y'.subscriptionId = y.subscriptionId ∧
      (y'.phase = .createSubscription → y'.subscriptionId = none) ∧
      (∀ g ∈ y'.handlers, g.id = y.id ∧ g.Reports) ∧
      ∀ g ∈ y'.handlers, ∀ k, g.Concerns k → ∃ sub, s.subscriptions.rows k = some sub := by
    intro T' y' hy'
    rw [htransactions] at hy'
    obtain ⟨rfl, rfl⟩ | ⟨-, hold⟩ := eq_or_of_update hy'
    · exact ⟨x, hx, hid, hsub, hphase, hhandlers, hconcerns⟩
    · exact ⟨y', hold, rfl, rfl, h.unset T' y' hold, h.handlers T' y' hold, h.concerns T' y' hold⟩
  have howns : ∀ T' k, s'.Owns T' k ↔ s.Owns T' k := by
    intro T' k
    constructor
    · rintro ⟨y', hy', hk⟩
      obtain ⟨y, hy, -, hsub', -⟩ := hold T' y' hy'
      exact ⟨y, hy, hsub' ▸ hk⟩
    · rintro ⟨y, hy, hk⟩
      by_cases hT : T' = T
      · subst hT
        rw [hx] at hy
        cases hy
        exact ⟨x', by rw [htransactions, Function.update_self], hsub.trans hk⟩
      · exact ⟨y, by rw [htransactions, Function.update_of_ne hT, hy], hk⟩
  have hrow : ∀ k sub, s.subscriptions.rows k = some sub →
      ∃ sub', s'.subscriptions.rows k = some sub' := by
    intro k sub hk
    obtain ⟨sub', hsub', -⟩ := hkeeps.row' hk
    exact ⟨sub', hsub'⟩
  refine ⟨fun k sub' hk => ?_, fun T' k hk => ?_, fun T' T'' k hk hk' => ?_, fun T' y' hy' => ?_,
    fun T' y' k sub' hy' hk hk' => ?_, fun T' y' hy' => ?_, fun T' y' hy' g hg k hk => ?_⟩
  · obtain ⟨sub, hk₀, -⟩ := hkeeps.row hk
    obtain ⟨T', hT'⟩ := h.owner k sub hk₀
    exact ⟨T', (howns T' k).2 hT'⟩
  · obtain ⟨sub, hk₀⟩ := h.stored T' k ((howns T' k).1 hk)
    exact hrow k sub hk₀
  · exact h.unique T' T'' k ((howns T' k).1 hk) ((howns T'' k).1 hk')
  · obtain ⟨-, -, -, -, hphase', -⟩ := hold T' y' hy'
    exact hphase'
  · obtain ⟨y, hy, hid', hsub', -⟩ := hold T' y' hy'
    obtain ⟨sub, hk₀, hfixed⟩ := hkeeps.row hk'
    obtain ⟨hscope, htype⟩ := h.scope T' y k sub hy (hsub' ▸ hk) hk₀
    rw [SubscriptionModel.eventScope_eq_of_fixed hfixed,
      SubscriptionModel.eventType_eq_of_fixed hfixed, hid']
    exact ⟨hscope, htype⟩
  · obtain ⟨y, -, hid', -, -, hhandlers', -⟩ := hold T' y' hy'
    rw [hid']
    exact hhandlers'
  · obtain ⟨-, -, -, -, -, -, hconcerns'⟩ := hold T' y' hy'
    obtain ⟨sub, hk₀⟩ := hconcerns' g hg k hk
    exact hrow k sub hk₀

/-- A new subscription belongs to the transaction it is created for, which had none. -/
theorem filed_create (h : Filed s) {T : τ} {x : Submission π} (hx : s.transactions T = some x)
    (hphase : x.phase = .createSubscription) : Filed
      ((s.withHandshakes x.process ((s.handshakes x.process).createSubscription
        config.subscriptions (config.subscriptionFor x))).withTransaction T
        { x with
          phase := .updateSubscription
          subscriptionId := some (s.subscriptions.currentId + 1) }) := by
  have hnone := h.unset T x hx hphase
  have hfree : ∀ T', ¬ s.Owns T' (s.subscriptions.currentId + 1) := by
    intro T' hT'
    obtain ⟨sub, hsub⟩ := h.stored T' _ hT'
    simp at hsub
  set new : Submission π := { x with
    phase := .updateSubscription, subscriptionId := some (s.subscriptions.currentId + 1) } with hnew
  set t := (s.withHandshakes x.process ((s.handshakes x.process).createSubscription
    config.subscriptions (config.subscriptionFor x))).withTransaction T new with ht
  have htransactions : t.transactions = Function.update s.transactions T (some new) := rfl
  have hrows : ∀ k, t.subscriptions.rows k = if k = s.subscriptions.currentId + 1 then
      some ((config.subscriptions.paramsOf s.now (config.subscriptionFor x)).toModel k)
    else s.subscriptions.rows k := fun _ => rfl
  have hkept : ∀ k sub, s.subscriptions.rows k = some sub → t.subscriptions.rows k = some sub :=
    fun k sub => Table.insert_rows_of_some (SubscriptionParams.toModel_id _)
  have howns : ∀ T' k, t.Owns T' k ↔
      s.Owns T' k ∨ T' = T ∧ k = s.subscriptions.currentId + 1 := by
    intro T' k
    unfold State.Owns
    rw [htransactions]
    by_cases hT : T' = T
    · subst hT
      simp [hx, hnone, hnew, eq_comm]
    · simp [hT]
  refine ⟨fun k sub hrow => ?_, fun T' k hk => ?_, fun T' T'' k hk hk' => ?_,
    fun T' y hy => ?_, fun T' y k sub hy hk hrow => ?_, fun T' y hy => ?_,
    fun T' y hy g hg k hk => ?_⟩
  · rw [hrows] at hrow
    split_ifs at hrow with hk
    · exact ⟨T, (howns T k).2 (.inr ⟨rfl, hk⟩)⟩
    · obtain ⟨T', hT'⟩ := h.owner k sub hrow
      exact ⟨T', (howns T' k).2 (.inl hT')⟩
  · obtain hold | ⟨rfl, rfl⟩ := (howns T' k).1 hk
    · obtain ⟨sub, hsub⟩ := h.stored T' k hold
      exact ⟨sub, hkept k sub hsub⟩
    · exact ⟨_, (hrows _).trans (if_pos rfl)⟩
  · rw [howns] at hk hk'
    rcases hk with hk | ⟨rfl, rfl⟩ <;> rcases hk' with hk' | ⟨rfl, hk'⟩
    · exact h.unique T' T'' k hk hk'
    · exact absurd (hk' ▸ hk) (hfree T')
    · exact absurd hk' (hfree T'')
    · rfl
  all_goals
    rw [htransactions] at hy
    by_cases hT : T' = T
  · rw [hT, Function.update_self, Option.some.injEq] at hy
    subst hy
    exact fun hp => nomatch hp
  · rw [Function.update_of_ne hT] at hy
    exact h.unset T' y hy
  · rw [hT, Function.update_self, Option.some.injEq] at hy
    subst hy
    cases hk
    rw [hrows, if_pos rfl, Option.some.injEq] at hrow
    subst hrow
    exact ⟨rfl, rfl⟩
  · rw [Function.update_of_ne hT] at hy
    have hne : k ≠ s.subscriptions.currentId + 1 := by
      rintro rfl
      exact hfree T' ⟨y, hy, hk⟩
    rw [hrows, if_neg hne] at hrow
    exact h.scope T' y k sub hy hk hrow
  · rw [hT, Function.update_self, Option.some.injEq] at hy
    subst hy
    exact h.handlers T x hx
  · rw [Function.update_of_ne hT] at hy
    exact h.handlers T' y hy
  · rw [hT, Function.update_self, Option.some.injEq] at hy
    subst hy
    obtain ⟨sub, hsub⟩ := h.concerns T x hx g hg k hk
    exact ⟨sub, hkept k sub hsub⟩
  · rw [Function.update_of_ne hT] at hy
    obtain ⟨sub, hsub⟩ := h.concerns T' y hy g hg k hk
    exact ⟨sub, hkept k sub hsub⟩

/-- **One step.** -/
theorem filed_next (h : Filed s) (hst : next config s a = some s') : Filed s' := by
  cases next_cases hst with
  | tick | restart p =>
    exact ⟨h.owner, h.stored, h.unique, h.unset, h.scope, h.handlers, h.concerns⟩
  | submitAndSubscribe T p webhookUrl hfree =>
    -- the new transaction owns nothing and has no handlers
    have hold : ∀ T' y, (s.addListener T p webhookUrl).transactions T' = some y →
        s.transactions T' = some y ∨ y.subscriptionId = none ∧ y.handlers = [] := by
      intro T' y hy
      simp only [State.addListener, Function.update_apply] at hy
      split_ifs at hy with hT
      · cases hy
        exact .inr ⟨rfl, rfl⟩
      · exact .inl hy
    have howns : ∀ T' k, (s.addListener T p webhookUrl).Owns T' k ↔ s.Owns T' k := by
      intro T' k
      constructor
      · rintro ⟨y, hy, hk⟩
        obtain hy | ⟨hnone, -⟩ := hold T' y hy
        · exact ⟨y, hy, hk⟩
        · rw [hnone] at hk
          cases hk
      · rintro ⟨y, hy, hk⟩
        have hT : T' ≠ T := by
          rintro rfl
          rw [hfree] at hy
          cases hy
        exact ⟨y, by simp only [State.addListener, Function.update_of_ne hT, hy], hk⟩
    refine ⟨fun k sub hrow => ?_, fun T' k hk => h.stored T' k ((howns T' k).1 hk),
      fun T' T'' k hk hk' => h.unique T' T'' k ((howns T' k).1 hk) ((howns T'' k).1 hk'),
      fun T' y hy hphase => ?_, fun T' y k sub hy hk hrow => ?_, fun T' y hy g hg => ?_,
      fun T' y hy g hg => ?_⟩
    · obtain ⟨T', hT'⟩ := h.owner k sub hrow
      exact ⟨T', (howns T' k).2 hT'⟩
    · obtain hy | ⟨hnone, -⟩ := hold T' y hy
      · exact h.unset T' y hy hphase
      · exact hnone
    · obtain hy | ⟨hnone, -⟩ := hold T' y hy
      · exact h.scope T' y k sub hy hk hrow
      · rw [hnone] at hk
        cases hk
    · obtain hy | ⟨-, hnil⟩ := hold T' y hy
      · exact h.handlers T' y hy g hg
      · rw [hnil] at hg
        cases hg
    · obtain hy | ⟨-, hnil⟩ := hold T' y hy
      · exact h.concerns T' y hy g hg
      · rw [hnil] at hg
        cases hg
  | subscriptionCreated T x hx halive hphase => exact filed_create h hx hphase
  | subscriptionRejected T x hx halive hphase =>
    exact h.update hx (.refl _) rfl rfl rfl (fun hp => nomatch hp) (h.handlers T x hx)
      (h.concerns T x hx)
  | nonceSet T x outcome k hx halive hphase hk =>
    refine h.update hx ?_ rfl rfl rfl (fun hp => ?_) (h.handlers T x hx) (h.concerns T x hx)
    · cases outcome with
      | rejected => exact .refl _
      | resolved | unconfirmed => exact SubscriptionRepo.keeps_update _ _ _
    · cases outcome <;> cases hp
  | statusChange T x transaction hx halive hattached hphase =>
    -- a handler that is called stores its event, and no subscription
    obtain ⟨hsubs, -⟩ := StatusHandler.stores_of_call (s.stores x.process) x.id transaction
    refine h.update hx ?_ rfl rfl rfl (fun hp => ?_) (fun g hg => ?_) fun g hg k hk => ?_
    · show s.subscriptions.Keeps
        ((s.stores x.process).handleTransactionStatusChange x.id transaction).1.subscriptions
      rw [hsubs]
      exact .refl _
    · rw [hphase] at hp
      cases hp
    all_goals obtain hold | hnew := List.mem_append.1 hg
    · exact h.handlers T x hx g hold
    · rw [List.mem_singleton.1 hnew]
      exact ⟨StatusHandler.id_of_call _ _ _, StatusHandler.reports_of_call _ _ _⟩
    · exact h.concerns T x hx g hold k hk
    · rw [List.mem_singleton.1 hnew] at hk
      exact absurd hk (StatusHandler.not_concerns_of_call _ _ _ k)
  | handler T x i reply g g' w released hx halive hg hcase =>
    have hmem := List.mem_of_getElem? hg
    obtain ⟨hid, hreports⟩ := h.handlers T x hx g hmem
    refine h.update hx ?_ State.commit_transactions rfl rfl (h.unset T x hx) (fun f hf => ?_)
      fun f hf k hk => ?_
    · rw [State.commit_subscriptions]
      exact hcase.keeps
    all_goals obtain hold | rfl := List.mem_or_eq_of_mem_set hf
    · exact h.handlers T x hx f hold
    · exact ⟨hcase.id_eq.1.trans hid, hcase.reports hreports⟩
    · exact h.concerns T x hx f hold k hk
    · obtain hold | ⟨-, sub, hsub, rfl⟩ := hcase.concerns hreports hk
      · exact h.concerns T x hx g hmem k hold
      · exact ⟨sub, (mem_findAll.1 hsub).1⟩
  | handshake p a' h' hstep =>
    -- a handshake writes the status, the tries and no fixed property
    have hkeeps := keeps_handshake hstep
    refine ⟨fun k sub' hrow => ?_, fun T k hk => ?_, h.unique, h.unset,
      fun T x k sub' hx hk hrow => ?_, h.handlers, fun T x hx g hg k hk => ?_⟩
    · obtain ⟨sub, hsub, -⟩ := hkeeps.row hrow
      exact h.owner k sub hsub
    · obtain ⟨sub, hsub⟩ := h.stored T k hk
      obtain ⟨sub', hsub', -⟩ := hkeeps.row' hsub
      exact ⟨sub', hsub'⟩
    · obtain ⟨sub, hsub, hfixed⟩ := hkeeps.row hrow
      rw [SubscriptionModel.eventScope_eq_of_fixed hfixed,
        SubscriptionModel.eventType_eq_of_fixed hfixed]
      exact h.scope T x k sub hx hk hsub
    · obtain ⟨sub, hsub⟩ := h.concerns T x hx g hg k hk
      obtain ⟨sub', hsub', -⟩ := hkeeps.row' hsub
      exact ⟨sub', hsub'⟩

theorem filed_of_reaches {C : State π τ → Act π τ → Prop} {now : ℕ}
    (hreach : (machine π τ config).Reaches C (init now) s) : Filed s :=
  hreach.invariant (filed_init now) fun _ _ _ h _ hst => filed_next h hst

end Transactions

end PolymeshRest
