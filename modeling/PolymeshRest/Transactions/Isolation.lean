import Mathlib.Data.Fintype.Basic
import PolymeshRest.Transactions.Ownership

/-!
# Transactions that leave each other alone

A status handler finds the subscription of its transaction by the internal id of the transaction,
a counter that every instance starts at 0, while the subscriptions are shared and outlive the
instance.  So a handler may find the subscription of another transaction.

* `Transactions.LooksUpOwn` : a lookup that finds no subscription of another transaction.
* `Transactions.isolated` : in a run of such lookups, every step of a transaction leaves the
  subscriptions of the others alone.
* `Transactions.looksUpOwn_of_freshIds` : lookups are like that if no internal id is taken twice.
* `Transactions.crosstalk` : two instances that both take the id 1.
-/

namespace PolymeshRest

namespace Transactions

variable {π τ : Type*} [DecidableEq π] [DecidableEq τ] {config : Config} {s s' : State π τ}
  {a : Act π τ}

namespace State

omit [DecidableEq π] [DecidableEq τ]

/-- The internal id whose subscriptions the `i`-th handler of `T` looks up in this step. -/
def lookup (s : State π τ) (T : τ) (i : ℕ) (reply : StatusHandler.Reply) : Option ℕ :=
  (s.transactions T).bind fun x => x.handlers[i]?.bind fun h =>
    if h.looksUp reply then some h.id else none

/-- The subscription of `T` listens to the internal id `id`, is Active and has not expired. -/
def listens (s : State π τ) (T : τ) (id : ℕ) : Bool :=
  (s.transactions T).any fun x => (x.subscriptionId.bind s.subscriptions.rows).any
    ((listening .transactionUpdate id.repr).matches s.now)

end State

/-- A handler that looks up subscriptions finds none of another transaction. -/
def LooksUpOwn (s : State π τ) : Act π τ → Prop
  | .handler T i reply => ∀ id ∈ s.lookup T i reply, ∀ T', T' ≠ T → s.listens T' id = false
  | _ => True

instance [Fintype τ] (s : State π τ) : DecidablePred (LooksUpOwn s)
  | .handler T i reply =>
    inferInstanceAs (Decidable (∀ id ∈ s.lookup T i reply, ∀ T', T' ≠ T → s.listens T' id = false))
  | .tick | .submitAndSubscribe _ _ _ | .createSubscription _ _ | .updateSubscription _ _
  | .statusChange _ _ | .handshake _ _ | .restart _ => .isTrue trivial

/-- Handlers concern only the subscription of their own transaction. -/
def ConcernOwn (s : State π τ) : Prop :=
  ∀ T x, s.transactions T = some x → ∀ h ∈ x.handlers, ∀ k, h.Concerns k →
    x.subscriptionId = some k

omit [DecidableEq π] in
theorem ConcernOwn.update (h : ConcernOwn s) {T : τ} {x' : Submission π}
    (htransactions : s'.transactions = Function.update s.transactions T (some x'))
    (hx' : ∀ g ∈ x'.handlers, ∀ k, g.Concerns k → x'.subscriptionId = some k) :
    ConcernOwn s' := by
  intro T' y hy
  rw [htransactions] at hy
  obtain ⟨-, rfl⟩ | ⟨-, hold⟩ := eq_or_of_update hy
  · exact hx'
  · exact h T' y hold

omit [DecidableEq π] [DecidableEq τ] in
/-- A handler that finds a subscription finds that of a transaction that listens to its id. -/
theorem listens_of_lookup (h : Filed s) {g : StatusHandler} {p : π} {sub : SubscriptionModel}
    (hsub : sub ∈ g.affectedSubscriptions (s.stores p)) :
    ∃ T, s.Owns T sub.id ∧ s.listens T g.id = true := by
  obtain ⟨hrow, hmatches⟩ := mem_findAll.1 hsub
  obtain ⟨T, x, hx, hk⟩ := h.owner sub.id sub hrow
  refine ⟨T, ⟨x, hx, hk⟩, ?_⟩
  have hrow' : s.subscriptions.rows sub.id = some sub := hrow
  simp only [State.listens, hx, hk, Option.any_some, Option.bind_some, hrow']
  exact hmatches

omit [DecidableEq π] [DecidableEq τ] in
/-- What a handler finds is its own, if its lookup finds nothing of another transaction. -/
theorem owns_of_lookup (h : Filed s) {T : τ} {x : Submission π} {i : ℕ} {g : StatusHandler}
    {reply : StatusHandler.Reply} (hx : s.transactions T = some x) (hg : x.handlers[i]? = some g)
    (hlooks : g.looksUp reply = true) (hown : LooksUpOwn s (.handler T i reply)) {p : π}
    {sub : SubscriptionModel} (hsub : sub ∈ g.affectedSubscriptions (s.stores p)) :
    x.subscriptionId = some sub.id := by
  obtain ⟨T', ⟨x', hx', hk⟩, hlistens⟩ := listens_of_lookup h hsub
  have hlookup : g.id ∈ s.lookup T i reply := by
    simp [State.lookup, hx, hg, hlooks]
  have hT : T' = T := by
    by_contra hne
    rw [hown g.id hlookup T' hne] at hlistens
    cases hlistens
  subst hT
  rw [hx] at hx'
  cases hx'
  exact hk

/-- **One step** whose lookup, if it is one, finds its own. -/
theorem concernOwn_next (hfiled : Filed s) (h : ConcernOwn s) (hown : LooksUpOwn s a)
    (hst : next config s a = some s') : ConcernOwn s' := by
  cases next_cases hst with
  | tick | handshake | restart => exact h
  | submitAndSubscribe T p webhookUrl hfree => exact h.update rfl fun g hg => nomatch hg
  | subscriptionCreated T x hx halive hphase =>
    refine h.update rfl fun g hg k hk => ?_
    have hnone := h T x hx g hg k hk
    rw [hfiled.unset T x hx hphase] at hnone
    cases hnone
  | subscriptionRejected T x hx halive hphase | nonceSet T x outcome k hx halive hphase hk =>
    exact h.update rfl (h T x hx)
  | statusChange T x transaction hx halive hattached hphase =>
    refine h.update rfl fun g hg k hk => ?_
    obtain hold | hnew := List.mem_append.1 hg
    · exact h T x hx g hold k hk
    · rw [List.mem_singleton.1 hnew] at hk
      exact absurd hk (StatusHandler.not_concerns_of_call _ _ _ k)
  | handler T x i reply g g' w released hx halive hg hcase =>
    refine h.update State.commit_transactions fun f hf k hk => ?_
    have hmem := List.mem_of_getElem? hg
    obtain hold | rfl := List.mem_or_eq_of_mem_set hf
    · exact h T x hx f hold k hk
    · obtain hold | ⟨hlooks, sub, hsub, rfl⟩ := hcase.concerns (hfiled.handlers T x hx g hmem).2 hk
      · exact h T x hx g hmem k hold
      · exact owns_of_lookup hfiled hx hg hlooks hown hsub

/-! ### Isolation -/

omit [DecidableEq π] [DecidableEq τ] in
/-- The transaction a step is about. -/
def Act.transaction : Act π τ → Option τ
  | .submitAndSubscribe T _ _ => some T
  | .createSubscription T _ => some T
  | .updateSubscription T _ => some T
  | .statusChange T _ => some T
  | .handler T _ _ => some T
  | .tick | .handshake _ _ | .restart _ => none

/-- What the step `a` from `s` to `s'` does to the subscriptions of transactions. -/
structure Isolated (s : State π τ) (a : Act π τ) (s' : State π τ) : Prop where
  /-- A notification is created by a handler, for the subscription of its transaction. -/
  notified : ∀ m, s'.notifications.rows m.id = some m → s.notifications.rows m.id = none →
    ∃ T i reply, a = .handler T i reply ∧ s.Owns T m.subscriptionId
  /-- A subscription is marked as Done by a handler of its transaction. -/
  markedAsDone : ∀ k sub sub', s.subscriptions.rows k = some sub →
    s'.subscriptions.rows k = some sub' → sub'.status = .done → sub.status ≠ .done →
    ∃ T i reply, a = .handler T i reply ∧ s.Owns T k
  /-- No other transaction changes the subscription of a transaction, or notifies it. -/
  unaffected : ∀ T k, s.Owns T k → ∀ T', a.transaction = some T' → T' ≠ T →
    s'.subscriptions.rows k = s.subscriptions.rows k ∧
      ∀ m, m.subscriptionId = k →
        (s'.notifications.rows m.id = some m ↔ s.notifications.rows m.id = some m)

theorem subscriptionId_of_created {repo : NotificationRepo} {config : NotificationsConfig}
    {now : ℕ} {new : NewNotification} {m : NotificationModel}
    (hrow : (repo.create config now new).rows m.id = some m) (hnot : repo.rows m.id ≠ some m) :
    m.subscriptionId = new.subscriptionId := by
  rw [NotificationRepo.create_rows] at hrow
  split_ifs at hrow with hid
  · exact (congrArg NotificationModel.subscriptionId (Option.some.inj hrow)).symm
  · exact absurd hrow hnot

theorem notified_of_next (h : ConcernOwn s) (hst : next config s a = some s')
    {m : NotificationModel} (hrow : s'.notifications.rows m.id = some m)
    (hnot : s.notifications.rows m.id ≠ some m) :
    ∃ T i reply, a = .handler T i reply ∧ s.Owns T m.subscriptionId := by
  cases next_cases hst with
  | handler T x i reply g g' w released hx halive hg hcase =>
    rw [State.commit_notifications] at hrow
    obtain hsame | ⟨r, c, new, rfl, hc, hnew, hnotes⟩ := hcase.notifications_cases
    · rw [hsame] at hrow
      exact absurd hrow hnot
    · rw [hnotes] at hrow
      rw [subscriptionId_of_created hrow hnot]
      exact ⟨T, i, .event r, rfl, x, hx,
        h T x hx g (List.mem_of_getElem? hg) _ (.inl ⟨c, hc, new, hnew, rfl⟩)⟩
  | statusChange T x transaction hx halive hattached hphase =>
    obtain ⟨-, hnotes⟩ := StatusHandler.stores_of_call (s.stores x.process) x.id transaction
    have hrow' : ((s.stores x.process).handleTransactionStatusChange x.id
        transaction).1.notifications.rows m.id = some m := hrow
    rw [hnotes] at hrow'
    exact absurd hrow' hnot
  | _ => exact absurd hrow hnot

omit [DecidableEq π] [DecidableEq τ] in
theorem rows_of_handler (h : ConcernOwn s) {T : τ} {x : Submission π} {i : ℕ}
    {reply : StatusHandler.Reply} {g g' : StatusHandler} {w : Stores} {stored released : Bool}
    (hx : s.transactions T = some x) (hg : x.handlers[i]? = some g)
    (hcase : StatusHandler.StepCase config.notifications (s.stores x.process) stored g reply w g'
      released) {k : ℕ} (hk : ¬ s.Owns T k) :
    w.subscriptions.rows k = s.subscriptions.rows k :=
  hcase.rows_eq fun hconcerns =>
    hk ⟨x, hx, h T x hx g (List.mem_of_getElem? hg) k hconcerns⟩

theorem markedAsDone_of_next (h : ConcernOwn s) (hst : next config s a = some s') {k : ℕ}
    {sub sub' : SubscriptionModel} (hrow : s.subscriptions.rows k = some sub)
    (hrow' : s'.subscriptions.rows k = some sub') (hdone : sub'.status = .done)
    (hnot : sub.status ≠ .done) : ∃ T i reply, a = .handler T i reply ∧ s.Owns T k := by
  have hne : s'.subscriptions.rows k ≠ s.subscriptions.rows k := by
    rw [hrow, hrow']
    intro heq
    cases heq
    exact hnot hdone
  -- an update that does not say Done does not make a subscription Done
  have hupdate : ∀ id params, params.status ≠ some .done →
      (s.subscriptions.update id params).rows k ≠ some sub' := by
    intro id params hparams heq
    rw [SubscriptionRepo.update_rows, hrow] at heq
    split_ifs at heq
    · simp only [Option.map_some, Option.some.injEq] at heq
      rw [← heq] at hdone
      simp only [SubscriptionUpdate.apply] at hdone
      cases hstatus : params.status with
      | none => exact hnot (by rwa [hstatus] at hdone)
      | some status => exact hparams (by rw [hstatus] at hdone ⊢; exact congrArg some hdone)
    · cases heq
      exact hnot hdone
  cases next_cases hst with
  | handler T x i reply g g' w released hx halive hg hcase =>
    refine ⟨T, i, reply, rfl, ?_⟩
    by_contra hk
    rw [State.commit_subscriptions] at hne
    exact hne (rows_of_handler h hx hg hcase hk)
  | statusChange T x transaction hx halive hattached hphase =>
    obtain ⟨hsubs, -⟩ := StatusHandler.stores_of_call (s.stores x.process) x.id transaction
    exact absurd (congrArg (Table.rows · k) hsubs) hne
  | subscriptionCreated T x hx halive hphase =>
    exact absurd (Table.insert_rows_of_some (SubscriptionParams.toModel_id _) hrow) (hrow ▸ hne)
  | nonceSet T x outcome k' hx halive hphase hk =>
    cases outcome with
    | rejected => exact absurd rfl hne
    | resolved | unconfirmed => exact absurd hrow' (hupdate k' _ (by simp))
  | handshake p a' h' hstep =>
    obtain hrepo | ⟨id, _, _, _, _, _, _, hrepo⟩ | ⟨id, _, _, _, _, _, _, _, hstatus, hrepo⟩ :=
      handshake_cases hstep
    · exact absurd (congrArg (Table.rows · k) hrepo) hne
    · have hrow₁ : h'.repo.rows k = some sub' := hrow'
      rw [hrepo] at hrow₁
      exact absurd hrow₁ (hupdate id _ (by simp))
    · have hrow₁ : h'.repo.rows k = some sub' := hrow'
      rw [hrepo] at hrow₁
      exact absurd hrow₁ (hupdate id _ hstatus)
  | _ => exact absurd rfl hne

theorem unaffected_of_next (hfiled : Filed s) (h : ConcernOwn s)
    (hst : next config s a = some s') {T T' : τ} {k : ℕ} (hk : s.Owns T k)
    (ha : a.transaction = some T') (hne : T' ≠ T) :
    s'.subscriptions.rows k = s.subscriptions.rows k := by
  have hnot : ¬ s.Owns T' k := fun hk' => hne (hfiled.unique T' T k hk' hk)
  obtain ⟨sub, hrow⟩ := hfiled.stored T k hk
  cases next_cases hst with
  | tick | handshake | restart => cases ha
  | submitAndSubscribe | subscriptionRejected => rfl
  | subscriptionCreated T'' x hx halive hphase =>
    rw [hrow]
    exact Table.insert_rows_of_some (SubscriptionParams.toModel_id _) hrow
  | nonceSet T'' x outcome k' hx halive hphase hk' =>
    cases ha
    have hkk : k ≠ k' := by
      rintro rfl
      exact hnot ⟨x, hx, hk'⟩
    cases outcome with
    | rejected => rfl
    | resolved | unconfirmed => exact SubscriptionRepo.update_rows_of_ne hkk
  | statusChange T'' x transaction hx halive hattached hphase =>
    obtain ⟨hsubs, -⟩ := StatusHandler.stores_of_call (s.stores x.process) x.id transaction
    exact congrArg (Table.rows · k) hsubs
  | handler T'' x i reply g g' w released hx halive hg hcase =>
    cases ha
    rw [State.commit_subscriptions]
    exact rows_of_handler h hx hg hcase hnot

/-- A step takes no notification away. -/
theorem notification_of_next (hst : next config s a = some s') {m : NotificationModel}
    (hrow : s.notifications.rows m.id = some m) : s'.notifications.rows m.id = some m := by
  cases next_cases hst with
  | handler T x i reply g g' w released hx halive hg hcase =>
    rw [State.commit_notifications]
    obtain hsame | ⟨_, _, new, -, -, -, hnotes⟩ := hcase.notifications_cases
    · rw [hsame]
      exact hrow
    · rw [hnotes]
      exact Table.insert_rows_of_some (config.notifications.model_id s.now new) hrow
  | statusChange T x transaction hx halive hattached hphase =>
    obtain ⟨-, hnotes⟩ := StatusHandler.stores_of_call (s.stores x.process) x.id transaction
    show ((s.stores x.process).handleTransactionStatusChange x.id
      transaction).1.notifications.rows m.id = some m
    rw [hnotes]
    exact hrow
  | _ => exact hrow

theorem concernOwn_of_reaches {now : ℕ}
    (hreach : (machine π τ config).Reaches LooksUpOwn (init now) s) : ConcernOwn s := by
  have hinv : Filed s ∧ ConcernOwn s := by
    refine hreach.invariant (I := fun u => Filed u ∧ ConcernOwn u)
      ⟨filed_init now, fun T x hx => nomatch hx⟩ ?_
    rintro u b u' ⟨hfiled, h⟩ hC hst
    exact ⟨filed_next hfiled hst, concernOwn_next hfiled h hC hst⟩
  exact hinv.2

/-- **Transactions are isolated** in every run of instances that start and restart at any time,
if no lookup finds the subscription of another transaction. -/
theorem isolated {now : ℕ} (hreach : (machine π τ config).Reaches LooksUpOwn (init now) s)
    (hst : next config s a = some s') : Isolated s a s' := by
  have hfiled := filed_of_reaches hreach
  have h := concernOwn_of_reaches hreach
  refine ⟨fun m hrow hnone => notified_of_next h hst hrow (by simp [hnone]),
    fun k sub sub' => markedAsDone_of_next h hst, fun T k hk T' ha hne => ?_⟩
  refine ⟨unaffected_of_next hfiled h hst hk ha hne, fun m hm => ⟨fun hrow => ?_, fun hrow => ?_⟩⟩
  · by_contra hnot
    obtain ⟨T'', i, reply, rfl, hT''⟩ := notified_of_next h hst hrow hnot
    cases ha
    exact hne (hfiled.unique T' T k (hm ▸ hT'') hk)
  · exact notification_of_next hst hrow

/-! ### Ids that are taken once -/

/-- No earlier transaction has the internal id that `submitAndSubscribe` takes. -/
def TakesFreshId (s : State π τ) : Act π τ → Prop
  | .submitAndSubscribe _ p _ => ∀ T x, s.transactions T = some x →
      x.id ≠ (s.processes p).currentId + 1
  | _ => True

/-- No two transactions have the same internal id. -/
def Distinct (s : State π τ) : Prop :=
  ∀ T T' x x', s.transactions T = some x → s.transactions T' = some x' → x.id = x'.id → T = T'

omit [DecidableEq π] in
theorem Distinct.update (h : Distinct s) {T : τ} {x x' : Submission π}
    (hx : s.transactions T = some x)
    (htransactions : s'.transactions = Function.update s.transactions T (some x'))
    (hid : x'.id = x.id) : Distinct s' := by
  -- every transaction has the id it had
  have hold : ∀ T' y', s'.transactions T' = some y' →
      ∃ y, s.transactions T' = some y ∧ y'.id = y.id := by
    intro T' y' hy'
    rw [htransactions] at hy'
    obtain ⟨rfl, rfl⟩ | ⟨-, hold⟩ := eq_or_of_update hy'
    · exact ⟨x, hx, hid⟩
    · exact ⟨y', hold, rfl⟩
  intro T' T'' y' y'' hy' hy'' heq
  obtain ⟨y₁, hy₁, hid₁⟩ := hold T' y' hy'
  obtain ⟨y₂, hy₂, hid₂⟩ := hold T'' y'' hy''
  exact h T' T'' y₁ y₂ hy₁ hy₂ (hid₁.symm.trans (heq.trans hid₂))

/-- **One step** that takes a fresh id, if it takes one. -/
theorem distinct_next (h : Distinct s) (hfresh : TakesFreshId s a)
    (hst : next config s a = some s') : Distinct s' := by
  cases next_cases hst with
  | tick | handshake | restart => exact h
  | submitAndSubscribe T p webhookUrl hfree =>
    intro T' T'' y' y'' hy' hy'' heq
    simp only [State.addListener, Function.update_apply] at hy' hy''
    split_ifs at hy' hy'' with hT hT' hT'
    · rw [hT, hT']
    · cases hy'
      exact absurd heq.symm (hfresh T'' y'' hy'')
    · cases hy''
      exact absurd heq (hfresh T' y' hy')
    · exact h T' T'' y' y'' hy' hy'' heq
  | subscriptionCreated T x hx | subscriptionRejected T x hx | nonceSet T x _ _ hx
  | statusChange T x _ hx => exact h.update hx rfl rfl
  | handler T x i reply g g' w released hx => exact h.update hx State.commit_transactions rfl

omit [DecidableEq π] [DecidableEq τ] in
theorem id_eq_of_listens (h : Filed s) {T : τ} {x : Submission π}
    (hx : s.transactions T = some x) {id : ℕ} (hlistens : s.listens T id = true) : x.id = id := by
  simp only [State.listens, hx, Option.any_some] at hlistens
  obtain ⟨sub, hbind, hmatches⟩ := (Option.any_eq_true ..).1 hlistens
  obtain ⟨k, hk, hrow⟩ := Option.bind_eq_some_iff.1 hbind
  have hscope : id.repr = sub.eventScope := by
    simpa [SubscriptionFilter.matches, listening, Nat.repr_ne_empty] using
      (Bool.and_eq_true_iff.1 (Bool.and_eq_true_iff.1
        (Bool.and_eq_true_iff.1 hmatches).1).1).2
  rw [(h.scope T x k sub hx hk hrow).1] at hscope
  exact (injective_repr hscope).symm

omit [DecidableEq π] [DecidableEq τ] in
/-- Where ids are distinct, a lookup finds its own. -/
theorem looksUpOwn_of_distinct (hfiled : Filed s) (h : Distinct s) (a : Act π τ) :
    LooksUpOwn s a := by
  cases a with
  | handler T i reply =>
    intro id hid T' hne
    obtain ⟨x, hx, hid⟩ := Option.bind_eq_some_iff.1 hid
    obtain ⟨g, hg, hid⟩ := Option.bind_eq_some_iff.1 hid
    simp only [Option.ite_none_right_eq_some, Option.some.injEq] at hid
    obtain ⟨-, rfl⟩ := hid
    rw [Bool.eq_false_iff]
    intro hlistens
    obtain ⟨x', hx', -⟩ := (Option.any_eq_true ..).1 hlistens
    have hid' := id_eq_of_listens hfiled hx' hlistens
    have hgid := (hfiled.handlers T x hx g (List.mem_of_getElem? hg)).1
    exact hne (h T' T x' x hx' hx (hid'.trans hgid))
  | _ => trivial

/-- **If no internal id is taken twice, every lookup finds its own.** -/
theorem looksUpOwn_of_freshIds {now : ℕ}
    (hreach : (machine π τ config).Reaches TakesFreshId (init now) s) :
    (machine π τ config).Reaches LooksUpOwn (init now) s := by
  have hinv : Filed s ∧ Distinct s ∧ (machine π τ config).Reaches LooksUpOwn (init now) s := by
    refine hreach.invariant
      (I := fun u => Filed u ∧ Distinct u ∧ (machine π τ config).Reaches LooksUpOwn (init now) u)
      ⟨filed_init now, fun T T' x x' hx => (nomatch hx), .refl _⟩ ?_
    rintro u b u' ⟨hfiled, hdistinct, hr⟩ hfresh hst
    exact ⟨filed_next hfiled hst, distinct_next hdistinct hfresh hst,
      hr.tail (looksUpOwn_of_distinct hfiled hdistinct b) hst⟩
  exact hinv.2.2

/-- Three transactions, on two instances: the last two are submitted to the same one, and the ids of
the first and the last, whose subscriptions are activated, differ. -/
def sideBySide : List (Act Bool (Fin 3)) :=
  submission 0 false ++ activation false 1 ++ submission 1 true ++ submission 2 true ++
    [.handshake true (.fire 1), .handshake true (.resume 3 0 (.read true)),
      .handshake true (.resume 3 0 (.secret (some "secret"))),
      .handshake true (.resume 3 0 (.response (some ⟨200, some "secret"⟩))),
      .handshake true (.resume 3 0 (.update .resolved)),
      .statusChange 0 running, .statusChange 2 running,
      .handler 0 0 (.event (.call true)), .handler 2 0 (.event (.call true)),
      .handler 0 0 (.event (.call true)), .handler 2 0 (.event (.call true)),
      .handler 0 0 (.event (.create 0 true))]

/-- Two of them are notified side by side, each to its own subscription. -/
theorem isolated_notification : ∃ s s' : State Bool (Fin 3),
    s'.subscriptions.nextNonce 1 = 2 ∧ s'.subscriptions.nextNonce 3 = 2 ∧
      (s'.notifications.rows 2).isSome = true ∧
        Isolated s (.handler 2 0 (.event (.create 0 true))) s' := by
  obtain ⟨s, hreach, hs⟩ := Machine.exists_reaches_of_run (M := machine Bool (Fin 3) oneMinute)
    (C := LooksUpOwn) (init 0) sideBySide
    (fun s => (next oneMinute s (.handler 2 0 (.event (.create 0 true)))).any fun s' =>
      s'.subscriptions.nextNonce 1 = 2 && s'.subscriptions.nextNonce 3 = 2 &&
        (s'.notifications.rows 2).isSome)
    (by decide) (by decide)
  obtain ⟨s', hst, hs'⟩ := (Option.any_eq_true ..).1 hs
  simp only [Bool.and_eq_true, decide_eq_true_eq] at hs'
  exact ⟨s, s', hs'.1.1, hs'.1.2, hs'.2, isolated hreach hst⟩
/-- Two instances that both take the id 1: a status of the transaction `true` is notified to the
subscription of the transaction `false`. -/
theorem crosstalk : ∃ s s' : State Bool Bool,
    (machine Bool Bool oneMinute).Reaches Machine.Unrestricted (init 0) s ∧
      next oneMinute s (.handler true 0 (.event (.create 0 true))) = some s' ∧
      ¬ Isolated s (.handler true 0 (.event (.create 0 true))) s' := by
  obtain ⟨s, hreach, hs⟩ := Machine.exists_reaches_of_run (M := machine Bool Bool oneMinute)
    (C := Machine.Unrestricted) (init 0)
    (submission false false ++ activation false 1 ++ submission true true ++
      [.statusChange true running, .handler true 0 (.event (.call true)),
        .handler true 0 (.event (.call true))])
    (fun s => (next oneMinute s (.handler true 0 (.event (.create 0 true)))).any fun s' =>
      (s.transactions true).all (·.subscriptionId = some 2) && (s.notifications.rows 1).isNone &&
        (s'.notifications.rows 1).any (·.subscriptionId = 1))
    (by decide) (Machine.meets_unrestricted ..)
  obtain ⟨s', hst, hs'⟩ := (Option.any_eq_true ..).1 hs
  simp only [Bool.and_eq_true, Option.isNone_iff_eq_none, Option.any_eq_true, Option.all_eq_true,
    decide_eq_true_eq] at hs'
  obtain ⟨⟨hown, hnone⟩, m, hm, hsub⟩ := hs'
  have hid : m.id = 1 := s'.notifications.key_eq hm
  refine ⟨s, s', hreach, hst, fun h => ?_⟩
  obtain ⟨T, i, reply, ha, x, hx, hk⟩ := h.notified m (by rw [hid, hm]) (by rw [hid, hnone])
  cases ha
  rw [hsub, hown x hx] at hk
  cases hk

end Transactions

end PolymeshRest
