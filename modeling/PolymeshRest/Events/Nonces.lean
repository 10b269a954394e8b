import Mathlib.Data.Fintype.Basic
import PolymeshRest.Events.Basic

/-!
# The nonces of concurrent events

`createEvent` reads the nonces of the subscriptions it affects in one step, increases them in
another and gives the values it read to the notifications it creates later.  So two calls that
look a subscription up before either has increased its nonce give out the same nonce.

`Ledger` is what this is about, for any number of calls: the next nonce of every subscription,
the notifications that carry nonces and how far they are.  `Ledger.Inv` says that the nonces given
out are exactly the ones between the first and the next nonce, and that each has one holder.

## Main results

* `Ledger.Inv.look`, `Ledger.Inv.bump`, `Ledger.Inv.create` : the three steps keep the invariant,
  looking up only if no other call is between its lookup and its increase for a subscription in
  common (`Events.LooksUpApart`).
* `Events.nonces_consecutive` : so they are in every run whose lookups are apart.
* `Events.same_nonce_twice` : a run in which they are not.
-/

namespace PolymeshRest

/-- What the calls have done about nonces. -/
@[ext] structure Ledger (ι : Type*) where
  /-- The next nonce of a subscription. -/
  nextNonce : ℕ → ℕ
  /-- The notifications of a call whose nonces were read and not increased yet. -/
  looked : ι → List NewNotification
  /-- The notifications of a call that are yet to be created. -/
  pending : ι → List NewNotification
  /-- The notifications created, by their ids. -/
  created : ℕ → Option NewNotification

namespace Ledger

variable {ι : Type*}

/-- Who holds a nonce. -/
inductive Holder (ι : Type*) where
  /-- A notification that the call `i` will create. -/
  | pending (i : ι)
  /-- The notification stored under `id`. -/
  | created (id : ℕ)

/-- `x` holds the nonce `n` of the subscription `k`. -/
def Holds (l : Ledger ι) (k n : ℕ) : Holder ι → Prop
  | .pending i => ∃ new ∈ l.pending i, new.subscriptionId = k ∧ new.nonce = n
  | .created id => ∃ new, l.created id = some new ∧ new.subscriptionId = k ∧ new.nonce = n

/-- The nonces given out so far, from `first` on, are the ones before the next nonce, and each
has one holder. -/
structure Inv (first : ℕ → ℕ) (l : Ledger ι) : Prop where
  first_le : ∀ k, first k ≤ l.nextNonce k
  /-- A nonce that was read and not increased yet is the next one. -/
  looked : ∀ i, ∀ new ∈ l.looked i, new.nonce = l.nextNonce new.subscriptionId
  /-- Only one call is between its lookup and its increase for a subscription. -/
  alone : ∀ i j, ∀ new ∈ l.looked i, ∀ other ∈ l.looked j,
    new.subscriptionId = other.subscriptionId → i = j
  nodup_looked : ∀ i, ((l.looked i).map NewNotification.subscriptionId).Nodup
  nodup_pending : ∀ i, ((l.pending i).map NewNotification.subscriptionId).Nodup
  holder : ∃ holder : ℕ → ℕ → Holder ι, ∀ k n x,
    l.Holds k n x ↔ first k ≤ n ∧ n < l.nextNonce k ∧ holder k n = x

variable [DecidableEq ι]

/-- The call `i` has read the nonces of `news`. -/
def look (l : Ledger ι) (i : ι) (news : List NewNotification) : Ledger ι :=
  { l with looked := Function.update l.looked i news }

/-- The call `i` has increased the nonces it read. -/
def bump (l : Ledger ι) (i : ι) : Ledger ι where
  nextNonce k :=
    if k ∈ (l.looked i).map NewNotification.subscriptionId then l.nextNonce k + 1
    else l.nextNonce k
  looked := Function.update l.looked i []
  pending := Function.update l.pending i (l.looked i)
  created := l.created

/-- The call `i` has created the `j`-th of its pending notifications, under `id`. -/
def create (l : Ledger ι) (i : ι) (j id : ℕ) (new : NewNotification) : Ledger ι :=
  { l with
    pending := Function.update l.pending i ((l.pending i).eraseIdx j)
    created := Function.update l.created id (some new) }

variable {first : ℕ → ℕ} {l : Ledger ι} {i : ι}

/-- Looking up is safe for subscriptions that no other call has looked up and not increased. -/
theorem Inv.look (h : l.Inv first) {news : List NewNotification}
    (hnodup : (news.map NewNotification.subscriptionId).Nodup)
    (hread : ∀ new ∈ news, new.nonce = l.nextNonce new.subscriptionId)
    (hapart : ∀ new ∈ news, ∀ j, ∀ other ∈ l.looked j,
      new.subscriptionId ≠ other.subscriptionId) : (l.look i news).Inv first where
  first_le := h.first_le
  looked j := by
    by_cases hj : j = i
    · subst hj
      simpa [Ledger.look] using hread
    · simpa [Ledger.look, hj] using h.looked j
  alone j j' new hnew other hother heq := by
    simp only [Ledger.look] at hnew hother
    by_cases hj : j = i <;> by_cases hj' : j' = i
    · rw [hj, hj']
    · rw [hj, Function.update_self] at hnew
      rw [Function.update_of_ne hj'] at hother
      exact absurd heq (hapart new hnew j' other hother)
    · rw [hj', Function.update_self] at hother
      rw [Function.update_of_ne hj] at hnew
      exact absurd heq.symm (hapart other hother j new hnew)
    · rw [Function.update_of_ne hj] at hnew
      rw [Function.update_of_ne hj'] at hother
      exact h.alone j j' new hnew other hother heq
  nodup_looked j := by
    by_cases hj : j = i
    · subst hj
      simpa [Ledger.look] using hnodup
    · simpa [Ledger.look, hj] using h.nodup_looked j
  nodup_pending := h.nodup_pending
  holder := h.holder

/-- Increasing the nonces hands each of them to the notification it was read for. -/
theorem Inv.bump (h : l.Inv first) (hpending : l.pending i = []) : (l.bump i).Inv first where
  first_le k := by
    have hle := h.first_le k
    simp only [Ledger.bump]
    split <;> omega
  looked j new hnew := by
    simp only [Ledger.bump] at hnew ⊢
    by_cases hj : j = i
    · simp [hj] at hnew
    · rw [Function.update_of_ne hj] at hnew
      -- the call `i` has not looked this subscription up
      have hnot : new.subscriptionId ∉ (l.looked i).map NewNotification.subscriptionId := by
        intro hmem
        obtain ⟨other, hother, heq⟩ := List.mem_map.1 hmem
        exact hj (h.alone j i new hnew other hother heq.symm)
      rw [if_neg hnot]
      exact h.looked j new hnew
  alone j j' new hnew other hother heq := by
    simp only [Ledger.bump] at hnew hother
    by_cases hj : j = i
    · simp [hj] at hnew
    · by_cases hj' : j' = i
      · simp [hj'] at hother
      · rw [Function.update_of_ne hj] at hnew
        rw [Function.update_of_ne hj'] at hother
        exact h.alone j j' new hnew other hother heq
  nodup_looked j := by
    by_cases hj : j = i
    · simp [Ledger.bump, hj]
    · simpa [Ledger.bump, hj] using h.nodup_looked j
  nodup_pending j := by
    by_cases hj : j = i
    · subst hj
      simpa [Ledger.bump] using h.nodup_looked j
    · simpa [Ledger.bump, hj] using h.nodup_pending j
  holder := by
    obtain ⟨holder, hholder⟩ := h.holder
    -- the nonce that was next now belongs to the call `i`
    refine ⟨fun k n => if k ∈ (l.looked i).map NewNotification.subscriptionId ∧
      n = l.nextNonce k then .pending i else holder k n, fun k n x => ?_⟩
    have hold := hholder k n x
    have hfirst := h.first_le k
    have hmine : (∃ new ∈ l.looked i, new.subscriptionId = k ∧ new.nonce = n) ↔
        k ∈ (l.looked i).map NewNotification.subscriptionId ∧ n = l.nextNonce k := by
      constructor
      · rintro ⟨new, hnew, rfl, rfl⟩
        exact ⟨List.mem_map_of_mem hnew, h.looked i new hnew⟩
      · rintro ⟨hmem, rfl⟩
        obtain ⟨new, hnew, rfl⟩ := List.mem_map.1 hmem
        exact ⟨new, hnew, rfl, h.looked i new hnew⟩
    have hnone : ¬ l.Holds k n (.pending i) := by simp [Holds, hpending]
    have hholds : (l.bump i).Holds k n x ↔ l.Holds k n x ∨
        x = .pending i ∧ k ∈ (l.looked i).map NewNotification.subscriptionId ∧
          n = l.nextNonce k := by
      cases x with
      | created id => simp [Holds, Ledger.bump]
      | pending j =>
        by_cases hj : j = i
        · subst hj
          rw [← hmine]
          simp [Holds, Ledger.bump, hpending]
        · simp [Holds, Ledger.bump, hj]
    rw [hholds, hold]
    simp only [Ledger.bump]
    by_cases hk : k ∈ (l.looked i).map NewNotification.subscriptionId
    · by_cases hn : n = l.nextNonce k
      · simp only [hk, hn, and_self, if_true, lt_irrefl, false_and, and_false, false_or]
        constructor
        · rintro ⟨rfl, -⟩
          exact ⟨hfirst, by omega, rfl⟩
        · rintro ⟨-, -, rfl⟩
          simp
      · simp only [hk, hn, and_false, or_false, if_true, if_false]
        have hlt : n < l.nextNonce k ↔ n < l.nextNonce k + 1 := by omega
        rw [hlt]
    · simp only [hk, false_and, and_false, or_false, if_false]

/-- Creating a notification hands its nonce to the row stored. -/
theorem Inv.create (h : l.Inv first) {j id : ℕ} {new : NewNotification}
    (hnew : (l.pending i)[j]? = some new) (hid : l.created id = none) :
    (l.create i j id new).Inv first where
  first_le := h.first_le
  looked := h.looked
  alone := h.alone
  nodup_looked := h.nodup_looked
  nodup_pending k := by
    by_cases hk : k = i
    · subst hk
      have hsub := (List.eraseIdx_sublist (l.pending k) j).map NewNotification.subscriptionId
      simpa [Ledger.create] using (h.nodup_pending k).sublist hsub
    · simpa [Ledger.create, hk] using h.nodup_pending k
  holder := by
    obtain ⟨holder, hholder⟩ := h.holder
    have hmem := mem_eraseIdx_iff (h.nodup_pending i) hnew
    -- the nonce of `new` was held by the call `i`
    have hheld : l.Holds new.subscriptionId new.nonce (.pending i) :=
      ⟨new, List.mem_of_getElem? hnew, rfl, rfl⟩
    obtain ⟨hle, hlt, howner⟩ := (hholder _ _ _).1 hheld
    refine ⟨fun k n => if k = new.subscriptionId ∧ n = new.nonce then .created id
      else holder k n, fun k n x => ?_⟩
    by_cases hkn : k = new.subscriptionId ∧ n = new.nonce
    · obtain ⟨rfl, rfl⟩ := hkn
      have hother := hholder new.subscriptionId new.nonce x
      rw [howner] at hother
      have hx : (l.create i j id new).Holds new.subscriptionId new.nonce x ↔ x = .created id := by
        cases x with
        | created id' =>
          by_cases hid' : id' = id
          · subst hid'
            simp [Holds, Ledger.create]
          · have hnot : ¬ l.Holds new.subscriptionId new.nonce (.created id') := by
              simp [hother]
            simpa [Holds, Ledger.create, hid'] using hnot
        | pending i' =>
          by_cases hi' : i' = i
          · subst hi'
            simp only [Holds, Ledger.create, Function.update_self, hmem, reduceCtorEq, iff_false]
            rintro ⟨other, ⟨-, hne⟩, heq, -⟩
            exact hne heq
          · have hnot : ¬ l.Holds new.subscriptionId new.nonce (.pending i') := by
              simp [hother, Ne.symm hi']
            simpa [Holds, Ledger.create, hi'] using hnot
      rw [hx]
      constructor
      · rintro rfl
        exact ⟨hle, hlt, by simp⟩
      · rintro ⟨-, -, hx⟩
        simpa using hx.symm
    · show _ ↔ first k ≤ n ∧ n < l.nextNonce k ∧
        (if k = new.subscriptionId ∧ n = new.nonce then .created id else holder k n) = x
      rw [if_neg hkn, ← hholder k n x]
      cases x with
      | created id' =>
        by_cases hid' : id' = id
        · subst hid'
          simp only [Holds, Ledger.create, Function.update_self, Option.some.injEq, hid]
          constructor
          · rintro ⟨_, rfl, rfl, rfl⟩
            exact absurd ⟨rfl, rfl⟩ hkn
          · rintro ⟨_, hnone, -⟩
            cases hnone
        · simp [Holds, Ledger.create, hid']
      | pending i' =>
        by_cases hi' : i' = i
        · subst hi'
          simp only [Holds, Ledger.create, Function.update_self, hmem]
          constructor
          · rintro ⟨other, ⟨hother, -⟩, hk, hn⟩
            exact ⟨other, hother, hk, hn⟩
          · rintro ⟨other, hother, rfl, rfl⟩
            refine ⟨other, ⟨hother, fun heq => hkn ?_⟩, rfl, rfl⟩
            -- no call has two pending notifications for one subscription
            have hsame : other = new := List.inj_on_of_nodup_map (h.nodup_pending i') hother
              (List.mem_of_getElem? hnew) heq
            exact ⟨heq, by rw [hsame]⟩
        · simp [Holds, Ledger.create, hi']

end Ledger

namespace Events

variable {ι : Type*} [DecidableEq ι] {config : NotificationsConfig} {s s' : State ι}

/-- The notifications stored after `last`. -/
def createdAfter (last : ℕ) (repo : NotificationRepo) (id : ℕ) : Option NewNotification :=
  if last < id then (repo.rows id).map NotificationModel.toNew else none

/-- What the calls have done about nonces, from the notification after `last` on. -/
def ledger (last : ℕ) (s : State ι) : Ledger ι where
  nextNonce := s.subscriptions.nextNonce
  looked i := (s.calls i).elim [] CreateEvent.looked
  pending i := (s.calls i).elim [] CreateEvent.pending
  created := createdAfter last s.notifications

/-- The subscriptions the call `i` is about to look up. -/
def State.lookup (s : State ι) (i : ι) : List SubscriptionModel :=
  match s.calls i with
  | some c => if c.phase = .findAll then s.toStores.affectedSubscriptions c.event else []
  | none => []

/-- No call looks up a subscription that another call has looked up and whose nonce that call
has not increased yet. -/
def LooksUpApart (s : State ι) : Act ι → Prop
  | .resume i (.call true) => ∀ subscription ∈ s.lookup i, ∀ j,
      subscription.id ∉ ((s.calls j).elim [] CreateEvent.looked).map NewNotification.subscriptionId
  | _ => True

instance [Fintype ι] (s : State ι) : DecidablePred (LooksUpApart s)
  | .resume _ (.call true) => inferInstanceAs (Decidable (∀ _ ∈ _, ∀ _, _ ∉ _))
  | .resume _ (.call false) | .resume _ (.create _ _) | .tick | .createEvent _ _ => .isTrue trivial

omit [DecidableEq ι] in
theorem looked_of_call (last : ℕ) {i : ι} {c : CreateEvent} (hc : s.calls i = some c) :
    (ledger last s).looked i = c.looked := by
  simp [ledger, hc]

omit [DecidableEq ι] in
theorem pending_of_call (last : ℕ) {i : ι} {c : CreateEvent} (hc : s.calls i = some c) :
    (ledger last s).pending i = c.pending := by
  simp [ledger, hc]

theorem ledger_update (last : ℕ) (w : Stores) (i : ι) (c' : CreateEvent) :
    ledger last { toStores := w, calls := Function.update s.calls i (some c') } =
      { nextNonce := w.subscriptions.nextNonce
        looked := Function.update (ledger last s).looked i c'.looked
        pending := Function.update (ledger last s).pending i c'.pending
        created := createdAfter last w.notifications } := by
  ext1
  · rfl
  · funext j
    by_cases hj : j = i <;> simp [ledger, hj]
  · funext j
    by_cases hj : j = i <;> simp [ledger, hj]
  · rfl

/-- The invariant of the runs whose lookups are apart. -/
structure Inv (first : ℕ → ℕ) (last : ℕ) (s : State ι) : Prop where
  ledger : (ledger last s).Inv first
  last_le : last ≤ s.notifications.currentId
  /-- The subscriptions looked up are stored. -/
  stored : ∀ i, ∀ new ∈ (Events.ledger last s).looked i,
    ∃ subscription, s.subscriptions.rows new.subscriptionId = some subscription

theorem ledger_eq_of_same {last : ℕ} {i : ι} {c' : CreateEvent} {w : Stores}
    (hsubs : w.subscriptions = s.subscriptions) (hnotes : w.notifications = s.notifications)
    (hlooked : (ledger last s).looked i = c'.looked)
    (hpending : (ledger last s).pending i = c'.pending) :
    ledger last { toStores := w, calls := Function.update s.calls i (some c') } =
      ledger last s := by
  rw [ledger_update, ← hlooked, ← hpending, Function.update_eq_self, Function.update_eq_self, hsubs,
    hnotes]
  rfl

theorem ledger_look {last : ℕ} {i : ι} (event : EventEntity)
    (hpending : (ledger last s).pending i = []) (news : List NewNotification) :
    ledger last
        { s with
          calls := Function.update s.calls i (some ⟨event, some news, .batchBumpNonce⟩) } =
      (ledger last s).look i news := by
  rw [ledger_update]
  ext1
  · rfl
  · rfl
  · show Function.update (ledger last s).pending i [] = (ledger last s).pending
    rw [← hpending, Function.update_eq_self]
  · rfl

theorem ledger_bump (last : ℕ) {i : ι} {event : EventEntity}
    {notifications : Option (List NewNotification)}
    (hc : s.calls i = some ⟨event, notifications, .batchBumpNonce⟩)
    (hstored : ∀ new ∈ notifications.getD [],
      ∃ sub, s.subscriptions.rows new.subscriptionId = some sub) :
    ledger last
        { s with
          subscriptions := s.subscriptions.incrementNonces
            ((notifications.getD []).map NewNotification.subscriptionId)
          calls := Function.update s.calls i
            (some ⟨event, notifications, .createNotifications (notifications.getD [])⟩) } =
      (ledger last s).bump i := by
  have hlooked : (ledger last s).looked i = notifications.getD [] := looked_of_call _ hc
  rw [ledger_update]
  ext1
  · funext k
    have hk : k ∈ (notifications.getD []).map NewNotification.subscriptionId →
        ∃ sub, s.subscriptions.rows k = some sub := by
      intro hmem
      obtain ⟨new, hnew, rfl⟩ := List.mem_map.1 hmem
      exact hstored new hnew
    simp only [Ledger.bump, hlooked]
    exact SubscriptionRepo.nextNonce_incrementNonces hk
  · rfl
  · simp only [Ledger.bump, hlooked, CreateEvent.pending]
  · rfl

theorem ledger_create (config : NotificationsConfig) {last : ℕ} {i : ι} {c c' : CreateEvent}
    {pending : List NewNotification}
    (hc : s.calls i = some c) (hlast : last ≤ s.notifications.currentId) (j : ℕ)
    (new : NewNotification) (hlooked : c.looked = c'.looked) (hpending : c.pending = pending)
    (hpending' : c'.pending = pending.eraseIdx j) :
    ledger last
        { s with
          notifications := s.notifications.create config s.now new
          calls := Function.update s.calls i (some c') } =
      (ledger last s).create i j (s.notifications.currentId + 1) new := by
  have hold : (ledger last s).looked i = c'.looked := (looked_of_call _ hc).trans hlooked
  have hpend : (ledger last s).pending i = pending := (pending_of_call _ hc).trans hpending
  rw [ledger_update]
  ext1
  · rfl
  · rw [← hold, Function.update_eq_self]
    rfl
  · simp only [Ledger.create, hpend, hpending']
  · funext id
    by_cases hid : id = s.notifications.currentId + 1
    · subst hid
      simp [createdAfter, Ledger.create, NotificationRepo.create_rows, Nat.lt_succ_of_le hlast]
    · simp [ledger, createdAfter, Ledger.create, NotificationRepo.create_rows, hid]

/-- A step of a call that only creates a notification keeps the invariant. -/
theorem Inv.create {first : ℕ → ℕ} {last : ℕ} (h : Inv first last s) {i : ι} {c c' : CreateEvent}
    {pending : List NewNotification} {j : ℕ} {new : NewNotification} (hc : s.calls i = some c)
    (hnew : pending[j]? = some new) (hlooked : c.looked = c'.looked)
    (hpending : c.pending = pending) (hpending' : c'.pending = pending.eraseIdx j) :
    Inv first last
      { s with
        notifications := s.notifications.create config s.now new
        calls := Function.update s.calls i (some c') } := by
  have hledger := ledger_create config hc h.last_le j new hlooked hpending hpending'
  have hpend : (Events.ledger last s).pending i = pending := (pending_of_call _ hc).trans hpending
  refine ⟨?_, Nat.le_succ_of_le h.last_le, ?_⟩
  · rw [hledger]
    refine h.ledger.create (by rw [hpend, hnew]) ?_
    simp [Events.ledger, createdAfter]
  · rw [hledger]
    exact h.stored

/-- A step of a call that changes neither subscriptions nor notifications, and no nonces, keeps
the invariant. -/
theorem Inv.same {first : ℕ → ℕ} {last : ℕ} (h : Inv first last s) {i : ι} {c' : CreateEvent}
    {w : Stores} (hsubs : w.subscriptions = s.subscriptions)
    (hnotes : w.notifications = s.notifications)
    (hlooked : (Events.ledger last s).looked i = c'.looked)
    (hpending : (Events.ledger last s).pending i = c'.pending) :
    Inv first last { toStores := w, calls := Function.update s.calls i (some c') } := by
  have hledger := ledger_eq_of_same hsubs hnotes hlooked hpending
  refine ⟨hledger ▸ h.ledger, hnotes ▸ h.last_le, ?_⟩
  rw [hledger]
  simpa only [hsubs] using h.stored

/-- **One step** keeps the invariant, if its repository call does not fail and its lookup, if
it is one, is apart from the others. -/
theorem inv_next {first : ℕ → ℕ} {last : ℕ} (h : Inv first last s) {a : Act ι}
    (hfail : NoneFails s a) (hapart : LooksUpApart s a) (hst : next config s a = some s') :
    Inv first last s' := by
  cases next_cases hst with
  | tick => exact ⟨h.ledger, h.last_le, h.stored⟩
  | createEvent i data hfree =>
    refine h.same rfl rfl ?_ ?_
    · simp [ledger, hfree, Stores.createEvent, CreateEvent.looked]
    · simp [ledger, hfree, Stores.createEvent, CreateEvent.pending]
  | resume i reply c c' w hc hcase =>
    have hresolved := hfail i reply rfl
    obtain ⟨event, notifications, phase⟩ := c
    have hlooked := looked_of_call last hc
    have hpending := pending_of_call last hc
    cases hcase with
    | affected hphase hne =>
      cases hphase
      have hnews : ∀ new ∈ event.notificationsFor (s.affectedSubscriptions event),
          ∃ sub ∈ s.affectedSubscriptions event, s.subscriptions.rows sub.id = some sub ∧
            new = ⟨event.id, sub.id, sub.nextNonce⟩ := by
        intro new hnew
        obtain ⟨sub, hsub, rfl⟩ := List.mem_map.1 hnew
        exact ⟨sub, hsub, Stores.row_of_mem_affected hsub, rfl⟩
      -- the lookup is apart from the others: no other call holds a nonce for these
      have hlook := h.ledger.look (i := i) (s.toStores.nodup_notificationsFor event)
        (fun new hnew => by
          obtain ⟨sub, -, hrow, rfl⟩ := hnews new hnew
          exact (SubscriptionRepo.nextNonce_of_row hrow).symm)
        (fun new hnew j other hother heq => by
          obtain ⟨sub, hsub, -, rfl⟩ := hnews new hnew
          have hid : other.subscriptionId = sub.id := heq.symm
          exact hapart sub (by simpa [State.lookup, hc] using hsub) j
            (hid ▸ List.mem_map_of_mem hother))
      have hledger := ledger_look event hpending
        (event.notificationsFor (s.affectedSubscriptions event))
      refine ⟨hledger ▸ hlook, h.last_le, fun j new hnew => ?_⟩
      have hread : new ∈ ((ledger last s).look i
          (event.notificationsFor (s.affectedSubscriptions event))).looked j := by
        rw [← hledger]
        exact hnew
      by_cases hj : j = i
      · subst hj
        simp only [Ledger.look, Function.update_self] at hread
        obtain ⟨sub, -, hrow, rfl⟩ := hnews new hread
        exact ⟨sub, hrow⟩
      · simp only [Ledger.look, Function.update_of_ne hj] at hread
        exact h.stored j new hread
    | unaffected hphase hnil =>
      cases hphase
      exact h.same rfl rfl hlooked hpending
    | bump hphase =>
      cases hphase
      have hstored := h.stored i
      rw [hlooked] at hstored
      -- the nonces it has read become the ones it holds
      have hledger := ledger_bump last hc hstored
      refine ⟨hledger ▸ h.ledger.bump hpending, h.last_le, fun j new hnew => ?_⟩
      have hbump : new ∈ ((ledger last s).bump i).looked j := by
        rw [← hledger]
        exact hnew
      have hold : new ∈ (ledger last s).looked j := by
        by_cases hj : j = i
        · simp [Ledger.bump, hj] at hbump
        · simpa [Ledger.bump, hj] using hbump
      obtain ⟨sub, hrow⟩ := h.stored j new hold
      simp only [SubscriptionRepo.incrementNonces_rows, hrow]
      split <;> exact ⟨_, rfl⟩
    | create j new pending hphase hnew =>
      cases hphase
      exact h.create hc hnew (CreateEvent.looked_afterCreate ..).symm rfl
        (CreateEvent.pending_afterCreate ..)
    | processed hphase =>
      cases hphase
      exact h.same rfl rfl hlooked hpending
    | lateCreate j new call pending hphase hnew =>
      cases hphase
      exact h.create hc hnew rfl rfl rfl
    | findAllRejected | bumpRejected | createRejected | lateRejected => cases hresolved

omit [DecidableEq ι] in
/-- Before any call is made, no nonce has been given out. -/
theorem inv_of_quiet (hquiet : Quiet s) :
    Inv s.subscriptions.nextNonce s.notifications.currentId s := by
  have hlooked : ∀ i, (ledger s.notifications.currentId s).looked i = [] := by
    simp [ledger, hquiet _]
  have hpending : ∀ i, (ledger s.notifications.currentId s).pending i = [] := by
    simp [ledger, hquiet _]
  have hcreated : ∀ id, (ledger s.notifications.currentId s).created id = none := by
    intro id
    simp only [ledger, createdAfter]
    split
    · rename_i hlt
      simp [Table.rows_eq_none hlt]
    · rfl
  refine ⟨⟨fun k => le_refl _, ?_, ?_, ?_, ?_, ?_⟩, le_refl _, ?_⟩
  · simp [hlooked]
  · simp [hlooked]
  · simp [hlooked]
  · simp [hpending]
  · refine ⟨fun _ _ => .created 0, fun k n x => ?_⟩
    constructor
    · intro hholds
      cases x <;> simp [Ledger.Holds, hpending, hcreated] at hholds
    · rintro ⟨hle, hlt, -⟩
      exact absurd hlt (Nat.not_lt.2 hle)
  · simp [hlooked]

/-- `m` was created after the state `s₀`. -/
def Created (s₀ s : State ι) (m : NotificationModel) : Prop :=
  s.notifications.rows m.id = some m ∧ s₀.notifications.currentId < m.id

/-- The nonces given out since `s₀`. -/
structure Consecutive (s₀ s : State ι) : Prop where
  /-- No two notifications of one subscription carry the same nonce. -/
  distinct : ∀ m m', Created s₀ s m → Created s₀ s m' → m.subscriptionId = m'.subscriptionId →
    m.nonce = m'.nonce → m = m'
  /-- When all calls have resolved, the nonces given to a subscription's notifications are the
  ones from its next nonce before to its next nonce now. -/
  gapless : (∀ i c, s.calls i = some c → c.phase = .resolved) → ∀ k n,
    (∃ m, Created s₀ s m ∧ m.subscriptionId = k ∧ m.nonce = n) ↔
      s₀.subscriptions.nextNonce k ≤ n ∧ n < s.subscriptions.nextNonce k

omit [DecidableEq ι] in
theorem holds_of_created {s₀ : State ι} {m : NotificationModel} (h : Created s₀ s m) :
    (ledger s₀.notifications.currentId s).Holds m.subscriptionId m.nonce (.created m.id) :=
  ⟨m.toNew, by simp [ledger, createdAfter, h.1, h.2], rfl, rfl⟩

/-- **Nonces are consecutive** in every run in which no repository call fails and no call looks
up a subscription between another call's lookup of it and its increase. -/
theorem nonces_consecutive {s₀ : State ι} (hquiet : Quiet s₀)
    (hreach : (machine ι config).Reaches (fun s a => NoneFails s a ∧ LooksUpApart s a) s₀ s) :
    Consecutive s₀ s := by
  have hinv : Inv s₀.subscriptions.nextNonce s₀.notifications.currentId s :=
    hreach.invariant (inv_of_quiet hquiet) fun _ _ _ h hC hst => inv_next h hC.1 hC.2 hst
  obtain ⟨holder, hholder⟩ := hinv.ledger.holder
  constructor
  · intro m m' hm hm' hsub hnonce
    have howner := ((hholder _ _ _).1 (holds_of_created hm)).2.2
    have howner' := ((hholder _ _ _).1 (holds_of_created hm')).2.2
    rw [hsub, hnonce, howner'] at howner
    have hid : m'.id = m.id := Ledger.Holder.created.inj howner
    have hrow := hm'.1
    rw [hid, hm.1] at hrow
    exact Option.some.inj hrow
  · intro hresolved k n
    constructor
    · rintro ⟨m, hm, rfl, rfl⟩
      obtain ⟨hle, hlt, -⟩ := (hholder _ _ _).1 (holds_of_created hm)
      exact ⟨hle, hlt⟩
    · rintro ⟨hle, hlt⟩
      have hholds := (hholder k n (holder k n)).2 ⟨hle, hlt, rfl⟩
      cases howner : holder k n with
      | pending i =>
        -- a call that has resolved has nothing pending
        rw [howner] at hholds
        obtain ⟨new, hnew, -⟩ := hholds
        cases hc : s.calls i with
        | none => simp [ledger, hc] at hnew
        | some c =>
          rw [pending_of_call _ hc] at hnew
          simp [CreateEvent.pending, hresolved i c hc] at hnew
      | created id =>
        rw [howner] at hholds
        obtain ⟨new, hnew, hk, hn⟩ := hholds
        simp only [ledger, createdAfter, Option.ite_none_right_eq_some,
          Option.map_eq_some_iff] at hnew
        obtain ⟨hlast, m, hrow, rfl⟩ := hnew
        obtain rfl : m.id = id := s.notifications.key_eq hrow
        exact ⟨m, ⟨hrow, hlast⟩, hk, hn⟩

/-- One Active subscription to the transaction `"1"`, whose next nonce is 1. -/
def oneSubscriber : State Bool where
  now := 0
  subscriptions :=
    .create .empty ⟨.transactionUpdate, "1", "https://hook", 0, 60, .active, 10, 1, ""⟩
  notifications := .empty
  events := .empty
  calls _ := none

def statusUpdate : EventData :=
  ⟨.transactionUpdate, "1", { status := .running, type := .single "asset.createAsset" }⟩

/-- One call after the other. -/
theorem nonces_consecutive_in_turn :
    ∃ s, s.subscriptions.nextNonce 1 = 3 ∧ Consecutive oneSubscriber s := by
  obtain ⟨s, hreach, hs⟩ := Machine.exists_reaches_of_run
    (M := machine Bool ⟨10, .postgres⟩) (C := fun s a => NoneFails s a ∧ LooksUpApart s a)
    oneSubscriber
    [.createEvent false statusUpdate, .createEvent true statusUpdate, .resume false (.call true),
      .resume false (.call true), .resume true (.call true), .resume true (.call true),
      .resume true (.create 0 true), .resume false (.create 0 true)]
    (fun s => s.subscriptions.nextNonce 1 == 3) (by decide) (by decide)
  exact ⟨s, beq_iff_eq.1 hs, nonces_consecutive (fun _ => rfl) hreach⟩

/-- Two calls that look the subscription up before either has increased its nonce. -/
theorem same_nonce_twice :
    ∃ s, (machine Bool ⟨10, .postgres⟩).Reaches NoneFails oneSubscriber s ∧
      ¬ Consecutive oneSubscriber s := by
  obtain ⟨s, hreach, hs⟩ := Machine.exists_reaches_of_run
    (M := machine Bool ⟨10, .postgres⟩) (C := NoneFails) oneSubscriber
    [.createEvent false statusUpdate, .createEvent true statusUpdate, .resume false (.call true),
      .resume true (.call true), .resume false (.call true), .resume true (.call true),
      .resume false (.create 0 true), .resume true (.create 0 true)]
    (fun s => (s.notifications.rows 1).any (·.toNew = ⟨1, 1, 1⟩) &&
      (s.notifications.rows 2).any (·.toNew = ⟨2, 1, 1⟩)) (by decide) (by decide)
  simp only [Bool.and_eq_true, Option.any_eq_true, decide_eq_true_eq] at hs
  obtain ⟨⟨m, hm, hnew⟩, ⟨m', hm', hnew'⟩⟩ := hs
  have hid : m.id = 1 := s.notifications.key_eq hm
  have hid' : m'.id = 2 := s.notifications.key_eq hm'
  refine ⟨s, hreach, fun h => ?_⟩
  have heq := h.distinct m m' ⟨by rwa [hid], by rw [hid]; decide⟩
    ⟨by rwa [hid'], by rw [hid']; decide⟩
    ((congrArg NewNotification.subscriptionId hnew).trans
      (congrArg NewNotification.subscriptionId hnew').symm)
    ((congrArg NewNotification.nonce hnew).trans (congrArg NewNotification.nonce hnew').symm)
  rw [heq, hid'] at hid
  cases hid

end Events

end PolymeshRest
