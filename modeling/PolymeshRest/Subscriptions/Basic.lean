import PolymeshRest.Events.Types

/-!
# Subscriptions

The subscription model, its repository and the calls of `SubscriptionsService` that other
services make.  Both repositories (`LocalSubscriptionRepo`, `PostgresSubscriptionRepo`) do the
same on ids they have stored, and no code path asks for others, so there is one `SubscriptionRepo`
here.

## Main definitions

* `SubscriptionModel`, `SubscriptionModel.isExpired`
* `SubscriptionRepo` : `create`, `update`, `incrementNonces`; `findById` is the row of the table.
* `SubscriptionFilter`, `findAll` : the filter of `SubscriptionsService.findAll`, which skips a
  filter that is falsy, so an empty scope matches every scope.
* `SubscriptionsConfig`, `createSubscription`

Times are milliseconds since the epoch.
-/

namespace PolymeshRest

/-- `SubscriptionStatus` -/
inductive SubscriptionStatus where
  /-- Not yet confirmed by the receiver. -/
  | inactive
  /-- Confirmed by the receiver. -/
  | active
  /-- No handshake succeeded. -/
  | rejected
  /-- The lifecycle is over, or was ended by hand. -/
  | done
  deriving DecidableEq, Repr

/-- `SubscriptionModel` -/
structure SubscriptionModel where
  id : ℕ
  eventType : EventType
  eventScope : String
  webhookUrl : String
  createdAt : ℕ
  ttl : ℕ
  status : SubscriptionStatus
  triesLeft : ℤ
  nextNonce : ℕ
  legitimacySecret : String
  deriving DecidableEq, Repr

/-- `isExpired`, at time `now`. -/
def SubscriptionModel.isExpired (sub : SubscriptionModel) (now : ℕ) : Bool :=
  sub.createdAt + sub.ttl ≤ now

/-- `SubscriptionParams`: a subscription without its id. -/
structure SubscriptionParams where
  eventType : EventType
  eventScope : String
  webhookUrl : String
  createdAt : ℕ
  ttl : ℕ
  status : SubscriptionStatus
  triesLeft : ℤ
  nextNonce : ℕ
  legitimacySecret : String

/-- `new SubscriptionModel({ id, ...params })` -/
def SubscriptionParams.toModel (params : SubscriptionParams) (id : ℕ) : SubscriptionModel where
  id
  eventType := params.eventType
  eventScope := params.eventScope
  webhookUrl := params.webhookUrl
  createdAt := params.createdAt
  ttl := params.ttl
  status := params.status
  triesLeft := params.triesLeft
  nextNonce := params.nextNonce
  legitimacySecret := params.legitimacySecret

/-- The properties of a `Partial<SubscriptionModel>` that `updateSubscription` does not ignore. -/
structure SubscriptionUpdate where
  status : Option SubscriptionStatus := none
  triesLeft : Option ℤ := none
  nextNonce : Option ℕ := none

/-- `{ ...model, ...params }` -/
def SubscriptionUpdate.apply (params : SubscriptionUpdate) (model : SubscriptionModel) :
    SubscriptionModel :=
  { model with
    status := params.status.getD model.status
    triesLeft := params.triesLeft.getD model.triesLeft
    nextNonce := params.nextNonce.getD model.nextNonce }

@[simp] theorem SubscriptionParams.toModel_id (params : SubscriptionParams) (id : ℕ) :
    (params.toModel id).id = id := rfl

@[simp] theorem SubscriptionUpdate.apply_id (params : SubscriptionUpdate)
    (model : SubscriptionModel) : (params.apply model).id = model.id := rfl

/-- `SubscriptionUpdate.apply`, which keeps the id. -/
def SubscriptionUpdate.rewrite (params : SubscriptionUpdate) :
    Table.Rewrite SubscriptionModel.id where
  apply := params.apply
  key_apply := params.apply_id

/-- The properties of a subscription that no update changes; the others are left at a default. -/
def SubscriptionModel.fixed (sub : SubscriptionModel) : SubscriptionModel :=
  { sub with status := .inactive, triesLeft := 0, nextNonce := 0 }

theorem SubscriptionModel.eventScope_eq_of_fixed {sub sub' : SubscriptionModel}
    (h : sub'.fixed = sub.fixed) : sub'.eventScope = sub.eventScope := by
  have hscope : sub'.fixed.eventScope = sub.fixed.eventScope := by rw [h]
  exact hscope

theorem SubscriptionModel.eventType_eq_of_fixed {sub sub' : SubscriptionModel}
    (h : sub'.fixed = sub.fixed) : sub'.eventType = sub.eventType := by
  have htype : sub'.fixed.eventType = sub.fixed.eventType := by rw [h]
  exact htype

theorem SubscriptionModel.congr_of_fixed {β : Type*} (f : SubscriptionModel → β)
    (hf : ∀ sub, f sub.fixed = f sub) {sub sub' : SubscriptionModel} (h : sub'.fixed = sub.fixed) :
    f sub' = f sub := by
  rw [← hf sub', h, hf sub]

@[simp] theorem SubscriptionUpdate.fixed_apply (params : SubscriptionUpdate)
    (model : SubscriptionModel) : (params.apply model).fixed = model.fixed := rfl

/-- `SubscriptionRepo` -/
abbrev SubscriptionRepo := Table SubscriptionModel SubscriptionModel.id

namespace SubscriptionRepo

/-- `create` -/
def create (repo : SubscriptionRepo) (params : SubscriptionParams) : SubscriptionRepo :=
  repo.insert params.toModel params.toModel_id

/-- `update` -/
def update (repo : SubscriptionRepo) (id : ℕ) (params : SubscriptionUpdate) : SubscriptionRepo :=
  Table.update repo id params.rewrite

/-- `incrementNonces`: one statement, for all the ids. -/
def incrementNonces (repo : SubscriptionRepo) (ids : List ℕ) : SubscriptionRepo :=
  repo.modify (· ∈ ids) (fun model => { model with nextNonce := model.nextNonce + 1 }) fun _ => rfl

variable {repo : SubscriptionRepo}

theorem create_rows {params : SubscriptionParams} (k : ℕ) :
    (repo.create params).rows k =
      if k = repo.currentId + 1 then some (params.toModel k) else repo.rows k := rfl

@[simp] theorem create_currentId {params : SubscriptionParams} :
    (repo.create params).currentId = repo.currentId + 1 := rfl

@[simp] theorem update_currentId {id : ℕ} {params : SubscriptionUpdate} :
    (repo.update id params).currentId = repo.currentId := rfl

@[simp] theorem incrementNonces_currentId {ids : List ℕ} :
    (repo.incrementNonces ids).currentId = repo.currentId := rfl

theorem update_rows {id : ℕ} {params : SubscriptionUpdate} (k : ℕ) :
    (repo.update id params).rows k =
      if k = id then (repo.rows k).map params.apply else repo.rows k :=
  Table.update_rows k

theorem update_rows_self {id : ℕ} {params : SubscriptionUpdate} :
    (repo.update id params).rows id = (repo.rows id).map params.apply := by
  simp [update_rows]

theorem update_rows_of_ne {id k : ℕ} {params : SubscriptionUpdate} (h : k ≠ id) :
    (repo.update id params).rows k = repo.rows k := by
  simp [update_rows, h]

theorem incrementNonces_rows {ids : List ℕ} (k : ℕ) :
    (repo.incrementNonces ids).rows k =
      if k ∈ ids then (repo.rows k).map fun model => { model with nextNonce := model.nextNonce + 1 }
      else repo.rows k := by
  simp [incrementNonces, Table.modify_rows]

theorem incrementNonces_rows_of_notMem {ids : List ℕ} {k : ℕ} (h : k ∉ ids) :
    (repo.incrementNonces ids).rows k = repo.rows k := by
  simp [incrementNonces_rows, h]

/-- The rows of `repo'` are those of `repo`, with updates. -/
def Keeps (repo repo' : SubscriptionRepo) : Prop :=
  ∀ k, (repo'.rows k).map SubscriptionModel.fixed = (repo.rows k).map SubscriptionModel.fixed

theorem Keeps.refl (repo : SubscriptionRepo) : repo.Keeps repo := fun _ => rfl

theorem keeps_update (repo : SubscriptionRepo) (id : ℕ) (params : SubscriptionUpdate) :
    repo.Keeps (repo.update id params) := by
  intro k
  rw [update_rows]
  split
  · cases repo.rows k <;> rfl
  · rfl

theorem keeps_incrementNonces (repo : SubscriptionRepo) (ids : List ℕ) :
    repo.Keeps (repo.incrementNonces ids) := by
  intro k
  rw [incrementNonces_rows]
  split
  · cases repo.rows k <;> rfl
  · rfl

theorem Keeps.row {repo' : SubscriptionRepo} (h : repo.Keeps repo') {k : ℕ}
    {sub' : SubscriptionModel} (hrow : repo'.rows k = some sub') :
    ∃ sub, repo.rows k = some sub ∧ sub'.fixed = sub.fixed := by
  have hk := h k
  rw [hrow, Option.map_some, eq_comm, Option.map_eq_some_iff] at hk
  obtain ⟨sub, hsub, hfixed⟩ := hk
  exact ⟨sub, hsub, hfixed.symm⟩

theorem Keeps.row' {repo' : SubscriptionRepo} (h : repo.Keeps repo') {k : ℕ}
    {sub : SubscriptionModel} (hrow : repo.rows k = some sub) :
    ∃ sub', repo'.rows k = some sub' ∧ sub'.fixed = sub.fixed := by
  have hk := h k
  rw [hrow, Option.map_some, Option.map_eq_some_iff] at hk
  exact hk

/-- The next nonce of a subscription. -/
def nextNonce (repo : SubscriptionRepo) (k : ℕ) : ℕ :=
  (repo.rows k).elim 0 SubscriptionModel.nextNonce

theorem nextNonce_of_row {k : ℕ} {sub : SubscriptionModel} (h : repo.rows k = some sub) :
    repo.nextNonce k = sub.nextNonce := by
  simp [nextNonce, h]

/-- `incrementNonces` increases the nonces of the ids it is given, once. -/
theorem nextNonce_incrementNonces {ids : List ℕ} {k : ℕ}
    (h : k ∈ ids → ∃ sub, repo.rows k = some sub) :
    (repo.incrementNonces ids).nextNonce k =
      if k ∈ ids then repo.nextNonce k + 1 else repo.nextNonce k := by
  unfold nextNonce
  rw [incrementNonces_rows]
  split
  · rename_i hk
    obtain ⟨sub, hsub⟩ := h hk
    simp [hsub]
  · rfl

end SubscriptionRepo

/-! ### `SubscriptionsService` -/

/-- The filters of `findAll`. -/
structure SubscriptionFilter where
  eventType : Option EventType := none
  eventScope : Option String := none
  status : Option SubscriptionStatus := none
  excludeExpired : Bool := false

/-- The predicate `findAll` filters with.  `!scopeFilter` also holds of the empty string. -/
def SubscriptionFilter.matches (filters : SubscriptionFilter) (now : ℕ)
    (subscription : SubscriptionModel) : Bool :=
  filters.status.all (· = subscription.status) &&
    filters.eventScope.all (fun scope => scope = "" || scope = subscription.eventScope) &&
    filters.eventType.all (· = subscription.eventType) &&
    (!filters.excludeExpired || !subscription.isExpired now)

/-- The filter for the Active, unexpired subscriptions to a type and a scope of events. -/
def listening (eventType : EventType) (eventScope : String) : SubscriptionFilter where
  eventType := some eventType
  eventScope := some eventScope
  status := some .active
  excludeExpired := true

/-- `SubscriptionsService.findAll` -/
def findAll (repo : SubscriptionRepo) (now : ℕ) (filters : SubscriptionFilter) :
    List SubscriptionModel :=
  repo.all.filter (filters.matches now)

theorem mem_findAll {repo : SubscriptionRepo} {now : ℕ} {filters : SubscriptionFilter}
    {sub : SubscriptionModel} : sub ∈ findAll repo now filters ↔
      repo.rows sub.id = some sub ∧ filters.matches now sub := by
  simp only [findAll, List.mem_filter, Table.mem_all]

theorem mem_findAll_listening {repo : SubscriptionRepo} {now : ℕ} {eventType : EventType}
    {eventScope : String} (hscope : eventScope ≠ "") {sub : SubscriptionModel} :
    sub ∈ findAll repo now (listening eventType eventScope) ↔
      repo.rows sub.id = some sub ∧ sub.status = .active ∧ sub.eventScope = eventScope ∧
        sub.eventType = eventType ∧ sub.isExpired now = false := by
  rw [mem_findAll]
  simp [SubscriptionFilter.matches, listening, hscope, and_assoc,
    @eq_comm _ SubscriptionStatus.active, @eq_comm _ eventScope]

theorem nodup_ids_findAll {repo : SubscriptionRepo} {now : ℕ} {filters : SubscriptionFilter} :
    ((findAll repo now filters).map SubscriptionModel.id).Nodup :=
  Table.nodup_keys_all.sublist (List.filter_sublist.map _)

/-- `subscriptionsConfig` -/
structure SubscriptionsConfig where
  ttl : ℕ
  maxTries : ℤ

/-- What `createSubscription` is given. -/
structure NewSubscription where
  eventType : EventType
  eventScope : String
  webhookUrl : String
  legitimacySecret : String

/-- What `createSubscription` stores. -/
def SubscriptionsConfig.paramsOf (config : SubscriptionsConfig) (now : ℕ) (sub : NewSubscription) :
    SubscriptionParams where
  eventType := sub.eventType
  eventScope := sub.eventScope
  webhookUrl := sub.webhookUrl
  legitimacySecret := sub.legitimacySecret
  triesLeft := config.maxTries
  status := .inactive
  ttl := config.ttl
  nextNonce := 0
  createdAt := now

/-- An empty scope filter does not filter. -/
example : (SubscriptionFilter.matches { eventScope := some "" } 0
    ⟨1, .transactionUpdate, "7", "", 0, 10, .active, 10, 1, ""⟩) = true := by decide

end PolymeshRest
