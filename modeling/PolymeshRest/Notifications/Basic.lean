import PolymeshRest.Events.Types

/-!
# Notifications

The notification model, the two repositories that store it and the payload that is sent for it.

* `NotificationStore` : which repository is in use.  The two differ in `create` only:
  `LocalNotificationRepo` puts its own `triesLeft` and status over the ones it is given.
* `NotificationsConfig`, `NotificationRepo` : `create`, `update`; `findById` is a row of the table.
* `NotificationPayload`, `assembleNotificationPayload`
-/

namespace PolymeshRest

/-- `NotificationStatus` -/
inductive NotificationStatus where
  /-- Waiting to be received and acknowledged by the consumer. -/
  | active
  /-- Properly received by the consumer. -/
  | acknowledged
  /-- Not delivered after all retries. -/
  | failed
  /-- The subscription expired before the notification was acknowledged. -/
  | orphaned
  deriving DecidableEq, Repr

/-- `NotificationModel` -/
structure NotificationModel where
  id : ℕ
  subscriptionId : ℕ
  eventId : ℕ
  triesLeft : ℤ
  status : NotificationStatus
  createdAt : ℕ
  nonce : ℕ
  deriving DecidableEq, Repr

/-- What `createNotifications` is given for each notification. -/
structure NewNotification where
  eventId : ℕ
  subscriptionId : ℕ
  nonce : ℕ
  deriving DecidableEq, Repr

/-- The event, the subscription and the nonce of a stored notification. -/
def NotificationModel.toNew (notification : NotificationModel) : NewNotification where
  eventId := notification.eventId
  subscriptionId := notification.subscriptionId
  nonce := notification.nonce

/-- `NotificationParams` -/
structure NotificationParams where
  eventId : ℕ
  subscriptionId : ℕ
  nonce : ℕ
  status : NotificationStatus
  triesLeft : ℤ

/-- `{ ...notification, triesLeft, status: NotificationStatus.Active }` -/
def NewNotification.params (notification : NewNotification) (triesLeft : ℤ) :
    NotificationParams where
  eventId := notification.eventId
  subscriptionId := notification.subscriptionId
  nonce := notification.nonce
  status := .active
  triesLeft := triesLeft

/-- The properties of a `Partial<NotificationParams>` that are ever updated. -/
structure NotificationUpdate where
  status : Option NotificationStatus := none
  triesLeft : Option ℤ := none

/-- `{ ...model, ...params }` -/
def NotificationUpdate.apply (params : NotificationUpdate) (model : NotificationModel) :
    NotificationModel :=
  { model with
    status := params.status.getD model.status
    triesLeft := params.triesLeft.getD model.triesLeft }

@[simp] theorem NotificationUpdate.apply_id (params : NotificationUpdate)
    (model : NotificationModel) : (params.apply model).id = model.id := rfl

/-- `NotificationUpdate.apply`, which keeps the id. -/
def NotificationUpdate.rewrite (params : NotificationUpdate) :
    Table.Rewrite NotificationModel.id where
  apply := params.apply
  key_apply := params.apply_id

/-- The implementations of `NotificationRepo`. -/
inductive NotificationStore where
  /-- `LocalNotificationRepo` -/
  | localStore
  /-- `PostgresNotificationRepo` -/
  | postgres
  deriving DecidableEq, Repr

/-- The constant `triesLeft` of `LocalNotificationRepo`. -/
def localTriesLeft : ℤ := 10

/-- The tries a new notification is stored with, when the service asks for `triesLeft`. -/
def NotificationStore.storedTries : NotificationStore → ℤ → ℤ
  | .localStore, _ => localTriesLeft
  | .postgres, triesLeft => triesLeft

/-- The notification `create` stores under `id`. -/
def NotificationStore.model (store : NotificationStore) (now : ℕ) (params : NotificationParams)
    (id : ℕ) : NotificationModel where
  id
  subscriptionId := params.subscriptionId
  eventId := params.eventId
  triesLeft := store.storedTries params.triesLeft
  status := match store with
    | .localStore => .active
    | .postgres => params.status
  createdAt := now
  nonce := params.nonce

@[simp] theorem NotificationStore.model_id (store : NotificationStore) (now : ℕ)
    (params : NotificationParams) (id : ℕ) : (store.model now params id).id = id := rfl

@[simp] theorem NotificationStore.model_status (store : NotificationStore) (now : ℕ)
    (new : NewNotification) (triesLeft : ℤ) (id : ℕ) :
    (store.model now (new.params triesLeft) id).status = .active := by
  cases store <;> rfl

/-- The settings of `NotificationsService`: `maxTries`, and the repository behind it. -/
structure NotificationsConfig where
  maxTries : ℤ
  store : NotificationStore

/-- The notification that an element of `createNotifications` stores under `id`. -/
def NotificationsConfig.model (config : NotificationsConfig) (now : ℕ) (new : NewNotification)
    (id : ℕ) : NotificationModel :=
  config.store.model now (new.params config.maxTries) id

@[simp] theorem NotificationsConfig.model_id (config : NotificationsConfig) (now : ℕ)
    (new : NewNotification) (id : ℕ) : (config.model now new id).id = id := rfl

@[simp] theorem NotificationsConfig.model_status (config : NotificationsConfig) (now : ℕ)
    (new : NewNotification) (id : ℕ) : (config.model now new id).status = .active :=
  NotificationStore.model_status ..

@[simp] theorem NotificationsConfig.model_subscriptionId (config : NotificationsConfig) (now : ℕ)
    (new : NewNotification) (id : ℕ) :
    (config.model now new id).subscriptionId = new.subscriptionId := rfl

@[simp] theorem NotificationsConfig.model_toNew (config : NotificationsConfig) (now : ℕ)
    (new : NewNotification) (id : ℕ) : (config.model now new id).toNew = new := rfl

/-- `NotificationRepo` -/
abbrev NotificationRepo := Table NotificationModel NotificationModel.id

namespace NotificationRepo

/-- `create`, as `createNotifications` calls it. -/
def create (repo : NotificationRepo) (config : NotificationsConfig) (now : ℕ)
    (new : NewNotification) : NotificationRepo :=
  repo.insert (config.model now new) (config.model_id now new)

/-- `update` -/
def update (repo : NotificationRepo) (id : ℕ) (params : NotificationUpdate) : NotificationRepo :=
  Table.update repo id params.rewrite

variable {repo : NotificationRepo}

theorem create_rows {config : NotificationsConfig} {now : ℕ} {new : NewNotification} (k : ℕ) :
    (repo.create config now new).rows k =
      if k = repo.currentId + 1 then some (config.model now new k) else repo.rows k := rfl

@[simp] theorem create_currentId {config : NotificationsConfig} {now : ℕ}
    {new : NewNotification} :
    (repo.create config now new).currentId = repo.currentId + 1 := rfl

theorem update_rows {id : ℕ} {params : NotificationUpdate} (k : ℕ) :
    (repo.update id params).rows k =
      if k = id then (repo.rows k).map params.apply else repo.rows k :=
  Table.update_rows k

theorem update_rows_self {id : ℕ} {params : NotificationUpdate} :
    (repo.update id params).rows id = (repo.rows id).map params.apply := by
  simp [update_rows]

theorem update_rows_of_ne {id k : ℕ} {params : NotificationUpdate} (h : k ≠ id) :
    (repo.update id params).rows k = repo.rows k := by
  simp [update_rows, h]

@[simp] theorem update_currentId {id : ℕ} {params : NotificationUpdate} :
    (repo.update id params).currentId = repo.currentId := rfl

end NotificationRepo

/-- `NotificationPayload` -/
structure NotificationPayload where
  subscriptionId : ℕ
  type : EventType
  scope : String
  nonce : ℕ
  payload : TransactionUpdatePayload
  deriving DecidableEq, Repr

/-- `assembleNotificationPayload` -/
def assembleNotificationPayload (subscriptionId : ℕ) (type : EventType) (scope : String)
    (payload : TransactionUpdatePayload) (nonce : ℕ) : NotificationPayload :=
  { type, scope, subscriptionId, payload, nonce }

end PolymeshRest
