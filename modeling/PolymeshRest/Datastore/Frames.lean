import PolymeshRest.Data.Entities
import PolymeshRest.Datastore.Notifications
import PolymeshRest.Datastore.Subscriptions

/-!
# What updates leave alone

`updateSubscription` and `updateNotification` hand the data they are given to `update` of a
repository: what an update is not to change, neither the service nor the repositories filter.  The
data can have any of the properties here, also an `id`, and any numbers.

## Main definitions

* `EntityRepo` : a repository, as far as its updates are concerned; `EntityRepo.machine` puts
  updates among all else that happens to it.
* `EntityRepo.Framed` : an update leaves its frame alone.
* `SubscriptionField.fixed`, `NotificationField.fixed` : the frames.

## Main results

* `localRepo_framed_iff`, `postgresRepo_framed_iff` : the updates that leave their frames alone.
* `framed_iff` : the same of the updates of a run, for both services and both stores.
* `localRepo_keeps`, `postgresRepo_keeps` : through such updates all that is stored keeps its
  frame.
* `LocalSubscriptionRepo.shows_update` and the like : where the data has no `id`, the updates are
  those of the typed repositories.
-/

namespace PolymeshRest

open Js

/-! ### Repositories of entities -/

section

variable {F : Type} {V : F → Type} {E S ι : Type}

/-- Why the call of a repository is rejected. -/
inductive RepoError (E : Type) where
  | app (error : AppError)
  | database (violation : Violation E)

/-- A repository with states `S`, whose entities are found under `ι`. -/
structure EntityRepo (S ι : Type) {F : Type} (V : F → Type) (E : Type) where
  /-- What a number stands for. -/
  names : Number → ι → Prop
  look : S → ι → Option (Entity V)
  /-- `update` -/
  update : S → Number → Patch V → Except (RepoError E) (Entity V) × S

/-- A repository of the local store. -/
def localRepo : EntityRepo (Record Number (Entity V)) Number V E where
  names id i := i = id
  look objects i := objects.get i
  update objects id params :=
    let model := objects.get id
    -- spreading `undefined` gives no properties
    let updated := params.spread (model.getD .empty)
    (.ok updated, objects.set id updated)

/-- `findById` of a repository of the database; `toText id` is `id.toString()`. -/
def postgresRepo.findById (columns : Columns V E) (toText : Number → String) (type : String)
    (rows : Rows V) (id : Number) : Except (RepoError E) (Entity V) :=
  match columns.row id with
  | .error error => .error (.database (.refused error))
  | .ok k =>
    match rows.look k with
    | some entity => .ok entity
    | none => .error (.app (.notFound (toText id) type))

/-- A repository of the database. -/
def postgresRepo (columns : Columns V E) (toText : Number → String) (type : String) :
    EntityRepo (Rows V) ℤ V E where
  names id k := columns.row id = .ok k
  look := Rows.look
  update rows id params :=
    match rows.update columns id params with
    | .error violation => (.error (.database violation), rows)
    | .ok rows => (postgresRepo.findById columns toText type rows id, rows)

/-- What happens to a repository. -/
inductive RepoAction (S : Type) {F : Type} (V : F → Type) where
  /-- An update by the service. -/
  | update (id : Number) (data : Patch V)
  /-- Anything else, such as a creation, or a statement that is cut off. -/
  | other (s : S)

namespace EntityRepo

variable (repo : EntityRepo S ι V E)

/-- The updates among all else that happens. -/
def machine : Machine S (RepoAction S V) where
  next s
    | .update id data => some (repo.update s id data).2
    | .other s => some s

/-- An update leaves its frame alone. -/
def Framed (frame : F → Prop) (s : S) (id : Number) (data : Patch V) : Prop :=
  Frame frame (repo.names id) (repo.look s) (repo.look (repo.update s id data).2)

end EntityRepo

/-- A condition on the updates of a run. -/
def OnUpdates (P : S → Number → Patch V → Prop) (s : S) : RepoAction S V → Prop
  | .update id data => P s id data
  | .other _ => True

/-- The same, where there are only updates. -/
def OnlyUpdates (P : S → Number → Patch V → Prop) (s : S) : RepoAction S V → Prop
  | .update id data => P s id data
  | .other _ => False

namespace EntityRepo

variable {repo : EntityRepo S ι V E} {frame : F → Prop} {harmless : S → Number → Patch V → Prop}

/-- In every run, the updates leave their frames alone exactly if they are `harmless`. -/
def FramedExactly (repo : EntityRepo S ι V E) (frame : F → Prop)
    (harmless : S → Number → Patch V → Prop) : Prop :=
  ∀ s actions, repo.machine.Meets (OnUpdates (repo.Framed frame)) s actions ↔
    repo.machine.Meets (OnUpdates harmless) s actions

theorem framedExactly (hframed : ∀ s id data, repo.Framed frame s id data ↔ harmless s id data) :
    repo.FramedExactly frame harmless := by
  intro s actions
  -- the condition is exact in every state, so no invariant of the run is needed
  refine Machine.meets_iff_meets (J := fun _ => True) (fun _ _ _ _ _ _ => trivial) ?_ trivial
    actions
  rintro s (⟨id, data⟩ | s') -
  · exact hframed s id data
  · exact Iff.rfl

theorem sameFrame_of_reaches
    (hframed : ∀ s id data, repo.Framed frame s id data ↔ harmless s id data) {s s' : S} {i : ι}
    {old : Entity V} (h : repo.machine.Reaches (OnlyUpdates harmless) s s')
    (hold : repo.look s i = some old) :
    ∃ new, repo.look s' i = some new ∧ old.SameFrame frame new := by
  refine h.invariant (I := fun t => ∃ new, repo.look t i = some new ∧ old.SameFrame frame new)
    ⟨old, hold, .refl old⟩ ?_
  rintro t (⟨id, data⟩ | t') t'' ⟨new, hnew, hsame⟩ hharmless hst
  · cases hst
    obtain ⟨newer, hnewer, hsame'⟩ := ((hframed t id data).2 hharmless).exists_sameFrame hnew
    exact ⟨newer, hnewer, hsame.trans hsame'⟩
  · exact False.elim hharmless

end EntityRepo

variable {frame : F → Prop}

/-- What an object in memory may be updated with. -/
def LocalHarmless (frame : F → Prop) (objects : Record Number (Entity V)) (id : Number)
    (data : Patch V) : Prop :=
  ∀ old, objects.get id = some old → data.Keeps frame old

theorem localRepo_framed_iff (objects : Record Number (Entity V)) (id : Number) (data : Patch V) :
    (localRepo (E := E)).Framed frame objects id data ↔ LocalHarmless frame objects id data :=
  Record.frame_update_iff

theorem postgresRepo_update_snd (columns : Columns V E) (toText : Number → String) (type : String)
    (rows : Rows V) (id : Number) (data : Patch V) :
    ((postgresRepo columns toText type).update rows id data).2 = rows.updated columns id data := by
  simp only [postgresRepo, Rows.updated]
  cases rows.update columns id data <;> rfl

theorem postgresRepo_framed_iff (columns : Columns V E) (toText : Number → String) (type : String)
    (rows : Rows V) (id : Number) (data : Patch V) :
    (postgresRepo columns toText type).Framed frame rows id data ↔
      rows.Harmless frame columns id data := by
  rw [EntityRepo.Framed, postgresRepo_update_snd]
  exact Rows.frame_updated_iff

/-- **Through harmless updates in memory** every object that is stored keeps its frame. -/
theorem localRepo_keeps {objects objects' : Record Number (Entity V)}
    (h : (localRepo (E := E)).machine.Reaches (OnlyUpdates (LocalHarmless frame)) objects objects')
    {id : Number} {old : Entity V} (hold : objects.get id = some old) :
    ∃ new, objects'.get id = some new ∧ old.SameFrame frame new :=
  EntityRepo.sameFrame_of_reaches localRepo_framed_iff h hold

/-- **Through harmless updates of the database** every row keeps its frame. -/
theorem postgresRepo_keeps {columns : Columns V E} {toText : Number → String} {type : String}
    {rows rows' : Rows V} (h : (postgresRepo columns toText type).machine.Reaches
      (OnlyUpdates (Rows.Harmless frame columns)) rows rows')
    {k : ℤ} {old : Entity V} (hold : rows.look k = some old) :
    ∃ new, rows'.look k = some new ∧ old.SameFrame frame new :=
  EntityRepo.sameFrame_of_reaches (postgresRepo_framed_iff columns toText type) h hold

/-! ### Typed repositories -/

section

variable {O : Type} {view : O → Entity V} {objects : Record Number (Entity V)} {kept : Record ℤ O}

/-- The objects that are kept under whole numbers are the entities under these. -/
def Shows (view : O → Entity V) (kept : Record ℤ O) (objects : Record Number (Entity V)) : Prop :=
  ∀ k : ℤ, objects.get (.finite k) = (kept.get k).map view

theorem Shows.set (h : Shows view kept objects) (id : ℤ) {data : Patch V} {spread : O → O}
    {none : O} (hspread : ∀ o, view (spread o) = data.spread (view o))
    (hnone : view none = .empty) :
    Shows view (kept.set id (spread ((kept.get id).getD none)))
      (objects.update (.finite id) data) := by
  intro k
  have hk : (Number.finite k = .finite id) ↔ k = id := by
    rw [Number.finite.injEq, Int.cast_inj]
  rw [Record.update, Record.get_set, Record.get_set]
  simp only [hk]
  split_ifs
  · rw [Option.map_some, hspread, h id]
    cases kept.get id with
    | none => rw [Option.map_none, Option.getD_none, Option.getD_none, hnone]
    | some o => rfl
  · exact h k

end

section

variable {M : Type} {key : M → ℕ} {view : M → ∀ f, V f} {t : Table M key} {rows : Rows V}
  {columns : Columns V E}

/-- The rows of the table are the rows under their numbers. -/
def Lists (view : M → ∀ f, V f) (t : Table M key) (rows : Rows V) : Prop :=
  ∀ k : ℤ, rows k = (t.find k).map view

theorem Lists.modify (h : Lists view t rows) {id : ℤ} {data : Patch V} {assign : M → M}
    (hkey : ∀ m, key (assign m) = key m) (hassign : ∀ m, view (assign m) = data.assign (view m))
    (hreads : columns.reads (.finite id) data = .ok (id, id)) :
    Lists view (t.modify (fun k => (k : ℤ) = id) assign hkey)
      (rows.updated columns (.finite id) data) := by
  intro k
  rw [Table.find_modify (· = id)]
  cases hrow : t.find id with
  | none =>
    rw [Rows.updated_of_none hreads (by rw [h id, hrow, Option.map_none]), h k]
    split_ifs with hk
    · rw [hk, hrow]
      rfl
    · rfl
  | some m =>
    rw [Rows.updated_of_same hreads (by rw [h id, hrow, Option.map_some]), Function.update_apply]
    split_ifs with hk
    · rw [hk, hrow, Option.map_some, Option.map_some, hassign]
    · exact h k

end

end

/-! ### Subscriptions -/

/-- The properties of a `SubscriptionModel` but its `id`. -/
inductive SubscriptionField where
  | eventType
  | eventScope
  | webhookUrl
  | createdAt
  | ttl
  | status
  | triesLeft
  | nextNonce
  | legitimacySecret
  deriving DecidableEq

namespace SubscriptionField

/-- The values of a property, a `Date` by its time. -/
abbrev Value : SubscriptionField → Type
  | .eventType => EventType
  | .eventScope | .webhookUrl | .legitimacySecret => String
  | .createdAt | .ttl | .triesLeft | .nextNonce => Number
  | .status => SubscriptionStatus

/-- "ignores any properties other than `status`, `triesLeft` and `nextNonce`" -/
def fixed : SubscriptionField → Bool
  | .status | .triesLeft | .nextNonce => false
  | _ => true

end SubscriptionField

section

variable {E S ι : Type}

/-- `updateSubscription` -/
def SubscriptionsService.updateSubscription
    (subscriptionRepo : EntityRepo S ι SubscriptionField.Value E) (s : S) (id : Number)
    (data : Patch SubscriptionField.Value) :
    Except (RepoError E) (Entity SubscriptionField.Value) × S :=
  subscriptionRepo.update s id data

/-- The service over a repository. -/
def SubscriptionsService.on (subscriptionRepo : EntityRepo S ι SubscriptionField.Value E) :
    EntityRepo S ι SubscriptionField.Value E :=
  { subscriptionRepo with update := updateSubscription subscriptionRepo }

/-- The repository of subscriptions of the local store. -/
abbrev LocalSubscriptionRepo.entities :
    EntityRepo (Record Number (Entity SubscriptionField.Value)) Number SubscriptionField.Value
      Empty :=
  localRepo

/-- The repository of subscriptions of the database. -/
abbrev PostgresSubscriptionRepo.entities (columns : Columns SubscriptionField.Value E)
    (toText : Number → String) :
    EntityRepo (Rows SubscriptionField.Value) ℤ SubscriptionField.Value E :=
  postgresRepo columns toText SubscriptionRepo.type

end

/-- A value of `nextNonce` as a number. -/
def NonceValue.value : NonceValue → Number
  | .nan => .nan
  | .number n => .ofNat n

/-- An object of the typed repository. -/
def SubscriptionObject.entity (object : SubscriptionObject) : Entity SubscriptionField.Value where
  id := object.id.map .ofNat
  field
    | .eventType => object.eventType
    | .eventScope => object.eventScope
    | .webhookUrl => object.webhookUrl
    | .createdAt => object.createdAt.map .ofNat
    | .ttl => object.ttl.map .ofNat
    | .status => object.status
    | .triesLeft => object.triesLeft.map .ofInt
    | .nextNonce => object.nextNonce.map NonceValue.value
    | .legitimacySecret => object.legitimacySecret

theorem SubscriptionObject.entity_empty : entity {} = .empty := by
  refine congrArg (Entity.mk _) (funext fun f => ?_)
  cases f <;> rfl

/-- A row of the typed repository. -/
def SubscriptionModel.fields (model : SubscriptionModel) : ∀ f, SubscriptionField.Value f
  | .eventType => model.eventType
  | .eventScope => model.eventScope
  | .webhookUrl => model.webhookUrl
  | .createdAt => .ofNat model.createdAt
  | .ttl => .ofNat model.ttl
  | .status => model.status
  | .triesLeft => .ofInt model.triesLeft
  | .nextNonce => .ofNat model.nextNonce
  | .legitimacySecret => model.legitimacySecret

namespace SubscriptionPatch

/-- `Partial<SubscriptionParams>` among the data. -/
def data (params : SubscriptionPatch) : Patch SubscriptionField.Value where
  field
    | .eventType => params.eventType
    | .eventScope => params.eventScope
    | .webhookUrl => params.webhookUrl
    | .createdAt => params.createdAt.map .ofNat
    | .ttl => params.ttl.map .ofNat
    | .status => params.status
    | .triesLeft => params.triesLeft.map .ofInt
    | .nextNonce => params.nextNonce.map .ofNat
    | .legitimacySecret => params.legitimacySecret

theorem entity_spread (params : SubscriptionPatch) (object : SubscriptionObject) :
    (params.spread object).entity = params.data.spread object.entity := by
  refine congrArg (Entity.mk _) (funext fun f => ?_)
  cases f with
  | createdAt | ttl => exact (Given.spread_map Number.ofNat _ _).symm
  | triesLeft => exact (Given.spread_map Number.ofInt _ _).symm
  | nextNonce =>
    -- the typed repository tells a nonce from `NaN` on its own
    show ((params.nextNonce.map .number).spread object.nextNonce).map NonceValue.value = _
    rw [← Given.spread_map, Given.map_map]
    rfl
  | _ => rfl

theorem fields_assign (params : SubscriptionPatch) (model : SubscriptionModel) :
    (params.assign model).fields = params.data.assign model.fields := by
  funext f
  cases f with
  | createdAt | ttl | nextNonce => exact (Given.assign_map Number.ofNat _ _).symm
  | triesLeft => exact (Given.assign_map Number.ofInt _ _).symm
  | _ => rfl

end SubscriptionPatch

theorem LocalSubscriptionRepo.shows_update {repo : LocalSubscriptionRepo}
    {objects : Record Number (Entity SubscriptionField.Value)}
    (h : Shows (·.entity) repo.subscriptions objects) (id : ℤ) (params : SubscriptionPatch) :
    Shows (·.entity) (repo.update id params).2.subscriptions
      (entities.update objects (.finite id) params.data).2 :=
  h.set id params.entity_spread SubscriptionObject.entity_empty

/-- Where the data has a value, has no `id`, and is not refused by the database, an update is one of
the typed repository. -/
theorem PostgresSubscriptionRepo.lists_update {repo : SubscriptionRepo} {E : Type}
    {rows : Rows SubscriptionField.Value} {columns : Columns SubscriptionField.Value E}
    (h : Lists SubscriptionModel.fields repo rows) {toText : Number → String} {id : ℤ}
    {params : SubscriptionPatch} (hsets : params.sets = true)
    (hid : columns.row (.finite id) = .ok id) (hdata : columns.refuses params.data = none) :
    Lists SubscriptionModel.fields (update repo id params).2
      ((entities columns toText).update rows (.finite id) params.data).2 := by
  rw [postgresRepo_update_snd, update_of_sets hsets]
  exact h.modify params.assign_id params.fields_assign (Columns.reads_of_missing hid hdata rfl)

/-! ### Notifications -/

/-- The properties of a `NotificationModel` but its `id`. -/
inductive NotificationField where
  | subscriptionId
  | eventId
  | triesLeft
  | status
  | createdAt
  | nonce
  deriving DecidableEq

namespace NotificationField

/-- The values of a property, a `Date` by its time. -/
abbrev Value : NotificationField → Type
  | .subscriptionId | .eventId | .triesLeft | .createdAt | .nonce => Number
  | .status => NotificationStatus

/-- What an update of a notification does not change. -/
def fixed : NotificationField → Bool
  | .status | .triesLeft => false
  | _ => true

end NotificationField

section

variable {E S ι : Type}

/-- `updateNotification` -/
def NotificationsService.updateNotification
    (notificationsRepo : EntityRepo S ι NotificationField.Value E) (s : S) (id : Number)
    (data : Patch NotificationField.Value) :
    Except (RepoError E) (Entity NotificationField.Value) × S :=
  notificationsRepo.update s id data

/-- The service over a repository. -/
def NotificationsService.on (notificationsRepo : EntityRepo S ι NotificationField.Value E) :
    EntityRepo S ι NotificationField.Value E :=
  { notificationsRepo with update := updateNotification notificationsRepo }

/-- The repository of notifications of the local store. -/
abbrev LocalNotificationRepo.entities :
    EntityRepo (Record Number (Entity NotificationField.Value)) Number NotificationField.Value
      Empty :=
  localRepo

/-- The repository of notifications of the database. -/
abbrev PostgresNotificationRepo.entities (columns : Columns NotificationField.Value E)
    (toText : Number → String) :
    EntityRepo (Rows NotificationField.Value) ℤ NotificationField.Value E :=
  postgresRepo columns toText "notification"

end

/-- An object of the typed repository. -/
def NotificationObject.entity (object : NotificationObject) : Entity NotificationField.Value where
  id := object.id.map .ofNat
  field
    | .subscriptionId => object.subscriptionId.map .ofNat
    | .eventId => object.eventId.map .ofNat
    | .triesLeft => object.triesLeft.map .ofInt
    | .status => object.status
    | .createdAt => object.createdAt.map .ofNat
    | .nonce => object.nonce.map .ofNat

theorem NotificationObject.entity_empty : entity {} = .empty := by
  refine congrArg (Entity.mk _) (funext fun f => ?_)
  cases f <;> rfl

/-- A row of the typed repository. -/
def NotificationModel.fields (model : NotificationModel) : ∀ f, NotificationField.Value f
  | .subscriptionId => .ofNat model.subscriptionId
  | .eventId => .ofNat model.eventId
  | .triesLeft => .ofInt model.triesLeft
  | .status => model.status
  | .createdAt => .ofNat model.createdAt
  | .nonce => .ofNat model.nonce

namespace NotificationPatch

/-- `Partial<NotificationParams>` among the data. -/
def data (params : NotificationPatch) : Patch NotificationField.Value where
  field
    | .subscriptionId => params.subscriptionId.map .ofNat
    | .eventId => params.eventId.map .ofNat
    | .triesLeft => params.triesLeft.map .ofInt
    | .status => params.status
    | .createdAt => .missing
    | .nonce => params.nonce.map .ofNat

theorem entity_spread (params : NotificationPatch) (object : NotificationObject) :
    (params.spread object).entity = params.data.spread object.entity := by
  refine congrArg (Entity.mk _) (funext fun f => ?_)
  cases f with
  | subscriptionId | eventId | nonce => exact (Given.spread_map Number.ofNat _ _).symm
  | triesLeft => exact (Given.spread_map Number.ofInt _ _).symm
  | _ => rfl

theorem fields_assign (params : NotificationPatch) (model : NotificationModel) :
    (params.assign model).fields = params.data.assign model.fields := by
  funext f
  cases f with
  | subscriptionId | eventId | nonce => exact (Given.assign_map Number.ofNat _ _).symm
  | triesLeft => exact (Given.assign_map Number.ofInt _ _).symm
  | _ => rfl

end NotificationPatch

theorem LocalNotificationRepo.shows_update {repo : LocalNotificationRepo}
    {objects : Record Number (Entity NotificationField.Value)}
    (h : Shows (·.entity) repo.notifications objects) (id : ℤ) (params : NotificationPatch) :
    Shows (·.entity) (repo.update id params).2.notifications
      (entities.update objects (.finite id) params.data).2 :=
  h.set id params.entity_spread NotificationObject.entity_empty

/-- Where the data has a value, has no `id`, and is not refused by the database, an update is one of
the typed repository. -/
theorem PostgresNotificationRepo.lists_update {repo : NotificationRepo} {E : Type}
    {rows : Rows NotificationField.Value} {columns : Columns NotificationField.Value E}
    (h : Lists NotificationModel.fields repo rows) {toText : Number → String} {id : ℤ}
    {params : NotificationPatch} (hsets : params.sets = true)
    (hid : columns.row (.finite id) = .ok id) (hdata : columns.refuses params.data = none) :
    Lists NotificationModel.fields (update repo id params).2
      ((entities columns toText).update rows (.finite id) params.data).2 := by
  rw [postgresRepo_update_snd, update_of_sets hsets]
  exact h.modify params.assign_id params.fields_assign (Columns.reads_of_missing hid hdata rfl)

/-! ### Both services over both stores -/

namespace Frames

/-- The frame of an update of a subscription. -/
def OfSubscription (f : SubscriptionField) : Prop := f.fixed = true

/-- The frame of an update of a notification. -/
def OfNotification (f : NotificationField) : Prop := f.fixed = true

/-- **The updates of a run leave their frames alone exactly if they are harmless**, for both
services and in both stores. -/
theorem framed_iff {E : Type} (toText : Number → String)
    (subscriptions : Columns SubscriptionField.Value E)
    (notifications : Columns NotificationField.Value E) :
    (SubscriptionsService.on LocalSubscriptionRepo.entities).FramedExactly OfSubscription
        (LocalHarmless OfSubscription) ∧
      (SubscriptionsService.on
        (PostgresSubscriptionRepo.entities subscriptions toText)).FramedExactly OfSubscription
          (Rows.Harmless OfSubscription subscriptions) ∧
      (NotificationsService.on LocalNotificationRepo.entities).FramedExactly OfNotification
        (LocalHarmless OfNotification) ∧
      (NotificationsService.on
        (PostgresNotificationRepo.entities notifications toText)).FramedExactly OfNotification
          (Rows.Harmless OfNotification notifications) := by
  refine ⟨?_, ?_, ?_, ?_⟩
  · exact EntityRepo.framedExactly localRepo_framed_iff
  · exact EntityRepo.framedExactly (postgresRepo_framed_iff subscriptions toText _)
  · exact EntityRepo.framedExactly localRepo_framed_iff
  · exact EntityRepo.framedExactly (postgresRepo_framed_iff notifications toText _)

/-- A subscription that is stored. -/
def stored : Entity SubscriptionField.Value := SubscriptionObject.entity <| .ofModel
  { id := 1
    eventType := .transactionUpdate
    eventScope := "0x01"
    webhookUrl := "https://example.com/hook"
    createdAt := 0
    ttl := 60000
    status := .inactive
    triesLeft := 5
    nextNonce := 0
    legitimacySecret := "secret" }

/-- A status, the tries that are left, and another number. -/
def numbered : Patch SubscriptionField.Value where
  id := .value (.ofNat 4)
  field
    | .status => .value .active
    | .triesLeft => .value (.ofInt 1)
    | _ => .missing

/-- The service over the local store. -/
abbrev inMemory := SubscriptionsService.on LocalSubscriptionRepo.entities

/-- Updating subscription 1 with another number gives it this number. -/
theorem not_framed : ¬ inMemory.machine.Meets (OnUpdates (inMemory.Framed OfSubscription))
    (Record.empty.set (.ofNat 1) stored) [.update (.ofNat 1) numbered] := by
  intro h
  obtain ⟨new, hnew, hsame⟩ := h.1.named (.ofNat 1) stored rfl rfl
  obtain rfl : numbered.spread stored = new := Option.some.inj hnew
  have hid : Number.ofNat 4 = Number.ofNat 1 := Option.some.inj hsame.id
  exact absurd hid (by decide)

end Frames

end PolymeshRest
