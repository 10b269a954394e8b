import PolymeshRest.Datastore.Basic
import PolymeshRest.Notifications.Basic

/-!
# The two repositories of notifications

`LocalNotificationRepo` keeps objects under their numbers, `PostgresNotificationRepo` rows of a
table.  In memory `create` puts its own tries and status over the given ones, and neither
`findById` nor `update` looks whether anything is stored under a number.

## Main definitions

* `NotificationPatch` : `Partial<NotificationParams>`.
* `LocalNotificationRepo`, `PostgresNotificationRepo` : their calls, and `service`.
* `NotificationRepos.Faithful` : the two are alike, what is created has the given properties, and
  a number that was never given out is not found.
* `NotificationRepos.Regular` : the calls on which they are.

## Main results

* `NotificationRepos.linked_next` : a regular call keeps the same notifications in both.
* `NotificationRepos.faithful_iff` : the repositories are faithful on all the calls of a run
  exactly if all of them are regular.
-/

namespace PolymeshRest

open Js

/-! ### Objects and patches -/

/-- An object with the properties of a notification, some of which can be missing. -/
structure NotificationObject where
  id : Option ℕ := none
  subscriptionId : Option ℕ := none
  eventId : Option ℕ := none
  triesLeft : Option ℤ := none
  status : Option NotificationStatus := none
  createdAt : Option ℕ := none
  nonce : Option ℕ := none
  deriving DecidableEq, Repr

namespace NotificationObject

/-- An object with all the properties of a notification. -/
def ofModel (model : NotificationModel) : NotificationObject where
  id := some model.id
  subscriptionId := some model.subscriptionId
  eventId := some model.eventId
  triesLeft := some model.triesLeft
  status := some model.status
  createdAt := some model.createdAt
  nonce := some model.nonce

/-- The object up to `createdAt`. -/
def shown (object : NotificationObject) : NotificationObject := { object with createdAt := none }

/-- The object has the properties that are given to `create`. -/
def Has (object : NotificationObject) (params : NotificationParams) : Prop :=
  object.eventId = some params.eventId ∧ object.subscriptionId = some params.subscriptionId ∧
    object.nonce = some params.nonce ∧ object.status = some params.status ∧
      object.triesLeft = some params.triesLeft

end NotificationObject

/-- `Partial<NotificationParams>` -/
structure NotificationPatch where
  eventId : Given ℕ := .missing
  subscriptionId : Given ℕ := .missing
  nonce : Given ℕ := .missing
  status : Given NotificationStatus := .missing
  triesLeft : Given ℤ := .missing
  deriving DecidableEq, Repr

namespace NotificationPatch

/-- `{ ...object, ...params }` -/
def spread (params : NotificationPatch) (object : NotificationObject) : NotificationObject where
  id := object.id
  subscriptionId := params.subscriptionId.spread object.subscriptionId
  eventId := params.eventId.spread object.eventId
  triesLeft := params.triesLeft.spread object.triesLeft
  status := params.status.spread object.status
  createdAt := object.createdAt
  nonce := params.nonce.spread object.nonce

/-- The row after `UPDATE ... SET`, which leaves out the properties that are `undefined`. -/
def assign (params : NotificationPatch) (model : NotificationModel) : NotificationModel where
  id := model.id
  subscriptionId := params.subscriptionId.assign model.subscriptionId
  eventId := params.eventId.assign model.eventId
  triesLeft := params.triesLeft.assign model.triesLeft
  status := params.status.assign model.status
  createdAt := model.createdAt
  nonce := params.nonce.assign model.nonce

@[simp] theorem assign_id (params : NotificationPatch) (model : NotificationModel) :
    (params.assign model).id = model.id := rfl

/-- No property is there and `undefined`. -/
def defined (params : NotificationPatch) : Bool :=
  params.eventId.defined && params.subscriptionId.defined && params.nonce.defined &&
    params.status.defined && params.triesLeft.defined

/-- Some property is there with a value. -/
def sets (params : NotificationPatch) : Bool :=
  params.eventId.isValue || params.subscriptionId.isValue || params.nonce.isValue ||
    params.status.isValue || params.triesLeft.isValue

theorem assign_of_not_sets {params : NotificationPatch} (h : params.sets = false) :
    params.assign = id := by
  funext model
  simp only [sets, Bool.or_eq_false_iff] at h
  simp only [assign, Given.assign_of_not_isValue, h, id]

/-- Spreading a patch over a notification gives the updated notification exactly if the patch
sets no property to `undefined`. -/
theorem shown_spread_iff {params : NotificationPatch} {object : NotificationObject}
    {model : NotificationModel} (h : object.shown = (NotificationObject.ofModel model).shown) :
    (params.spread object).shown = (NotificationObject.ofModel (params.assign model)).shown ↔
      params.defined = true := by
  obtain ⟨id, subscriptionId, eventId, triesLeft, status, createdAt, nonce⟩ := object
  simp only [NotificationObject.shown, NotificationObject.ofModel,
    NotificationObject.mk.injEq] at h
  obtain ⟨rfl, rfl, rfl, rfl, rfl, -, rfl⟩ := h
  simp only [NotificationObject.shown, NotificationObject.ofModel, spread, assign, defined,
    NotificationObject.mk.injEq, Given.spread_eq_some_assign, Bool.and_eq_true]
  tauto

/-- The patches that `NotificationsService` makes. -/
def ofUpdate (params : NotificationUpdate) : NotificationPatch where
  status := params.status.elim .missing .value
  triesLeft := params.triesLeft.elim .missing .value

theorem assign_ofUpdate (params : NotificationUpdate) :
    (ofUpdate params).assign = params.apply := by
  funext model
  obtain ⟨status, triesLeft⟩ := params
  cases status <;> cases triesLeft <;> rfl

end NotificationPatch

/-- The calls of a `NotificationRepo`, with the clocks of the service and of the database at the
time of a `create`. -/
inductive NotificationCall where
  | create (params : NotificationParams) (now dbNow : ℕ)
  | update (id : ℤ) (params : NotificationPatch)
  | findById (id : ℤ)

/-! ### `LocalNotificationRepo` -/

structure LocalNotificationRepo where
  currentId : ℕ := 0
  notifications : Record ℤ NotificationObject := .empty

namespace LocalNotificationRepo

/-- `create` -/
def create (repo : LocalNotificationRepo) (params : NotificationParams) (now : ℕ) :
    Answer NotificationObject × LocalNotificationRepo :=
  let currentId := repo.currentId + 1
  let model := NotificationObject.ofModel
    (NotificationStore.localStore.model now params currentId)
  (.resolved (some model), ⟨currentId, repo.notifications.set currentId model⟩)

/-- `update` -/
def update (repo : LocalNotificationRepo) (id : ℤ) (params : NotificationPatch) :
    Answer NotificationObject × LocalNotificationRepo :=
  let model := repo.notifications.get id
  -- spreading `undefined` gives no properties
  let updated := params.spread (model.getD {})
  (.resolved (some updated), { repo with notifications := repo.notifications.set id updated })

/-- `findById` -/
def findById (repo : LocalNotificationRepo) (id : ℤ) : Answer NotificationObject :=
  .resolved (repo.notifications.get id)

/-- The calls of the repository. -/
def service : Service LocalNotificationRepo NotificationCall (Answer NotificationObject) where
  call repo
    | .create params now _ => repo.create params now
    | .update id params => repo.update id params
    | .findById id => (repo.findById id, repo)

end LocalNotificationRepo

/-! ### `PostgresNotificationRepo` -/

namespace PostgresNotificationRepo

/-- `create` -/
def create (repo : NotificationRepo) (params : NotificationParams) (dbNow : ℕ) :
    Answer NotificationObject × NotificationRepo :=
  (.resolved (some (.ofModel (NotificationStore.postgres.model dbNow params (repo.currentId + 1)))),
    repo.insert (NotificationStore.postgres.model dbNow params)
      (NotificationStore.postgres.model_id dbNow params))

/-- `findById` -/
def findById (repo : NotificationRepo) (id : ℤ) : Answer NotificationObject :=
  match repo.find id with
  | some entity => .resolved (some (.ofModel entity))
  | none => .rejected (.app (.notFound (toString id) "notification"))

/-- The table after the statement of `update`. -/
def updated (repo : NotificationRepo) (id : ℤ) (params : NotificationPatch) : NotificationRepo :=
  repo.modify (fun k => (k : ℤ) = id) params.assign params.assign_id

/-- `update`; `typeorm` makes no statement that sets nothing. -/
def update (repo : NotificationRepo) (id : ℤ) (params : NotificationPatch) :
    Answer NotificationObject × NotificationRepo :=
  if params.sets then (findById (updated repo id params) id, updated repo id params)
  else (.rejected (.database .updateValuesMissing), repo)

variable {repo : NotificationRepo}

theorem update_of_sets {params : NotificationPatch} (h : params.sets = true) (id : ℤ) :
    update repo id params = (findById (updated repo id params) id, updated repo id params) :=
  if_pos h

theorem update_of_not_sets {params : NotificationPatch} (h : params.sets = false) (id : ℤ) :
    update repo id params = (.rejected (.database .updateValuesMissing), repo) :=
  if_neg (by simp [h])

/-- The calls of the repository. -/
def service : Service NotificationRepo NotificationCall (Answer NotificationObject) where
  call repo
    | .create params _ dbNow => create repo params dbNow
    | .update id params => update repo id params
    | .findById id => (findById repo id, repo)

/-- On its own numbers and with the patches of the services, `update` is the one of
`NotificationRepo`. -/
theorem update_natCast (repo : NotificationRepo) (id : ℕ) (params : NotificationUpdate) (k : ℕ) :
    (update repo id (.ofUpdate params)).2.rows k = (repo.update id params).rows k := by
  have hrows : (updated repo id (.ofUpdate params)).rows k = (repo.update id params).rows k := by
    rw [NotificationRepo.update_rows, updated, Table.modify_rows]
    simp [NotificationPatch.assign_ofUpdate]
  cases hsets : (NotificationPatch.ofUpdate params).sets with
  | true => rw [update_of_sets hsets, hrows]
  | false =>
    rw [update_of_not_sets hsets, ← hrows, updated, Table.modify_rows]
    simp [NotificationPatch.assign_of_not_sets hsets]

end PostgresNotificationRepo

/-! ### The two side by side -/

/-- Both repositories. -/
abbrev NotificationRepos := LocalNotificationRepo × NotificationRepo

namespace NotificationRepos

/-- Both repositories, given the same calls. -/
abbrev machine : Machine NotificationRepos NotificationCall :=
  LocalNotificationRepo.service.beside PostgresNotificationRepo.service

/-- Both repositories without notifications. -/
def empty : NotificationRepos := ({}, .empty)

/-- A notification is stored under the number. -/
def Known (s : NotificationRepos) (id : ℤ) : Prop := (s.2.find id).isSome = true

instance (s : NotificationRepos) (id : ℤ) : Decidable (Known s id) :=
  inferInstanceAs (Decidable (_ = true))

/-- The call has created a notification with the given properties. -/
def Creates (params : NotificationParams) : Answer NotificationObject → Prop
  | .resolved (some object) => object.Has params
  | _ => False

/-- The call has ended with a not-found error. -/
def NotFound : Answer NotificationObject → Prop
  | .rejected (.app error) => error.code = .notFound
  | _ => False

/-- The repositories answer a call alike, and as it should be answered. -/
structure Faithful (s : NotificationRepos) (call : NotificationCall) : Prop extends
    Alike LocalNotificationRepo.service PostgresNotificationRepo.service NotificationObject.shown
      s call where
  created : ∀ params now dbNow, call = .create params now dbNow →
    Creates params (LocalNotificationRepo.service.answer s.1 call) ∧
      Creates params (PostgresNotificationRepo.service.answer s.2 call)
  missing : ∀ id, ¬ Known s id → (call = .findById id ∨ ∃ params, call = .update id params) →
    NotFound (LocalNotificationRepo.service.answer s.1 call) ∧
      NotFound (PostgresNotificationRepo.service.answer s.2 call)

/-- Notifications are created with the tries and the status that the memory gives them; updates
and look-ups are for notifications that are stored, and updates set something, and nothing to
`undefined`. -/
def Regular (s : NotificationRepos) : NotificationCall → Prop
  | .create params _ _ => params.triesLeft = localTriesLeft ∧ params.status = .active
  | .update id params => Known s id ∧ params.defined = true ∧ params.sets = true
  | .findById id => Known s id

/-- The same notifications are stored in both, up to `createdAt`. -/
structure Linked (s : NotificationRepos) : Prop where
  currentId : s.1.currentId = s.2.currentId
  rows : Mirrors NotificationObject.shown .ofModel s.1.notifications s.2

theorem linked_empty : Linked empty where
  currentId := rfl
  rows := mirrors_empty

/-! ### One call -/

/-- Either store makes the same of what is given, if that has the tries and the status of new
notifications. -/
theorem shown_model_iff {params : NotificationParams} {now dbNow id : ℕ} :
    (NotificationObject.ofModel (NotificationStore.localStore.model now params id)).shown =
        (NotificationObject.ofModel (NotificationStore.postgres.model dbNow params id)).shown ↔
      params.triesLeft = localTriesLeft ∧ params.status = .active := by
  simp [NotificationObject.shown, NotificationObject.ofModel, NotificationStore.model,
    NotificationStore.storedTries, @eq_comm _ localTriesLeft,
    @eq_comm _ NotificationStatus.active]

/-- **One regular call** keeps the same notifications in both. -/
theorem linked_next {s : NotificationRepos} {call : NotificationCall} (h : Linked s)
    (hcall : Regular s call) : Linked (LocalNotificationRepo.service.after s.1 call,
      PostgresNotificationRepo.service.after s.2 call) := by
  cases call with
  | create params now dbNow =>
    refine ⟨congrArg (· + 1) h.currentId, ?_⟩
    show Mirrors _ _ (s.1.notifications.set (s.1.currentId + 1 : ℕ) _) _
    rw [h.currentId]
    exact h.rows.insert (NotificationStore.postgres.model_id dbNow params)
      (shown_model_iff.2 hcall)
  | update id params =>
    obtain ⟨hid, hdefined, hsets⟩ := hcall
    obtain ⟨model, hrow⟩ := Option.isSome_iff_exists.1 hid
    obtain ⟨object, hget, hshown⟩ := h.rows.object_of_row hrow
    show Linked (_, (PostgresNotificationRepo.update s.2 id params).2)
    rw [PostgresNotificationRepo.update_of_sets hsets]
    refine ⟨h.currentId, h.rows.update params.assign_id hrow ?_⟩
    rw [hget, Option.getD_some]
    exact (NotificationPatch.shown_spread_iff hshown).2 hdefined
  | findById => exact h

/-- **One call** is answered alike exactly if it is regular. -/
theorem same_iff_regular {s : NotificationRepos} (h : Linked s) (call : NotificationCall) :
    LocalNotificationRepo.service.Answers PostgresNotificationRepo.service
      (Answer.Same NotificationObject.shown) s call ↔ Regular s call := by
  cases call with
  | create params now dbNow =>
    show some (NotificationObject.ofModel
      (NotificationStore.localStore.model now params (s.1.currentId + 1))).shown = some _ ↔ _
    rw [h.currentId, Option.some_inj]
    exact shown_model_iff
  | update id params =>
    show Answer.Same _ (s.1.update id params).1 (PostgresNotificationRepo.update s.2 id params).1 ↔
      Known s id ∧ params.defined = true ∧ params.sets = true
    cases hsets : params.sets with
    | false =>
      rw [PostgresNotificationRepo.update_of_not_sets hsets]
      simp [LocalNotificationRepo.update, Answer.Same]
    | true =>
      rw [PostgresNotificationRepo.update_of_sets hsets]
      simp only [LocalNotificationRepo.update, PostgresNotificationRepo.findById,
        PostgresNotificationRepo.updated, Table.find_modify (· = id), if_pos, Known, and_true]
      cases hrow : s.2.find id with
      | none => simp [Answer.Same]
      | some model =>
        obtain ⟨object, hget, hshown⟩ := h.rows.object_of_row hrow
        simp [Answer.Same, hget, NotificationPatch.shown_spread_iff hshown]
  | findById id =>
    show Answer.Same _ (s.1.findById id) (PostgresNotificationRepo.findById s.2 id) ↔ Known s id
    simp only [LocalNotificationRepo.findById, PostgresNotificationRepo.findById, Known]
    cases hrow : s.2.find id with
    | none => simp [Answer.Same]
    | some model =>
      obtain ⟨object, hget, hshown⟩ := h.rows.object_of_row hrow
      simp [Answer.Same, hget, hshown]

theorem faithful_of_regular {s : NotificationRepos} (h : Linked s) {call : NotificationCall}
    (hcall : Regular s call) : Faithful s call := by
  have hsame := (same_iff_regular h call).2 hcall
  refine ⟨.of_not_failed hsame (by cases call <;> rfl), ?_, ?_⟩
  · rintro params now dbNow rfl
    obtain ⟨htries, hstatus⟩ := hcall
    refine ⟨⟨rfl, rfl, rfl, congrArg some hstatus.symm, congrArg some htries.symm⟩,
      ⟨rfl, rfl, rfl, rfl, rfl⟩⟩
  · rintro id hknown (rfl | ⟨params, rfl⟩)
    · exact absurd hcall hknown
    · exact absurd hcall.1 hknown

/-! ### Runs -/

/-- **The repositories are faithful on all the calls of a run exactly if the calls are
regular.** -/
theorem faithful_iff (calls : List NotificationCall) :
    machine.Meets Faithful empty calls ↔ machine.Meets Regular empty calls := by
  refine Machine.meets_iff_meets (J := Linked) (fun s call s' h hregular hst => ?_)
    (fun s call h => ⟨fun hf => (same_iff_regular h call).1 hf.same, faithful_of_regular h⟩)
    linked_empty calls
  cases hst
  exact linked_next h hregular

/-- In memory a notification that is created with three tries has ten. -/
theorem not_faithful : ¬ ∀ calls, machine.Meets Faithful empty calls := by
  intro h
  have hcreated := (h [.create ⟨0, 1, 1, .active, 3⟩ 0 0]).1.created _ _ _ rfl
  exact absurd hcreated.1.2.2.2.2 (by decide)

end NotificationRepos

end PolymeshRest
