import PolymeshRest.Datastore.Basic
import PolymeshRest.Js.Record
import PolymeshRest.Subscriptions.Basic

/-!
# The two repositories of subscriptions

`LocalSubscriptionRepo` keeps objects under their numbers, `PostgresSubscriptionRepo` rows of a
table.  An object need not have all the properties of a subscription: `update` of a number under
which nothing is stored makes one out of the properties it is given.

## Main definitions

* `SubscriptionPatch` : `Partial<SubscriptionParams>`, with what both repositories make of one.
* `LocalSubscriptionRepo`, `PostgresSubscriptionRepo` : their calls, and `service`.
* `SubscriptionRepos.Regular` : the calls on which the two do the same.

## Main results

* `SubscriptionRepos.linked_next` : a regular call keeps the same subscriptions in both.
* `SubscriptionRepos.agree_iff` : the two agree on all the calls of a run exactly if all of them
  are regular.
-/

namespace PolymeshRest

open Js

/-- `SubscriptionRepo.type` -/
def SubscriptionRepo.type : String := "Subscription"

/-! ### Objects and patches -/

/-- A value of `nextNonce`. -/
inductive NonceValue where
  | nan
  | number (n : ℕ)
  deriving DecidableEq, Repr

/-- `x + 1`, where `x` can be `undefined`. -/
def NonceValue.increment : Option NonceValue → NonceValue
  | some (.number n) => .number (n + 1)
  | _ => .nan

/-- An object of class `SubscriptionModel`, some of whose properties can be missing. -/
structure SubscriptionObject where
  id : Option ℕ := none
  eventType : Option EventType := none
  eventScope : Option String := none
  webhookUrl : Option String := none
  createdAt : Option ℕ := none
  ttl : Option ℕ := none
  status : Option SubscriptionStatus := none
  triesLeft : Option ℤ := none
  nextNonce : Option NonceValue := none
  legitimacySecret : Option String := none
  deriving DecidableEq, Repr

namespace SubscriptionObject

/-- An object with all the properties of a subscription. -/
def ofModel (model : SubscriptionModel) : SubscriptionObject where
  id := some model.id
  eventType := some model.eventType
  eventScope := some model.eventScope
  webhookUrl := some model.webhookUrl
  createdAt := some model.createdAt
  ttl := some model.ttl
  status := some model.status
  triesLeft := some model.triesLeft
  nextNonce := some (.number model.nextNonce)
  legitimacySecret := some model.legitimacySecret

/-- The object up to `createdAt`. -/
def shown (object : SubscriptionObject) : SubscriptionObject := { object with createdAt := none }

/-- `object.nextNonce += 1` -/
def increment (object : SubscriptionObject) : SubscriptionObject :=
  { object with nextNonce := some (.increment object.nextNonce) }

end SubscriptionObject

/-- `Partial<SubscriptionParams>` -/
structure SubscriptionPatch where
  eventType : Given EventType := .missing
  eventScope : Given String := .missing
  webhookUrl : Given String := .missing
  createdAt : Given ℕ := .missing
  ttl : Given ℕ := .missing
  status : Given SubscriptionStatus := .missing
  triesLeft : Given ℤ := .missing
  nextNonce : Given ℕ := .missing
  legitimacySecret : Given String := .missing
  deriving DecidableEq, Repr

namespace SubscriptionPatch

/-- `{ ...object, ...params }` -/
def spread (params : SubscriptionPatch) (object : SubscriptionObject) : SubscriptionObject where
  id := object.id
  eventType := params.eventType.spread object.eventType
  eventScope := params.eventScope.spread object.eventScope
  webhookUrl := params.webhookUrl.spread object.webhookUrl
  createdAt := params.createdAt.spread object.createdAt
  ttl := params.ttl.spread object.ttl
  status := params.status.spread object.status
  triesLeft := params.triesLeft.spread object.triesLeft
  nextNonce := (params.nextNonce.map .number).spread object.nextNonce
  legitimacySecret := params.legitimacySecret.spread object.legitimacySecret

/-- The row after `UPDATE ... SET`, which leaves out the properties that are `undefined`. -/
def assign (params : SubscriptionPatch) (model : SubscriptionModel) : SubscriptionModel where
  id := model.id
  eventType := params.eventType.assign model.eventType
  eventScope := params.eventScope.assign model.eventScope
  webhookUrl := params.webhookUrl.assign model.webhookUrl
  createdAt := params.createdAt.assign model.createdAt
  ttl := params.ttl.assign model.ttl
  status := params.status.assign model.status
  triesLeft := params.triesLeft.assign model.triesLeft
  nextNonce := params.nextNonce.assign model.nextNonce
  legitimacySecret := params.legitimacySecret.assign model.legitimacySecret

@[simp] theorem assign_id (params : SubscriptionPatch) (model : SubscriptionModel) :
    (params.assign model).id = model.id := rfl

/-- No property but `createdAt` is there and `undefined`. -/
def defined (params : SubscriptionPatch) : Bool :=
  params.eventType.defined && params.eventScope.defined && params.webhookUrl.defined &&
    params.ttl.defined && params.status.defined && params.triesLeft.defined &&
      params.nextNonce.defined && params.legitimacySecret.defined

/-- Some property is there with a value. -/
def sets (params : SubscriptionPatch) : Bool :=
  params.eventType.isValue || params.eventScope.isValue || params.webhookUrl.isValue ||
    params.createdAt.isValue || params.ttl.isValue || params.status.isValue ||
      params.triesLeft.isValue || params.nextNonce.isValue || params.legitimacySecret.isValue

theorem assign_of_not_sets {params : SubscriptionPatch} (h : params.sets = false) :
    params.assign = id := by
  funext model
  simp only [sets, Bool.or_eq_false_iff] at h
  simp only [assign, Given.assign_of_not_isValue, h, id]

/-- Spreading a patch over a subscription gives the updated subscription exactly if the patch
sets no property to `undefined`. -/
theorem shown_spread_iff {params : SubscriptionPatch} {object : SubscriptionObject}
    {model : SubscriptionModel} (h : object.shown = (SubscriptionObject.ofModel model).shown) :
    (params.spread object).shown = (SubscriptionObject.ofModel (params.assign model)).shown ↔
      params.defined = true := by
  obtain ⟨id, eventType, eventScope, webhookUrl, createdAt, ttl, status, triesLeft, nextNonce,
    legitimacySecret⟩ := object
  simp only [SubscriptionObject.shown, SubscriptionObject.ofModel,
    SubscriptionObject.mk.injEq] at h
  obtain ⟨rfl, rfl, rfl, rfl, -, rfl, rfl, rfl, rfl, rfl⟩ := h
  simp [SubscriptionObject.shown, SubscriptionObject.ofModel, spread, assign, defined, and_assoc]

/-- The patches that `SubscriptionsService` makes. -/
def ofUpdate (params : SubscriptionUpdate) : SubscriptionPatch where
  status := params.status.elim .missing .value
  triesLeft := params.triesLeft.elim .missing .value
  nextNonce := params.nextNonce.elim .missing .value

theorem assign_ofUpdate (params : SubscriptionUpdate) :
    (ofUpdate params).assign = params.apply := by
  funext model
  obtain ⟨status, triesLeft, nextNonce⟩ := params
  cases status <;> cases triesLeft <;> cases nextNonce <;> rfl

end SubscriptionPatch

/-- The calls of a `SubscriptionRepo`. -/
inductive SubscriptionCall where
  | create (params : SubscriptionParams)
  | update (id : ℤ) (params : SubscriptionPatch)
  | findById (id : ℤ)
  | findAll
  | incrementNonces (ids : List ℤ)

/-! ### `LocalSubscriptionRepo` -/

structure LocalSubscriptionRepo where
  currentId : ℕ := 0
  subscriptions : Record ℤ SubscriptionObject := .empty

namespace LocalSubscriptionRepo

/-- `create` -/
def create (repo : LocalSubscriptionRepo) (params : SubscriptionParams) :
    Answer SubscriptionObject × LocalSubscriptionRepo :=
  let currentId := repo.currentId + 1
  let model := SubscriptionObject.ofModel (params.toModel currentId)
  (.resolved (some model), ⟨currentId, repo.subscriptions.set currentId model⟩)

/-- `update` -/
def update (repo : LocalSubscriptionRepo) (id : ℤ) (params : SubscriptionPatch) :
    Answer SubscriptionObject × LocalSubscriptionRepo :=
  let model := repo.subscriptions.get id
  -- spreading `undefined` gives no properties
  let updated := params.spread (model.getD {})
  (.resolved (some updated), { repo with subscriptions := repo.subscriptions.set id updated })

/-- `findById` -/
def findById (repo : LocalSubscriptionRepo) (id : ℤ) : Answer SubscriptionObject :=
  match repo.subscriptions.get id with
  | some subscription => .resolved (some subscription)
  | none => .rejected (.app (.notFound (toString id) "notification"))

/-- `findAll` -/
def findAll (repo : LocalSubscriptionRepo) : Answer SubscriptionObject :=
  .listed repo.subscriptions.values

/-- What reading `nextNonce` of `undefined` throws. -/
def noNonce : Failure :=
  .typeError "Cannot read properties of undefined (reading 'nextNonce')"

/-- `incrementNonces`, one number after the other. -/
def incrementNonces (repo : LocalSubscriptionRepo) :
    List ℤ → Answer SubscriptionObject × LocalSubscriptionRepo
  | [] => (.resolved none, repo)
  | id :: ids =>
    match repo.subscriptions.get id with
    | some subscription =>
      incrementNonces
        { repo with subscriptions := repo.subscriptions.set id subscription.increment } ids
    | none => (.rejected noNonce, repo)

variable {repo : LocalSubscriptionRepo}

/-- Incrementing the nonces of stored subscriptions succeeds, and increments one as often as its
number is listed. -/
theorem incrementNonces_of_stored {ids : List ℤ}
    (h : ∀ id ∈ ids, (repo.subscriptions.get id).isSome = true) :
    (repo.incrementNonces ids).1 = .resolved none ∧
      (repo.incrementNonces ids).2.currentId = repo.currentId ∧
      ∀ id, (repo.incrementNonces ids).2.subscriptions.get id =
        (repo.subscriptions.get id).map (SubscriptionObject.increment^[ids.count id]) := by
  induction ids generalizing repo with
  | nil =>
    refine ⟨rfl, rfl, fun id => ?_⟩
    simp [incrementNonces]
  | cons i ids ih =>
    obtain ⟨object, hobject⟩ := Option.isSome_iff_exists.1 (h i List.mem_cons_self)
    rw [incrementNonces, hobject]
    have hstored : ∀ id ∈ ids,
        ((repo.subscriptions.set i object.increment).get id).isSome = true := by
      intro id hid
      rw [Record.get_set]
      split_ifs
      · rfl
      · exact h id (List.mem_cons_of_mem _ hid)
    obtain ⟨hanswer, hcurrent, hget⟩ :=
      @ih { repo with subscriptions := repo.subscriptions.set i object.increment } hstored
    refine ⟨hanswer, hcurrent, fun id => ?_⟩
    rw [hget id, Record.get_set]
    by_cases hid : id = i
    · subst hid
      simp [hobject]
    · simp [hid, List.count_cons_of_ne (Ne.symm hid)]

/-- Incrementing the nonces of a list with a number under which nothing is stored fails. -/
theorem incrementNonces_of_not_stored {ids : List ℤ} {id : ℤ} (hid : id ∈ ids)
    (h : repo.subscriptions.get id = none) : (repo.incrementNonces ids).1 = .rejected noNonce := by
  induction ids generalizing repo with
  | nil => cases hid
  | cons i ids ih =>
    rw [incrementNonces]
    cases hi : repo.subscriptions.get i with
    | none => rfl
    | some object =>
      have hne : id ≠ i := by
        rintro rfl
        rw [h] at hi
        cases hi
      refine ih ((List.mem_cons.1 hid).resolve_left hne) ?_
      rw [Record.get_set_of_ne hne, h]

/-- The calls of the repository. -/
def service : Service LocalSubscriptionRepo SubscriptionCall (Answer SubscriptionObject) where
  call repo
    | .create params => repo.create params
    | .update id params => repo.update id params
    | .findById id => (repo.findById id, repo)
    | .findAll => (repo.findAll, repo)
    | .incrementNonces ids => repo.incrementNonces ids

end LocalSubscriptionRepo

/-! ### `PostgresSubscriptionRepo` -/

namespace PostgresSubscriptionRepo

/-- `create` -/
def create (repo : SubscriptionRepo) (params : SubscriptionParams) :
    Answer SubscriptionObject × SubscriptionRepo :=
  (.resolved (some (.ofModel (params.toModel (repo.currentId + 1)))), repo.create params)

/-- `findById` -/
def findById (repo : SubscriptionRepo) (id : ℤ) : Answer SubscriptionObject :=
  match repo.find id with
  | some entity => .resolved (some (.ofModel entity))
  | none => .rejected (.app (.notFound (toString id) SubscriptionRepo.type))

/-- The table after the statement of `update`. -/
def updated (repo : SubscriptionRepo) (id : ℤ) (params : SubscriptionPatch) : SubscriptionRepo :=
  repo.modify (fun k => (k : ℤ) = id) params.assign params.assign_id

/-- `update`; `typeorm` makes no statement that sets nothing. -/
def update (repo : SubscriptionRepo) (id : ℤ) (params : SubscriptionPatch) :
    Answer SubscriptionObject × SubscriptionRepo :=
  if params.sets then (findById (updated repo id params) id, updated repo id params)
  else (.rejected (.database .updateValuesMissing), repo)

/-- `findAll` -/
def findAll (repo : SubscriptionRepo) : Answer SubscriptionObject :=
  .listed (repo.all.map .ofModel)

/-- `nextNonce +1` -/
def nextNonce (model : SubscriptionModel) : SubscriptionModel :=
  { model with nextNonce := model.nextNonce + 1 }

@[simp] theorem nextNonce_id (model : SubscriptionModel) : (nextNonce model).id = model.id := rfl

/-- The table after the statement of `incrementNonces`. -/
def incremented (repo : SubscriptionRepo) (ids : List ℤ) : SubscriptionRepo :=
  repo.modify (fun k => (k : ℤ) ∈ ids) nextNonce nextNonce_id

/-- `incrementNonces`: one statement, for the rows whose numbers are listed. -/
def incrementNonces (repo : SubscriptionRepo) (ids : List ℤ) :
    Answer SubscriptionObject × SubscriptionRepo :=
  if ids = [] then (.rejected (.database .syntaxError), repo)
  else (.resolved none, incremented repo ids)

variable {repo : SubscriptionRepo}

theorem update_of_sets {params : SubscriptionPatch} (h : params.sets = true) (id : ℤ) :
    update repo id params = (findById (updated repo id params) id, updated repo id params) :=
  if_pos h

theorem update_of_not_sets {params : SubscriptionPatch} (h : params.sets = false) (id : ℤ) :
    update repo id params = (.rejected (.database .updateValuesMissing), repo) :=
  if_neg (by simp [h])

theorem incrementNonces_of_ne_nil {ids : List ℤ} (h : ids ≠ []) :
    incrementNonces repo ids = (.resolved none, incremented repo ids) :=
  if_neg h

theorem find_updated {id k : ℤ} {params : SubscriptionPatch} :
    (updated repo id params).find k =
      if k = id then (repo.find k).map params.assign else repo.find k :=
  Table.find_modify (· = id) params.assign_id

theorem find_incremented {ids : List ℤ} {id : ℤ} :
    (incremented repo ids).find id =
      if id ∈ ids then (repo.find id).map nextNonce else repo.find id :=
  Table.find_modify (· ∈ ids) nextNonce_id

/-- The calls of the repository. -/
def service : Service SubscriptionRepo SubscriptionCall (Answer SubscriptionObject) where
  call repo
    | .create params => create repo params
    | .update id params => update repo id params
    | .findById id => (findById repo id, repo)
    | .findAll => (findAll repo, repo)
    | .incrementNonces ids => incrementNonces repo ids

/-- On its own numbers and with the patches of the services, `update` is the one of
`SubscriptionRepo`. -/
theorem update_natCast (repo : SubscriptionRepo) (id : ℕ) (params : SubscriptionUpdate) (k : ℕ) :
    (update repo id (.ofUpdate params)).2.rows k = (repo.update id params).rows k := by
  have hrows : (updated repo id (.ofUpdate params)).rows k = (repo.update id params).rows k := by
    rw [SubscriptionRepo.update_rows, updated, Table.modify_rows]
    simp [SubscriptionPatch.assign_ofUpdate]
  cases hsets : (SubscriptionPatch.ofUpdate params).sets with
  | true => rw [update_of_sets hsets, hrows]
  | false =>
    rw [update_of_not_sets hsets, ← hrows, updated, Table.modify_rows]
    simp [SubscriptionPatch.assign_of_not_sets hsets]

theorem incrementNonces_natCast (repo : SubscriptionRepo) (ids : List ℕ) (k : ℕ) :
    (incrementNonces repo (ids.map (↑))).2.rows k = (repo.incrementNonces ids).rows k := by
  cases ids with
  | nil => simp [SubscriptionRepo.incrementNonces_rows, incrementNonces]
  | cons id ids =>
    rw [incrementNonces_of_ne_nil (by simp), SubscriptionRepo.incrementNonces_rows, incremented,
      Table.modify_rows]
    simp only [List.mem_map, Int.natCast_inj, exists_eq_right, decide_eq_true_eq]
    rfl

end PostgresSubscriptionRepo

/-! ### The two side by side -/

/-- Both repositories. -/
abbrev SubscriptionRepos := LocalSubscriptionRepo × SubscriptionRepo

namespace SubscriptionRepos

/-- Both repositories, given the same calls. -/
abbrev machine : Machine SubscriptionRepos SubscriptionCall :=
  LocalSubscriptionRepo.service.beside PostgresSubscriptionRepo.service

/-- Both repositories without subscriptions. -/
def empty : SubscriptionRepos := ({}, .empty)

/-- The repositories answer a call alike, and a call that fails changes neither. -/
abbrev Alike : SubscriptionRepos → SubscriptionCall → Prop :=
  PolymeshRest.Alike LocalSubscriptionRepo.service PostgresSubscriptionRepo.service
    SubscriptionObject.shown

/-- The repositories agree on a call: they are alike, and every number that is looked up
afterwards gives the same. -/
structure Agree (s : SubscriptionRepos) (call : SubscriptionCall) : Prop extends
    Alike s call where
  looks : ∀ id, Answer.Same SubscriptionObject.shown
    ((LocalSubscriptionRepo.service.after s.1 call).findById id)
    (PostgresSubscriptionRepo.findById (PostgresSubscriptionRepo.service.after s.2 call) id)

/-- A subscription is stored under the number. -/
def Known (s : SubscriptionRepos) (id : ℤ) : Prop := (s.2.find id).isSome = true

instance (s : SubscriptionRepos) (id : ℤ) : Decidable (Known s id) :=
  inferInstanceAs (Decidable (_ = true))

/-- Updates are for subscriptions that are stored, set something, and set nothing to `undefined`;
nonces are incremented of subscriptions that are stored, of one at least and once for each. -/
def Regular (s : SubscriptionRepos) : SubscriptionCall → Prop
  | .update id params => Known s id ∧ params.defined = true ∧ params.sets = true
  | .incrementNonces ids => ids ≠ [] ∧ (∀ id ∈ ids, Known s id) ∧ ids.Nodup
  | _ => True

/-- The same subscriptions are stored in both, up to `createdAt`. -/
structure Linked (s : SubscriptionRepos) : Prop where
  currentId : s.1.currentId = s.2.currentId
  rows : Mirrors SubscriptionObject.shown .ofModel s.1.subscriptions s.2

theorem linked_empty : Linked empty where
  currentId := rfl
  rows := mirrors_empty

namespace Linked

variable {s : SubscriptionRepos} (h : Linked s)

include h

theorem stored {ids : List ℤ} (hids : ∀ id ∈ ids, Known s id) :
    ∀ id ∈ ids, (s.1.subscriptions.get id).isSome = true := by
  intro id hid
  obtain ⟨model, hrow⟩ := Option.isSome_iff_exists.1 (hids id hid)
  obtain ⟨object, hget, -⟩ := h.rows.object_of_row hrow
  exact Option.isSome_iff_exists.2 ⟨object, hget⟩

theorem same_findById (id : ℤ) :
    Answer.Same SubscriptionObject.shown (s.1.findById id)
      (PostgresSubscriptionRepo.findById s.2 id) := by
  unfold LocalSubscriptionRepo.findById PostgresSubscriptionRepo.findById
  cases hrow : s.2.find id with
  | none =>
    rw [h.rows.get_eq_none hrow]
    rfl
  | some model =>
    obtain ⟨object, hobject, hshown⟩ := h.rows.object_of_row hrow
    rw [hobject]
    exact congrArg some hshown

theorem same_findAll :
    Answer.Same SubscriptionObject.shown s.1.findAll (PostgresSubscriptionRepo.findAll s.2) := by
  show (s.1.subscriptions.values.map _).Perm ((s.2.all.map SubscriptionObject.ofModel).map _)
  rw [List.map_map]
  exact h.rows.values_perm (fun o => o.id.map (↑)) fun _ => rfl

end Linked

/-! ### One call -/

theorem linked_create {s : SubscriptionRepos} (h : Linked s) (params : SubscriptionParams) :
    Linked ((s.1.create params).2, (PostgresSubscriptionRepo.create s.2 params).2) where
  currentId := congrArg (· + 1) h.currentId
  rows := by
    show Mirrors _ _ (s.1.subscriptions.set (s.1.currentId + 1 : ℕ) _) _
    rw [h.currentId]
    exact h.rows.insert params.toModel_id rfl

theorem linked_update {s : SubscriptionRepos} (h : Linked s) {id : ℤ} {params : SubscriptionPatch}
    (hid : Known s id) (hdefined : params.defined = true) :
    Linked ((s.1.update id params).2, PostgresSubscriptionRepo.updated s.2 id params) where
  currentId := h.currentId
  rows := by
    obtain ⟨model, hrow⟩ := Option.isSome_iff_exists.1 hid
    obtain ⟨object, hget, hshown⟩ := h.rows.object_of_row hrow
    refine h.rows.update params.assign_id hrow ?_
    rw [hget, Option.getD_some]
    exact (SubscriptionPatch.shown_spread_iff hshown).2 hdefined

theorem shown_increment {object : SubscriptionObject} {model : SubscriptionModel}
    (h : object.shown = (SubscriptionObject.ofModel model).shown) (n : ℕ) :
    (SubscriptionObject.increment^[n] object).shown =
      (SubscriptionObject.ofModel { model with nextNonce := model.nextNonce + n }).shown := by
  induction n with
  | zero => exact h
  | succ n ih =>
    have hincrement : ∀ o : SubscriptionObject, o.increment.shown = o.shown.increment :=
      fun _ => rfl
    rw [Function.iterate_succ_apply', hincrement, ih]
    rfl

theorem linked_incrementNonces {s : SubscriptionRepos} (h : Linked s) {ids : List ℤ}
    (hids : ∀ id ∈ ids, Known s id) (hnodup : ids.Nodup) :
    Linked ((s.1.incrementNonces ids).2, PostgresSubscriptionRepo.incremented s.2 ids) := by
  obtain ⟨-, hcurrent, hget⟩ := s.1.incrementNonces_of_stored (h.stored hids)
  refine ⟨hcurrent.trans h.currentId, fun id => ?_⟩
  rw [hget id, PostgresSubscriptionRepo.find_incremented]
  cases hrow : s.2.find id with
  | none => simp [h.rows.get_eq_none hrow]
  | some model =>
    obtain ⟨object, hobject, hshown⟩ := h.rows.object_of_row hrow
    rw [hobject, Option.map_some, Option.map_some, shown_increment hshown,
      List.Nodup.count hnodup]
    split_ifs <;> rfl

/-- **One regular call** keeps the same subscriptions in both. -/
theorem linked_next {s : SubscriptionRepos} {call : SubscriptionCall} (h : Linked s)
    (hcall : Regular s call) : Linked (LocalSubscriptionRepo.service.after s.1 call,
      PostgresSubscriptionRepo.service.after s.2 call) := by
  cases call with
  | create params => exact linked_create h params
  | update id params =>
    obtain ⟨hid, hdefined, hsets⟩ := hcall
    show Linked (_, (PostgresSubscriptionRepo.update s.2 id params).2)
    rw [PostgresSubscriptionRepo.update_of_sets hsets]
    exact linked_update h hid hdefined
  | findById | findAll => exact h
  | incrementNonces ids =>
    obtain ⟨hne, hids, hnodup⟩ := hcall
    show Linked (_, (PostgresSubscriptionRepo.incrementNonces s.2 ids).2)
    rw [PostgresSubscriptionRepo.incrementNonces_of_ne_nil hne]
    exact linked_incrementNonces h hids hnodup

/-- An update is answered alike exactly if it is regular. -/
theorem same_update_iff {s : SubscriptionRepos} (h : Linked s) {id : ℤ}
    {params : SubscriptionPatch} :
    Answer.Same SubscriptionObject.shown (s.1.update id params).1
        (PostgresSubscriptionRepo.update s.2 id params).1 ↔
      Known s id ∧ params.defined = true ∧ params.sets = true := by
  cases hsets : params.sets with
  | false =>
    rw [PostgresSubscriptionRepo.update_of_not_sets hsets]
    simp [LocalSubscriptionRepo.update, Answer.Same]
  | true =>
    rw [PostgresSubscriptionRepo.update_of_sets hsets]
    simp only [LocalSubscriptionRepo.update, PostgresSubscriptionRepo.findById,
      PostgresSubscriptionRepo.find_updated, if_pos, Known, and_true]
    cases hrow : s.2.find id with
    | none => simp [Answer.Same]
    | some model =>
      obtain ⟨object, hget, hshown⟩ := h.rows.object_of_row hrow
      simp [Answer.Same, hget, SubscriptionPatch.shown_spread_iff hshown]

/-- Incrementing nonces is answered alike exactly if there are some to increment and all the
subscriptions are stored. -/
theorem same_incrementNonces_iff {s : SubscriptionRepos} (h : Linked s) {ids : List ℤ} :
    Answer.Same SubscriptionObject.shown (s.1.incrementNonces ids).1
        (PostgresSubscriptionRepo.incrementNonces s.2 ids).1 ↔
      ids ≠ [] ∧ ∀ id ∈ ids, Known s id := by
  by_cases hnil : ids = []
  · subst hnil
    simp [LocalSubscriptionRepo.incrementNonces, PostgresSubscriptionRepo.incrementNonces,
      Answer.Same]
  rw [PostgresSubscriptionRepo.incrementNonces_of_ne_nil hnil, and_iff_right hnil]
  constructor
  · intro hsame id hid
    by_contra hknown
    rw [Known, Option.not_isSome_iff_eq_none] at hknown
    rw [s.1.incrementNonces_of_not_stored hid (h.rows.get_eq_none hknown)] at hsame
    exact hsame
  · intro hids
    rw [(s.1.incrementNonces_of_stored (h.stored hids)).1]
    rfl

/-- If all look-ups agree after nonces have been incremented, none was incremented twice. -/
theorem nodup_of_looks {s : SubscriptionRepos} (h : Linked s) {ids : List ℤ}
    (hids : ∀ id ∈ ids, Known s id)
    (hlooks : ∀ id, Answer.Same SubscriptionObject.shown ((s.1.incrementNonces ids).2.findById id)
      (PostgresSubscriptionRepo.findById (PostgresSubscriptionRepo.incremented s.2 ids) id)) :
    ids.Nodup := by
  refine List.nodup_iff_count_le_one.2 fun id => ?_
  by_cases hid : id ∈ ids
  · obtain ⟨model, hrow⟩ := Option.isSome_iff_exists.1 (hids id hid)
    obtain ⟨object, hget, hshown⟩ := h.rows.object_of_row hrow
    have hlook := hlooks id
    rw [LocalSubscriptionRepo.findById, PostgresSubscriptionRepo.findById,
      (s.1.incrementNonces_of_stored (h.stored hids)).2.2 id,
      PostgresSubscriptionRepo.find_incremented, if_pos hid, hrow, hget] at hlook
    simp only [Option.map_some, Answer.Same, shown_increment hshown] at hlook
    simp [SubscriptionObject.shown, SubscriptionObject.ofModel,
      PostgresSubscriptionRepo.nextNonce] at hlook
    omega
  · rw [List.count_eq_zero_of_not_mem hid]
    exact Nat.zero_le 1

theorem alike_of_regular {s : SubscriptionRepos} (h : Linked s) {call : SubscriptionCall}
    (hcall : Regular s call) : Alike s call := by
  cases call with
  | create params =>
    refine .of_not_failed ?_ rfl
    show some (SubscriptionObject.ofModel (params.toModel (s.1.currentId + 1))).shown = _
    rw [h.currentId]
    rfl
  | update id params =>
    have hsame := (same_update_iff h).2 hcall
    exact .of_not_failed hsame rfl
  | findById id => exact ⟨h.same_findById id, fun _ => rfl, fun _ => rfl⟩
  | findAll => exact .of_not_failed h.same_findAll rfl
  | incrementNonces ids =>
    have hsame := (same_incrementNonces_iff h).2 ⟨hcall.1, hcall.2.1⟩
    have hanswer := (s.1.incrementNonces_of_stored (h.stored hcall.2.1)).1
    exact .of_not_failed hsame (congrArg Answer.failed hanswer)

/-- **One call**: the repositories agree on it exactly if it is regular. -/
theorem agree_iff_regular {s : SubscriptionRepos} (h : Linked s) (call : SubscriptionCall) :
    Agree s call ↔ Regular s call := by
  constructor
  · intro hagree
    cases call with
    | create | findById | findAll => trivial
    | update id params => exact (same_update_iff h).1 hagree.same
    | incrementNonces ids =>
      obtain ⟨hne, hids⟩ := (same_incrementNonces_iff h).1 hagree.same
      have hafter : PostgresSubscriptionRepo.service.after s.2 (.incrementNonces ids) =
          PostgresSubscriptionRepo.incremented s.2 ids :=
        congrArg Prod.snd (PostgresSubscriptionRepo.incrementNonces_of_ne_nil hne)
      exact ⟨hne, hids, nodup_of_looks h hids (hafter ▸ hagree.looks)⟩
  · intro hregular
    exact ⟨alike_of_regular h hregular, (linked_next h hregular).same_findById⟩

/-! ### Runs -/

/-- **The repositories agree on all the calls of a run exactly if the calls are regular.** -/
theorem agree_iff (calls : List SubscriptionCall) :
    machine.Meets Agree empty calls ↔ machine.Meets Regular empty calls := by
  refine Machine.meets_iff_meets (J := Linked) (fun s call s' h hregular hst => ?_)
    (fun s call h => agree_iff_regular h call) linked_empty calls
  cases hst
  exact linked_next h hregular

/-- Updating a number under which nothing is stored makes an object in memory, and is refused by
the database. -/
theorem differ_on_unknown : ¬ ∀ calls, machine.Meets Alike empty calls := by
  intro h
  have hsame := (h [.update (-1) { status := .value .active }]).1.same
  exact hsame

end SubscriptionRepos

end PolymeshRest
