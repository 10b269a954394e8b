import PolymeshRest.Datastore.Basic
import PolymeshRest.Js.Object
import PolymeshRest.Js.Text

/-!
# The two repositories of offline transactions

A transaction that is signed offline is known by the id that `OfflineStarterService` gives it and
puts on the receipt.  `PostgresOfflineTxRepo` stores it under this id; `LocalOfflineTxRepo` counts
and gives it another one.

## Main definitions

* `OfflineTxModel`, `OfflineTxObject`, `OfflineTxPatch`
* `LocalOfflineTxRepo`, `PostgresOfflineTxRepo` : their calls; `OfflineTxRepo.service` is one of
  the two.
* `OfflineTxs.RoundTrip` : what is created is what is stored, under its own id, an update changes
  what it is given, and the ids of the receipts are those of the records.
* `OfflineTxs.Keyed` : the calls for which this is so.

## Main results

* `OfflineTxs.inv_next` : keyed calls keep every transaction under its id.
* `OfflineTxs.roundTrip_iff` : all the calls of a run are round trips exactly if all of them are
  keyed.
-/

namespace PolymeshRest

open Js

/-- `OfflineTxStatus` -/
inductive OfflineTxStatus where
  | signed
  | finalized
  deriving DecidableEq, Repr

/-- `OfflineTxModel`, with payloads `π`. -/
structure OfflineTxModel (π : Type*) where
  id : String
  payload : π
  signature : String
  status : OfflineTxStatus
  address : String
  nonce : ℤ
  blockHash : Option String := none
  txIndex : Option String := none
  txHash : Option String := none
  deriving DecidableEq, Repr

/-- An object with the properties of a transaction, some of which can be missing.  A column of the
database without a value counts as a missing property. -/
structure OfflineTxObject (π : Type*) where
  id : Option String := none
  payload : Option π := none
  signature : Option String := none
  status : Option OfflineTxStatus := none
  address : Option String := none
  nonce : Option ℤ := none
  blockHash : Option String := none
  txIndex : Option String := none
  txHash : Option String := none
  deriving DecidableEq, Repr

/-- `Partial<OfflineTxModel>`, but for the id: a patch that has one has the id of the record. -/
structure OfflineTxPatch (π : Type*) where
  payload : Given π := .missing
  signature : Given String := .missing
  status : Given OfflineTxStatus := .missing
  address : Given String := .missing
  nonce : Given ℤ := .missing
  blockHash : Given String := .missing
  txIndex : Given String := .missing
  txHash : Given String := .missing
  deriving DecidableEq, Repr

variable {π : Type*}

/-- The object that is a transaction. -/
def OfflineTxModel.toObject (transaction : OfflineTxModel π) : OfflineTxObject π where
  id := some transaction.id
  payload := some transaction.payload
  signature := some transaction.signature
  status := some transaction.status
  address := some transaction.address
  nonce := some transaction.nonce
  blockHash := transaction.blockHash
  txIndex := transaction.txIndex
  txHash := transaction.txHash

@[simp] theorem OfflineTxModel.toObject_id (transaction : OfflineTxModel π) :
    transaction.toObject.id = some transaction.id := rfl

/-- Storing `new` over the row `old`: what is `undefined` is left as it is. -/
def OfflineTxObject.over (new old : OfflineTxObject π) : OfflineTxObject π where
  id := new.id.or old.id
  payload := new.payload.or old.payload
  signature := new.signature.or old.signature
  status := new.status.or old.status
  address := new.address.or old.address
  nonce := new.nonce.or old.nonce
  blockHash := new.blockHash.or old.blockHash
  txIndex := new.txIndex.or old.txIndex
  txHash := new.txHash.or old.txHash

namespace OfflineTxPatch

/-- `{ ...object, ...params }` -/
def spread (params : OfflineTxPatch π) (object : OfflineTxObject π) : OfflineTxObject π where
  id := object.id
  payload := params.payload.spread object.payload
  signature := params.signature.spread object.signature
  status := params.status.spread object.status
  address := params.address.spread object.address
  nonce := params.nonce.spread object.nonce
  blockHash := params.blockHash.spread object.blockHash
  txIndex := params.txIndex.spread object.txIndex
  txHash := params.txHash.spread object.txHash

@[simp] theorem spread_id (params : OfflineTxPatch π) (object : OfflineTxObject π) :
    (params.spread object).id = object.id := rfl

/-- The patch sets to `undefined` only what the object does not have. -/
def unsetsNothing (params : OfflineTxPatch π) (object : OfflineTxObject π) : Bool :=
  params.payload.unsetsNothing object.payload && params.signature.unsetsNothing object.signature &&
    params.status.unsetsNothing object.status && params.address.unsetsNothing object.address &&
      params.nonce.unsetsNothing object.nonce && params.blockHash.unsetsNothing object.blockHash &&
        params.txIndex.unsetsNothing object.txIndex && params.txHash.unsetsNothing object.txHash

/-- Storing the updated object over the old one gives the updated object exactly if the patch
takes nothing away. -/
theorem over_spread_iff {params : OfflineTxPatch π} {object : OfflineTxObject π} :
    (params.spread object).over object = params.spread object ↔
      params.unsetsNothing object = true := by
  simp only [OfflineTxObject.over, spread, unsetsNothing, OfflineTxObject.mk.injEq,
    Given.or_spread_iff, Option.or_self, Bool.and_eq_true, true_and, and_assoc]

end OfflineTxPatch

/-- The properties of a transaction, for one that has become the prototype. -/
instance : Members (OfflineTxObject π) where
  member object
    | "id" => object.id.map .string
    | "payload" => object.payload.map fun _ => .other true
    | "signature" => object.signature.map .string
    | "status" => object.status.map fun _ => .other true
    | "address" => object.address.map .string
    | "nonce" => object.nonce.map fun nonce => .other (nonce ≠ 0)
    | "blockHash" => object.blockHash.map .string
    | "txIndex" => object.txIndex.map .string
    | "txHash" => object.txHash.map .string
    | _ => none

/-- No object inherits a decimal notation. -/
theorem inherited_repr (o : PlainObject (OfflineTxObject π)) (n : ℕ) :
    o.inherited n.repr = none := by
  have hmethods : n.repr ∉ objectMethods := repr_notMem_of_not_digit (by decide) n
  have hnames : n.repr ∉ ["id", "payload", "signature", "status", "address", "nonce", "blockHash",
      "txIndex", "txHash"] := repr_notMem_of_not_digit (by decide) n
  simp only [List.mem_cons, List.not_mem_nil, or_false, not_or] at hnames
  rw [PlainObject.inherited, if_neg hmethods, Option.or_none]
  cases o.proto with
  | none => rfl
  | some object => simp [Members.member, hnames]

theorem repr_ne_proto (n : ℕ) : n.repr ≠ "__proto__" :=
  repr_ne_of_not_digit (c := '_') (by decide) (by decide) n

/-- The properties that `{ ...value }` has.  Those of a string are its characters, under their
indices, which nothing reads. -/
def spreadValue : Value (OfflineTxObject π) → OfflineTxObject π
  | .object object => object
  | _ => {}

/-- The calls of an `OfflineTxRepo`. -/
inductive OfflineTxCall (π : Type*) where
  | createTx (transaction : OfflineTxModel π)
  | updateTx (id : String) (params : OfflineTxPatch π)
  | findById (id : String)
  deriving DecidableEq, Repr

/-! ### `LocalOfflineTxRepo` -/

structure LocalOfflineTxRepo (π : Type*) where
  transactions : PlainObject (OfflineTxObject π) := .empty
  /-- `_id` -/
  id : ℕ := 1

namespace LocalOfflineTxRepo

/-- `createTx` -/
def createTx (repo : LocalOfflineTxRepo π) (transaction : OfflineTxModel π) :
    Answer (Value (OfflineTxObject π)) × LocalOfflineTxRepo π :=
  let id := repo.id.repr
  let model := { transaction with id }.toObject
  (.resolved (some (.object model)), ⟨repo.transactions.set id model, repo.id + 1⟩)

/-- `findById` -/
def findById (repo : LocalOfflineTxRepo π) (id : String) : Answer (Value (OfflineTxObject π)) :=
  .resolved (repo.transactions.get id)

/-- `updateTx` -/
def updateTx (repo : LocalOfflineTxRepo π) (id : String) (params : OfflineTxPatch π) :
    Answer (Value (OfflineTxObject π)) × LocalOfflineTxRepo π :=
  match (repo.transactions.get id).filter Value.truthy with
  | none => (.rejected (.app (.notFound id "offlineTxModel")), repo)
  | some model =>
    let newModel := params.spread (spreadValue model)
    (.resolved (some (.object newModel)),
      { repo with transactions := repo.transactions.set id newModel })

variable {repo : LocalOfflineTxRepo π}

theorem updateTx_of_own {id : String} {params : OfflineTxPatch π} {object : OfflineTxObject π}
    (hown : repo.transactions.own id = some object) :
    repo.updateTx id params = (.resolved (some (.object (params.spread object))),
      { repo with transactions := repo.transactions.set id (params.spread object) }) := by
  rw [updateTx, PlainObject.get_of_own hown]
  rfl

/-- What `updateTx` does not change. -/
theorem updateTx_keeps (id : String) (params : OfflineTxPatch π) :
    (repo.updateTx id params).2.id = repo.id ∧
      ∀ k, k ≠ id → (repo.updateTx id params).2.transactions.own k = repo.transactions.own k := by
  rw [updateTx]
  split
  · exact ⟨rfl, fun _ _ => rfl⟩
  · refine ⟨rfl, fun k hk => ?_⟩
    by_cases hid : id = "__proto__"
    · simp [hid]
    · rw [PlainObject.set_own hid, Function.update_of_ne hk]

theorem updateTx_of_fresh {n : ℕ} {params : OfflineTxPatch π}
    (hown : repo.transactions.own n.repr = none) : (repo.updateTx n.repr params).2 = repo := by
  rw [updateTx, PlainObject.get_of_own_none (repr_ne_proto n) hown, inherited_repr]
  rfl

end LocalOfflineTxRepo

/-! ### `PostgresOfflineTxRepo` -/

/-- The table `OfflineTx`. -/
structure PostgresOfflineTxRepo (π : Type*) where
  rows : String → Option (OfflineTxObject π)
  id_eq : ∀ {id row}, rows id = some row → row.id = some id

namespace PostgresOfflineTxRepo

/-- The table without rows. -/
def empty : PostgresOfflineTxRepo π := ⟨fun _ => none, fun h => nomatch h⟩

/-- The row of an id once an entity has been stored under it: it is inserted, or the row that is
there is updated. -/
def stored (repo : PostgresOfflineTxRepo π) (id : String) (entity : OfflineTxObject π) :
    OfflineTxObject π :=
  match repo.rows id with
  | none => entity
  | some row => entity.over row

/-- `save` -/
def save (repo : PostgresOfflineTxRepo π) (id : String) (entity : OfflineTxObject π)
    (hid : entity.id = some id) : PostgresOfflineTxRepo π where
  rows := Function.update repo.rows id (some (repo.stored id entity))
  id_eq {k row} h := by
    by_cases hk : k = id
    · subst hk
      rw [Function.update_self] at h
      cases h
      unfold stored
      split
      · exact hid
      · simp [OfflineTxObject.over, hid]
    · rw [Function.update_of_ne hk] at h
      exact repo.id_eq h

/-- `createTx` -/
def createTx (repo : PostgresOfflineTxRepo π) (params : OfflineTxModel π) :
    Answer (Value (OfflineTxObject π)) × PostgresOfflineTxRepo π :=
  (.resolved (some (.object params.toObject)),
    repo.save params.id params.toObject params.toObject_id)

/-- `findById` -/
def findById (repo : PostgresOfflineTxRepo π) (id : String) :
    Answer (Value (OfflineTxObject π)) :=
  .resolved ((repo.rows id).map .object)

/-- `updateTx` -/
def updateTx (repo : PostgresOfflineTxRepo π) (id : String) (params : OfflineTxPatch π) :
    Answer (Value (OfflineTxObject π)) × PostgresOfflineTxRepo π :=
  match hrow : repo.rows id with
  | none => (.rejected (.app (.notFound id "offlineTxModel")), repo)
  | some entity =>
    let newEntity := params.spread entity
    (.resolved (some (.object newEntity)),
      repo.save id newEntity ((params.spread_id entity).trans (repo.id_eq hrow)))

variable {repo : PostgresOfflineTxRepo π}

theorem createTx_rows {params : OfflineTxModel π} : (repo.createTx params).2.rows =
    Function.update repo.rows params.id (some (repo.stored params.id params.toObject)) := rfl

theorem updateTx_of_row {id : String} {params : OfflineTxPatch π} {row : OfflineTxObject π}
    (hrow : repo.rows id = some row) :
    (repo.updateTx id params).1 = .resolved (some (.object (params.spread row))) ∧
      (repo.updateTx id params).2.rows =
        Function.update repo.rows id (some ((params.spread row).over row)) := by
  unfold updateTx
  split
  · rename_i hnone
    rw [hrow] at hnone
    cases hnone
  · rename_i entity hentity
    obtain rfl : row = entity := Option.some.inj (hrow.symm.trans hentity)
    have hstored : repo.stored id (params.spread row) = (params.spread row).over row := by
      rw [stored, hrow]
    exact ⟨rfl, by rw [← hstored]; rfl⟩

theorem updateTx_of_none {id : String} {params : OfflineTxPatch π} (hrow : repo.rows id = none) :
    (repo.updateTx id params).2 = repo := by
  unfold updateTx
  split
  · rfl
  · rename_i entity hentity
    rw [hrow] at hentity
    cases hentity

end PostgresOfflineTxRepo

/-! ### Either of the two -/

/-- The implementations of `OfflineTxRepo`. -/
inductive OfflineTxRepo (π : Type*) where
  | inMemory (repo : LocalOfflineTxRepo π)
  | inDatabase (repo : PostgresOfflineTxRepo π)

namespace OfflineTxRepo

def createTx (transaction : OfflineTxModel π) :
    OfflineTxRepo π → Answer (Value (OfflineTxObject π)) × OfflineTxRepo π
  | .inMemory repo => (repo.createTx transaction).map (·) .inMemory
  | .inDatabase repo => (repo.createTx transaction).map (·) .inDatabase

def findById (id : String) : OfflineTxRepo π → Answer (Value (OfflineTxObject π))
  | .inMemory repo => repo.findById id
  | .inDatabase repo => repo.findById id

def updateTx (id : String) (params : OfflineTxPatch π) :
    OfflineTxRepo π → Answer (Value (OfflineTxObject π)) × OfflineTxRepo π
  | .inMemory repo => (repo.updateTx id params).map (·) .inMemory
  | .inDatabase repo => (repo.updateTx id params).map (·) .inDatabase

/-- The record that is stored under an id. -/
def record : OfflineTxRepo π → String → Option (OfflineTxObject π)
  | .inMemory repo => repo.transactions.own
  | .inDatabase repo => repo.rows

/-- The calls of the repository. -/
def service : Service (OfflineTxRepo π) (OfflineTxCall π) (Answer (Value (OfflineTxObject π))) where
  call repo
    | .createTx transaction => repo.createTx transaction
    | .updateTx id params => repo.updateTx id params
    | .findById id => (repo.findById id, repo)

end OfflineTxRepo

/-- A repository, and the ids of the transactions that were given to `createTx`: these are the ids
on the receipts. -/
structure OfflineTxs (π : Type*) where
  repo : OfflineTxRepo π
  receipts : List String := []

namespace OfflineTxs

/-- The memory without transactions. -/
def emptyMemory : OfflineTxs π := { repo := .inMemory {} }

/-- The table without transactions. -/
def emptyDatabase : OfflineTxs π := { repo := .inDatabase .empty }

/-- Every call is a step. -/
def machine : Machine (OfflineTxs π) (OfflineTxCall π) where
  next s call := some
    { repo := OfflineTxRepo.service.after s.repo call
      receipts := match call with
        | .createTx transaction => transaction.id :: s.receipts
        | _ => s.receipts }

/-- The answer `findById` gives of a record. -/
def found (object : OfflineTxObject π) : Answer (Value (OfflineTxObject π)) :=
  .resolved (some (.object object))

/-- What is created under a new id is what is stored, an update changes the properties that it
is given, of one record, and the id on a receipt is the one of its record. -/
structure RoundTrip (s : OfflineTxs π) (call : OfflineTxCall π) : Prop where
  created : ∀ transaction, call = .createTx transaction → transaction.id ∉ s.receipts →
    OfflineTxRepo.service.answer s.repo call = found transaction.toObject ∧
      (OfflineTxRepo.service.after s.repo call).findById transaction.id =
        found transaction.toObject
  updated : ∀ id params object, call = .updateTx id params → s.repo.record id = some object →
    OfflineTxRepo.service.answer s.repo call = found (params.spread object) ∧
      (OfflineTxRepo.service.after s.repo call).findById id = found (params.spread object) ∧
      ∀ other, other ≠ id →
        (OfflineTxRepo.service.after s.repo call).findById other = s.repo.findById other
  identified : ∀ s', machine.next s call = some s' → ∀ id ∈ s'.receipts,
    ∃ object, s'.repo.findById id = found object ∧ object.id = some id

/-- In memory, a transaction with a new id has the id that comes next there; in the database, an
update takes nothing away. -/
def Keyed (s : OfflineTxs π) : OfflineTxCall π → Prop
  | .createTx transaction =>
    match s.repo with
    | .inMemory repo => transaction.id ∉ s.receipts → transaction.id = repo.id.repr
    | .inDatabase _ => True
  | .updateTx id params =>
    match s.repo with
    | .inMemory _ => True
    | .inDatabase repo => (repo.rows id).all params.unsetsNothing = true
  | .findById _ => True

/-- Every transaction is stored under its id, and nothing else is in the database. -/
structure Inv (s : OfflineTxs π) : Prop where
  identified : ∀ id ∈ s.receipts, ∃ object, s.repo.record id = some object ∧ object.id = some id
  /-- The ids that memory has not given out are free. -/
  fresh : ∀ repo, s.repo = .inMemory repo → ∀ n, repo.id ≤ n →
    repo.transactions.own n.repr = none
  stored : ∀ repo, s.repo = .inDatabase repo → ∀ id, id ∉ s.receipts → repo.rows id = none

theorem inv_emptyMemory : Inv (emptyMemory : OfflineTxs π) where
  identified _ hid := nomatch hid
  fresh := by
    rintro repo ⟨⟩ n -
    rfl
  stored _ hrepo := nomatch hrepo

theorem inv_emptyDatabase : Inv (emptyDatabase : OfflineTxs π) where
  identified _ hid := nomatch hid
  fresh _ hrepo := nomatch hrepo
  stored := by
    rintro repo ⟨⟩ id -
    rfl

theorem findById_of_record {repo : OfflineTxRepo π} {id : String} {object : OfflineTxObject π}
    (h : repo.record id = some object) : repo.findById id = found object := by
  cases repo with
  | inMemory repo => exact congrArg _ (PlainObject.get_of_own h)
  | inDatabase repo =>
    change repo.rows id = some object at h
    show Answer.resolved ((repo.rows id).map Value.object) = _
    rw [h]
    rfl

/-! ### One call -/

theorem record_updateTx_of_ne (repo : OfflineTxRepo π) {id other : String}
    (params : OfflineTxPatch π) (h : other ≠ id) :
    (repo.updateTx id params).2.record other = repo.record other := by
  cases repo with
  | inMemory repo => exact (repo.updateTx_keeps id params).2 other h
  | inDatabase repo =>
    show (repo.updateTx id params).2.rows other = repo.rows other
    cases hrow : repo.rows id with
    | none => rw [repo.updateTx_of_none hrow]
    | some row => rw [(repo.updateTx_of_row hrow).2, Function.update_of_ne h]

/-- An update of a record keeps its id. -/
theorem record_updateTx (repo : OfflineTxRepo π) {id : String} (params : OfflineTxPatch π)
    {object : OfflineTxObject π} (h : repo.record id = some object) :
    ∃ object', (repo.updateTx id params).2.record id = some object' ∧ object'.id = object.id := by
  cases repo with
  | inMemory repo =>
    change repo.transactions.own id = some object at h
    have hid : id ≠ "__proto__" := repo.transactions.ne_proto_of_own h
    refine ⟨params.spread object, ?_, rfl⟩
    show (repo.updateTx id params).2.transactions.own id = _
    rw [LocalOfflineTxRepo.updateTx_of_own h, PlainObject.set_own hid, Function.update_self]
  | inDatabase repo =>
    change repo.rows id = some object at h
    refine ⟨(params.spread object).over object, ?_, ?_⟩
    · show (repo.updateTx id params).2.rows id = _
      rw [(repo.updateTx_of_row h).2, Function.update_self]
    · exact Option.or_self

theorem record_createTx {s : OfflineTxs π} (h : Inv s) {transaction : OfflineTxModel π}
    (hcall : Keyed s (.createTx transaction)) (hnew : transaction.id ∉ s.receipts) :
    (s.repo.createTx transaction).1 = found transaction.toObject ∧
      (s.repo.createTx transaction).2.record transaction.id = some transaction.toObject := by
  obtain ⟨repo | repo, receipts⟩ := s
  · have hid : transaction.id = repo.id.repr := hcall hnew
    have hmodel : { transaction with id := repo.id.repr } = transaction := by rw [← hid]
    constructor
    · show Answer.resolved
        (some (Value.object { transaction with id := repo.id.repr }.toObject)) = _
      rw [hmodel]
      rfl
    · show (repo.transactions.set repo.id.repr
        { transaction with id := repo.id.repr }.toObject).own transaction.id = _
      rw [PlainObject.set_own (repr_ne_proto _), hmodel, hid, Function.update_self]
  · refine ⟨rfl, ?_⟩
    show (repo.createTx transaction).2.rows transaction.id = _
    rw [PostgresOfflineTxRepo.createTx_rows, Function.update_self, PostgresOfflineTxRepo.stored,
      h.stored repo rfl _ hnew]

/-- The records of the receipts are there after another transaction is created. -/
theorem record_createTx_of_mem {s : OfflineTxs π} (h : Inv s) (transaction : OfflineTxModel π)
    {id : String} (hid : id ∈ s.receipts) : ∃ object,
      (s.repo.createTx transaction).2.record id = some object ∧ object.id = some id := by
  obtain ⟨object, hobject, hobjectId⟩ := h.identified id hid
  obtain ⟨repo | repo, receipts⟩ := s
  · have hne : id ≠ repo.id.repr := by
      rintro rfl
      have hfree := h.fresh repo rfl repo.id (Nat.le_refl _)
      cases hfree.symm.trans hobject
    refine ⟨object, ?_, hobjectId⟩
    show (repo.transactions.set repo.id.repr _).own id = _
    rw [PlainObject.set_own (repr_ne_proto _), Function.update_of_ne hne]
    exact hobject
  · show ∃ object, (repo.createTx transaction).2.rows id = some object ∧ _
    have hrow : ∃ row, (repo.createTx transaction).2.rows id = some row := by
      by_cases heq : id = transaction.id
      · rw [heq, PostgresOfflineTxRepo.createTx_rows, Function.update_self]
        exact ⟨_, rfl⟩
      · rw [PostgresOfflineTxRepo.createTx_rows, Function.update_of_ne heq]
        exact ⟨object, hobject⟩
    obtain ⟨row, hrow⟩ := hrow
    exact ⟨row, hrow, PostgresOfflineTxRepo.id_eq _ hrow⟩

/-- The ids that memory has not given out stay free. -/
theorem fresh_next {s : OfflineTxs π} (h : Inv s) {repo : LocalOfflineTxRepo π}
    (hrepo : s.repo = .inMemory repo) (call : OfflineTxCall π) {repo' : LocalOfflineTxRepo π}
    (hrepo' : OfflineTxRepo.service.after s.repo call = .inMemory repo') {n : ℕ}
    (hn : repo'.id ≤ n) : repo'.transactions.own n.repr = none := by
  have hfree := h.fresh repo hrepo
  rw [hrepo] at hrepo'
  cases call with
  | createTx transaction =>
    cases hrepo'
    change repo.id + 1 ≤ n at hn
    have hne : n.repr ≠ repo.id.repr := injective_repr.ne (by omega)
    show (repo.transactions.set repo.id.repr _).own n.repr = none
    rw [PlainObject.set_own (repr_ne_proto _), Function.update_of_ne hne]
    exact hfree n (by omega)
  | updateTx id params =>
    cases hrepo'
    change (repo.updateTx id params).2.id ≤ n at hn
    show (repo.updateTx id params).2.transactions.own n.repr = none
    rw [(repo.updateTx_keeps id params).1] at hn
    by_cases hid : n.repr = id
    · subst hid
      rw [LocalOfflineTxRepo.updateTx_of_fresh (hfree n hn)]
      exact hfree n hn
    · rw [(repo.updateTx_keeps id params).2 _ hid]
      exact hfree n hn
  | findById id =>
    cases hrepo'
    exact hfree n hn

/-- **One keyed call** keeps every transaction under its id. -/
theorem inv_next {s s' : OfflineTxs π} {call : OfflineTxCall π} (h : Inv s) (hcall : Keyed s call)
    (hst : machine.next s call = some s') : Inv s' := by
  cases hst
  refine ⟨?_, fun repo' hrepo' n hn => ?_, fun repo' hrepo' id hid => ?_⟩
  · cases call with
    | createTx transaction =>
      intro id hid
      by_cases hmem : id ∈ s.receipts
      · exact record_createTx_of_mem h transaction hmem
      · obtain rfl : id = transaction.id := (List.mem_cons.1 hid).resolve_right hmem
        exact ⟨_, (record_createTx h hcall hmem).2, rfl⟩
    | updateTx id params =>
      intro other hother
      obtain ⟨object, hobject, hid⟩ := h.identified other hother
      by_cases heq : other = id
      · subst heq
        obtain ⟨object', hobject', hid'⟩ := record_updateTx s.repo params hobject
        exact ⟨object', hobject', hid'.trans hid⟩
      · exact ⟨object, (record_updateTx_of_ne s.repo params heq).trans hobject, hid⟩
    | findById id => exact h.identified
  · obtain ⟨repo | repo, receipts⟩ := s
    · exact fresh_next h rfl call hrepo' hn
    · cases call <;> cases hrepo'
  · obtain ⟨repo | repo, receipts⟩ := s
    · cases call <;> cases hrepo'
    · cases call with
      | createTx transaction =>
        cases hrepo'
        obtain ⟨hne, hmem⟩ := not_or.1 (List.mem_cons.not.1 hid)
        show (repo.createTx transaction).2.rows id = none
        rw [PostgresOfflineTxRepo.createTx_rows, Function.update_of_ne hne]
        exact h.stored repo rfl id hmem
      | updateTx k params =>
        cases hrepo'
        have hnone := h.stored repo rfl id hid
        show (repo.updateTx k params).2.rows id = none
        by_cases heq : id = k
        · subst heq
          rw [repo.updateTx_of_none hnone]
          exact hnone
        · exact (record_updateTx_of_ne (.inDatabase repo) params heq).trans hnone
      | findById k =>
        cases hrepo'
        exact h.stored _ rfl id hid

theorem updated_iff (repo : OfflineTxRepo π) {id : String} (params : OfflineTxPatch π)
    {object : OfflineTxObject π} (hrecord : repo.record id = some object) :
    (repo.updateTx id params).1 = found (params.spread object) ∧
      ((repo.updateTx id params).2.findById id = found (params.spread object) ↔
        match repo with
        | .inMemory _ => True
        | .inDatabase _ => params.unsetsNothing object = true) := by
  cases repo with
  | inMemory repo =>
    have hupdate := @LocalOfflineTxRepo.updateTx_of_own π repo id params object hrecord
    have hid := repo.transactions.ne_proto_of_own hrecord
    refine ⟨congrArg Prod.fst hupdate, iff_true_intro (findById_of_record ?_)⟩
    show (repo.updateTx id params).2.transactions.own id = _
    rw [hupdate, PlainObject.set_own hid, Function.update_self]
  | inDatabase repo =>
    obtain ⟨hanswer, hrows⟩ :=
      @PostgresOfflineTxRepo.updateTx_of_row π repo id params object hrecord
    refine ⟨hanswer, ?_⟩
    show Answer.resolved (((repo.updateTx id params).2.rows id).map Value.object) = _ ↔ _
    rw [hrows, Function.update_self, Option.map_some]
    simp only [found, Answer.resolved.injEq, Option.some_inj, Value.object.injEq]
    exact OfflineTxPatch.over_spread_iff

theorem findById_updateTx_of_ne (repo : OfflineTxRepo π) {id other : String}
    (params : OfflineTxPatch π) {object : OfflineTxObject π}
    (hrecord : repo.record id = some object) (h : other ≠ id) :
    (repo.updateTx id params).2.findById other = repo.findById other := by
  cases repo with
  | inMemory repo =>
    have hid := repo.transactions.ne_proto_of_own hrecord
    refine congrArg Answer.resolved ?_
    show (repo.updateTx id params).2.transactions.get other = _
    rw [LocalOfflineTxRepo.updateTx_of_own hrecord, PlainObject.get_set_of_ne hid h]
  | inDatabase repo =>
    have hrow := record_updateTx_of_ne (.inDatabase repo) params h
    exact congrArg (fun row => Answer.resolved (Option.map Value.object row)) hrow

/-- **One call** is a round trip exactly if it is keyed. -/
theorem roundTrip_iff_keyed {s : OfflineTxs π} (h : Inv s) (call : OfflineTxCall π) :
    RoundTrip s call ↔ Keyed s call := by
  constructor
  · intro htrip
    cases call with
    | createTx transaction =>
      obtain ⟨repo | repo, receipts⟩ := s
      · intro hnew
        have hanswer : found { transaction with id := repo.id.repr }.toObject =
          found transaction.toObject := (htrip.created transaction rfl hnew).1
        simp only [found, Answer.resolved.injEq, Option.some_inj, Value.object.injEq] at hanswer
        have hid := congrArg OfflineTxObject.id hanswer
        exact (Option.some_inj.1 hid).symm
      · trivial
    | updateTx id params =>
      obtain ⟨repo | repo, receipts⟩ := s
      · trivial
      · show (repo.rows id).all params.unsetsNothing = true
        cases hrow : repo.rows id with
        | none => rfl
        | some row =>
          have hfound := (htrip.updated id params row rfl hrow).2.1
          exact (updated_iff (.inDatabase repo) params hrow).2.1 hfound
    | findById => trivial
  · intro hcall
    refine ⟨?_, ?_, fun s' hst id hid => ?_⟩
    · rintro transaction rfl hnew
      obtain ⟨hanswer, hrecord⟩ := record_createTx h hcall hnew
      exact ⟨hanswer, findById_of_record hrecord⟩
    · rintro id params object rfl hrecord
      obtain ⟨hanswer, hfound⟩ := updated_iff s.repo params hrecord
      refine ⟨hanswer, hfound.2 ?_, fun other hother =>
        findById_updateTx_of_ne s.repo params hrecord hother⟩
      obtain ⟨repo | repo, receipts⟩ := s
      · trivial
      · change (repo.rows id).all params.unsetsNothing = true at hcall
        change repo.rows id = some object at hrecord
        rwa [hrecord] at hcall
    · obtain ⟨object, hobject, hobjectId⟩ := (inv_next h hcall hst).identified id hid
      exact ⟨object, findById_of_record hobject, hobjectId⟩

/-! ### Runs -/

/-- **All the calls of a run are round trips exactly if they are keyed**, in memory and in the
database. -/
theorem roundTrip_iff (calls : List (OfflineTxCall π)) :
    (machine.Meets RoundTrip emptyMemory calls ↔ machine.Meets Keyed emptyMemory calls) ∧
      (machine.Meets RoundTrip emptyDatabase calls ↔ machine.Meets Keyed emptyDatabase calls) := by
  have hruns : ∀ {s : OfflineTxs π}, Inv s →
      (machine.Meets RoundTrip s calls ↔ machine.Meets Keyed s calls) := fun hs =>
    Machine.meets_iff_meets (J := Inv) (fun _ _ _ h hcall hst => inv_next h hcall hst)
      (fun _ call h => roundTrip_iff_keyed h call) hs calls
  exact ⟨hruns inv_emptyMemory, hruns inv_emptyDatabase⟩

/-- In memory a transaction is stored under an id that is not its own. -/
theorem stored_under_another_id : ¬ ∀ calls : List (OfflineTxCall Unit),
    machine.Meets RoundTrip emptyMemory calls := by
  intro h
  have htrip := (h [.createTx ⟨"someTestSuiteId", (), "0x01", .signed, "someAddress", 1, none, none,
    none⟩]).1
  have hkeyed := (roundTrip_iff_keyed inv_emptyMemory _).1 htrip (by decide)
  exact absurd hkeyed (by decide)

end OfflineTxs

end PolymeshRest
