import Mathlib.Algebra.Order.Ring.Int
import Mathlib.Data.Int.Cast.Lemmas
import PolymeshRest.Data.Table

/-!
# Events and their payloads

* `TransactionStatus`, `TransactionUpdatePayload` : what a `transaction.update` event reports.
* `EventEntity`, `EventsRepo` : the events of one instance of the service, under the ids that
  `EventsService` counts up in memory.
-/

namespace PolymeshRest

/-- `EventType` -/
inductive EventType where
  /-- `'transaction.update'` -/
  | transactionUpdate
  deriving DecidableEq, Repr

/-- `TransactionStatus` of the SDK. -/
inductive TransactionStatus where
  | idle
  | unapproved
  | running
  | rejected
  | succeeded
  | failed
  | aborted
  deriving DecidableEq, Repr

/-- `TransactionType`, with the tag or the tags that go with it. -/
inductive TransactionTags where
  /-- `Single`: `transactionTag`. -/
  | single (transactionTag : String)
  /-- `Batch`: `transactionTags`. -/
  | batch (transactionTags : List String)
  deriving DecidableEq, Repr

/-- `TransactionUpdatePayload`; a property that is not set is `none`. -/
structure TransactionUpdatePayload where
  status : TransactionStatus
  proposal : Option String := none
  type : TransactionTags
  transactionHash : Option String := none
  blockHash : Option String := none
  blockNumber : Option String := none
  result : Option String := none
  error : Option String := none
  deriving DecidableEq, Repr

/-- `EventEntity` -/
structure EventEntity where
  id : ℕ
  type : EventType
  scope : String
  createdAt : ℕ
  payload : TransactionUpdatePayload
  /-- Whether all required notifications for this event have been created. -/
  processed : Bool
  deriving DecidableEq, Repr

/-- `Pick<EventEntity, 'type' | 'scope' | 'payload'>` -/
structure EventData where
  type : EventType
  scope : String
  payload : TransactionUpdatePayload
  deriving DecidableEq, Repr

/-- The record `events` of `EventsService` with its `currentId`. -/
abbrev EventsRepo := Table EventEntity EventEntity.id

namespace EventsRepo

/-- The event `createEvent` stores. -/
def entity (data : EventData) (now id : ℕ) : EventEntity :=
  ⟨id, data.type, data.scope, now, data.payload, false⟩

@[simp] theorem entity_id (data : EventData) (now id : ℕ) : (entity data now id).id = id := rfl

@[simp] theorem entity_processed (data : EventData) (now id : ℕ) :
    (entity data now id).processed = false := rfl

/-- Store a new event. -/
def create (events : EventsRepo) (now : ℕ) (data : EventData) : EventsRepo :=
  events.insert (entity data now) (entity_id data now)

/-- `markEventAsProcessed` -/
def markEventAsProcessed (events : EventsRepo) (id : ℕ) : EventsRepo :=
  events.modify (· = id) (fun event => { event with processed := true }) fun _ => rfl

variable {events : EventsRepo}

theorem create_rows {now : ℕ} {data : EventData} (k : ℕ) :
    (events.create now data).rows k =
      if k = events.currentId + 1 then some (entity data now k) else events.rows k := rfl

@[simp] theorem create_currentId {now : ℕ} {data : EventData} :
    (events.create now data).currentId = events.currentId + 1 := rfl

theorem markEventAsProcessed_rows {id : ℕ} (k : ℕ) :
    (events.markEventAsProcessed id).rows k =
      if k = id then (events.rows k).map fun event => { event with processed := true }
      else events.rows k := by
  simp [markEventAsProcessed, Table.modify_rows]

@[simp] theorem markEventAsProcessed_currentId {id : ℕ} :
    (events.markEventAsProcessed id).currentId = events.currentId := rfl

end EventsRepo

end PolymeshRest
