import Mathlib.Tactic.Common

/-!
# Addresses, queues and receipts

What the two implementations of `MessageService` have in common.

* `AddressName`, `QueueName`, `addressToQueue` : where messages are sent, and where listened to.
* `MessageReceipt` : what `sendMessage` returns.
-/

namespace PolymeshRest

/-- Sendable locations for messages -/
inductive AddressName where
  | requests
  | signatures
  | finalizations
  deriving DecidableEq, Repr

/-- Subscribable locations for messages -/
inductive QueueName where
  | eventsLog
  | requests
  | signatures
  | finalizations
  deriving DecidableEq, Repr

/-- `addressToQueue` -/
def addressToQueue : AddressName → QueueName
  | .requests => .requests
  | .signatures => .signatures
  | .finalizations => .finalizations

/-- The text of a queue's name. -/
def QueueName.text : QueueName → String
  | .eventsLog => "EventsLog"
  | .requests => "Requests"
  | .signatures => "Signatures"
  | .finalizations => "Finalizations"

/-- The receipt of a message. -/
structure MessageReceipt where
  id : ℕ
  topic : AddressName
  deriving DecidableEq, Repr

end PolymeshRest
