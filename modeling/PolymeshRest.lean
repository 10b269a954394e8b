import PolymeshRest.Assets.RestrictionRequests
import PolymeshRest.Assets.Restrictions
import PolymeshRest.Assets.SetStats
import PolymeshRest.Assets.Stats
import PolymeshRest.Assets.StatsAcceptance
import PolymeshRest.Assets.StatsConversion
import PolymeshRest.Assets.StatsDecorators
import PolymeshRest.Auth.Access
import PolymeshRest.Auth.ApiKeys
import PolymeshRest.Auth.Guard
import PolymeshRest.Claims.Scopes
import PolymeshRest.Common.Decorators
import PolymeshRest.Common.Human
import PolymeshRest.Data.Entities
import PolymeshRest.Data.Lists
import PolymeshRest.Data.Table
import PolymeshRest.Data.Tally
import PolymeshRest.Datastore.Basic
import PolymeshRest.Datastore.Frames
import PolymeshRest.Datastore.Notifications
import PolymeshRest.Datastore.OfflineEvents
import PolymeshRest.Datastore.OfflineTxs
import PolymeshRest.Datastore.Subscriptions
import PolymeshRest.Datastore.Users
import PolymeshRest.Events.Atomicity
import PolymeshRest.Events.Basic
import PolymeshRest.Events.Nonces
import PolymeshRest.Events.Order
import PolymeshRest.Js.BigNumber
import PolymeshRest.Js.ClassTransformer
import PolymeshRest.Js.ClassValidator
import PolymeshRest.Js.ImplicitConversion
import PolymeshRest.Js.Json
import PolymeshRest.Js.Number
import PolymeshRest.Js.Record
import PolymeshRest.Js.Rejection
import PolymeshRest.Js.Text
import PolymeshRest.Machine.Basic
import PolymeshRest.Machine.Calls
import PolymeshRest.Machine.Queue
import PolymeshRest.Messages.Artemis
import PolymeshRest.Messages.Basic
import PolymeshRest.Messages.Deliveries
import PolymeshRest.Messages.Local
import PolymeshRest.Notifications.Basic
import PolymeshRest.Notifications.Delivery
import PolymeshRest.Offline.Custody
import PolymeshRest.Offline.Once
import PolymeshRest.Offline.Pipeline
import PolymeshRest.Offline.Provenance
import PolymeshRest.Offline.Records
import PolymeshRest.Offline.Submitter
import PolymeshRest.Permissions.Groups
import PolymeshRest.Portfolios.Addresses
import PolymeshRest.Retry.Basic
import PolymeshRest.Retry.Store
import PolymeshRest.Schedule.Attempts
import PolymeshRest.Schedule.Tasks
import PolymeshRest.Settlements.Legs
import PolymeshRest.Signing.Fireblocks
import PolymeshRest.Signing.Local
import PolymeshRest.Signing.Vault
import PolymeshRest.Subscriptions.Basic
import PolymeshRest.Subscriptions.Handshake
import PolymeshRest.Transactions.Basic
import PolymeshRest.Transactions.Isolation
import PolymeshRest.Transactions.Leaks
import PolymeshRest.Transactions.Options
import PolymeshRest.Transactions.Order
import PolymeshRest.Transactions.Ownership
import PolymeshRest.Transactions.Settling
import PolymeshRest.Transactions.Submit
import PolymeshRest.Transactions.System
import PolymeshRest.Webhooks.Bodies
import PolymeshRest.Webhooks.Consent
import PolymeshRest.Webhooks.Ownership
import PolymeshRest.Webhooks.System
