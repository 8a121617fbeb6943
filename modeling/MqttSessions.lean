import MqttSessions.Main
import MqttSessions.Rehearsal
import MqttSessions.Proofs.Session.Effects
import MqttSessions.Proofs.Session.Agreement
import MqttSessions.Proofs.Session.Ledger
import MqttSessions.Proofs.Session.Wire
import MqttSessions.Proofs.Session.Overlap
import MqttSessions.Proofs.Session.Refusals
import MqttSessions.Proofs.Closing.Order
import MqttSessions.Proofs.Closing.Delivery
import MqttSessions.Proofs.Closing.Aftermath
import MqttSessions.Proofs.Closing.Noted
import MqttSessions.Proofs.Closing.Finality
import MqttSessions.Proofs.Locking.Visits
import MqttSessions.Proofs.Locking.Guarded
import MqttSessions.Proofs.Closing.Schedule
import MqttSessions.Proofs.Json.Scalars
import MqttSessions.Proofs.Json.Written
import MqttSessions.Proofs.Profile.Document
import MqttSessions.Proofs.Files
import MqttSessions.Proofs.Store
import MqttSessions.Proofs.Registry.Calls
import MqttSessions.Proofs.Registry.Failing
import MqttSessions.Proofs.Registry.Stored
import MqttSessions.Proofs.Registry.Sessions
import MqttSessions.Proofs.Registry.Cached
import MqttSessions.Proofs.Registry.World
import MqttSessions.Proofs.Feed
import MqttSessions.Proofs.Registry.Mirror
import MqttSessions.Proofs.Mqtt.Contract
import MqttSessions.Proofs.Registry.Faithful
import MqttSessions.Proofs.Registry.Snapshot
import MqttSessions.Proofs.Closing.Announced
import MqttSessions.Proofs.Registry.Watched
import MqttSessions.Proofs.Registry.Owed
import MqttSessions.Proofs.Registry.Observed
import MqttSessions.Proofs.Registry.Interleaved
import MqttSessions.Proofs.Lists
import MqttSessions.Proofs.Topic.Grammar
import MqttSessions.Proofs.Topic.Instances
import MqttSessions.Proofs.Worker.Task
import MqttSessions.Proofs.Worker.Discipline
import MqttSessions.Proofs.Closing.Recounted
import MqttSessions.Proofs.Closing.Staggered
import MqttSessions.Proofs.Closing.Conveyance
import MqttSessions.Proofs.Registry.Reopened
import MqttSessions.Proofs.Json.Entries
import MqttSessions.Proofs.Profile.Layout
import MqttSessions.Proofs.Profile.Verdict
import MqttSessions.Proofs.Closing.Stranded
import MqttSessions.Proofs.Closing.Contested
import MqttSessions.Proofs.Subscriptions.History
import MqttSessions.Proofs.Mqtt.Revisions
import MqttSessions.Proofs.Batch.Duty
import MqttSessions.Proofs.Watch.Tardy
import MqttSessions.Proofs.Watch.Vigil
import MqttSessions.Proofs.Watch.Lookout
