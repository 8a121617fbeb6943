import MqttSessions.Batch.Ticker
import MqttSessions.Feed
import MqttSessions.Session.Failure
import MqttSessions.Session.Worker
import MqttSessions.Settings
import MqttSessions.Subscriptions

/-! # Sessions

A **`Session`** is the client's side of one profile. Callers change its state and queue commands for
its worker; the worker's reports are dispatched to the session; a ticker hands inbound messages
over in batches. What observers may see is announced on a feed of **`SessionEvent`**s.

This module holds the data of a session and the steps that all others are made of: a state
transition (**`Session.apply`**), a forced end (**`Session.forceDisconnected`**) and the queuing of
a command (**`Session.send?`**). -/

namespace MqttSessions

/-- What a session announces to its observers. -/
inductive SessionEvent where
  | stateChanged (state : ConnectionState)
  | received (batch : List Message)
  | published (message : Message)
  | subscriptionAcknowledged (success : Bool)
  deriving DecidableEq, Repr

/-- How a session's ticker stands: at work, told to stop, or stopped. -/
inductive TickerState where
  | running
  | stopping
  | stopped
  deriving DecidableEq, Repr

/-- A follower of a session: whether it is at work, how far it has read, and how many fresh looks
at the session it has asked for. -/
structure Follower where
  isActive : Bool := false
  position : Nat := 0
  refreshes : Nat := 0
  deriving DecidableEq, Repr

/-- The client's side of one profile, over a transport. Times are in milliseconds since it was
created. -/
structure Session (τ : Type) where
  profile : Profile
  settings : SessionSettings
  state : ConnectionState
  connectedAt : Option Nat
  subscriptions : Subscriptions
  history : List Message
  received : Nat
  published : Nat
  feed : Feed SessionEvent
  follower : Follower
  commands : List Command
  reports : List Report
  worker : Worker τ
  buffer : Batch.Buffer
  ticker : TickerState
  closed : Bool
  now : Nat

namespace Session

variable {τ : Type}

/-- A new session. Its ticker needs a period to work with. -/
def create (profile : Profile) (transport : τ) (settings : SessionSettings) : Session τ where
  profile := profile
  settings := settings
  state := .disconnected
  connectedAt := none
  subscriptions := .empty
  history := []
  received := 0
  published := 0
  feed := .ofCapacity settings.eventCapacity
  follower := {}
  commands := []
  reports := []
  worker := .start transport
  buffer := .empty
  ticker := if settings.batchInterval = 0 then .stopped else .running
  closed := false
  now := 0

/-! ## Announcements and transitions -/

/-- Announces an event to the observers. -/
def announce (s : Session τ) (event : SessionEvent) : Session τ :=
  { s with feed := s.feed.push event }

/-- Enters a state: the time of the connection is noted when there is one from now on, forgotten
when there is none, and the observers are told. -/
def enter (s : Session τ) (state : ConnectionState) : Session τ :=
  let connectedAt := match state with
    | .connected => some s.now
    | .connecting => s.connectedAt
    | .disconnected => none
    | .disconnecting => none
  { s with state, connectedAt }.announce (.stateChanged state)

/-- Applies an event to the state: the session after the transition, if the event is legal. -/
def transition? (s : Session τ) (event : ConnectionEvent) : Option (Session τ) :=
  (s.state.next? event).map s.enter

/-- Applies an event to the state, or ignores it if it is not legal. -/
def apply (s : Session τ) (event : ConnectionEvent) : Session τ := (s.transition? event).getD s

/-- Ends in the disconnected state, whatever the state was. -/
def forceDisconnected (s : Session τ) : Session τ :=
  if s.state = .disconnected then s else s.enter .disconnected

/-! ## Queues -/

/-- Queues a command, if there is a worker to take it. -/
def send? (s : Session τ) (command : Command) : Option (Session τ) :=
  if s.worker.isStopped then none else some { s with commands := s.commands ++ [command] }

/-- Takes what a step of the worker has brought. A worker that has stopped takes no commands any
more, and those that wait are lost. -/
def settleWorker (s : Session τ) (worker : Worker τ) (reports : List Report) : Session τ :=
  { s with
    worker
    reports := s.reports ++ reports
    commands := if worker.isStopped then [] else s.commands }

/-- Stops the worker where it stands. -/
def stopWorker (s : Session τ) : Session τ := s.settleWorker s.worker.stop []

end Session

end MqttSessions
