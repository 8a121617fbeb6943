import MqttSessions.Session.Basic

/-! # What a session does on its own

Besides its callers three parties move a session: its worker takes one command or one event of the
link at a time, commands first; its dispatcher takes one report at a time; and its ticker hands
over a batch. Each step here is one move of one party, or `none` if that party has nothing to do. -/

namespace MqttSessions

namespace Session

variable {τ : Type}

/-! ## The worker -/

section Worker

variable [Transport τ]

/-- The worker takes the next command. -/
def takeCommand? (s : Session τ) : Option (Session τ) :=
  match s.worker.footing, s.commands with
  | .waiting, command :: rest =>
    let (worker, reports) := s.worker.take command
    some ({ s with commands := rest }.settleWorker worker reports)
  | _, _ => none

/-- The worker takes the next event of its link. -/
def takeEvent? (s : Session τ) : Option (Session τ) :=
  match s.worker.footing, s.worker.link with
  | .waiting, .idle => none
  | .waiting, _ =>
    match Transport.poll s.worker.transport with
    | none => none
    | some (event, transport) =>
      let (worker, reports, messages) := { s.worker with transport }.heed event
      let buffer := messages.foldl Batch.Buffer.enqueue s.buffer
      some ({ s with buffer }.settleWorker worker reports)
  | _, _ => none

/-- The worker's next move: a command, or an event if no command waits. -/
def work? (s : Session τ) : Option (Session τ) :=
  match s.takeCommand? with
  | some s => some s
  | none => s.takeEvent?

end Worker

/-! ## The dispatcher -/

/-- The commands that restore subscriptions on a new connection. -/
def resubscriptions (subscriptions : Subscriptions) : List Command :=
  subscriptions.toList.map fun entry => .subscribe entry.topic entry.qos

/-- Queues the commands that restore the subscriptions, if there is a worker to take them. -/
def resubscribe (s : Session τ) : Session τ :=
  (resubscriptions s.subscriptions).foldl (fun s command => (s.send? command).getD s) s

/-- What the dispatcher does with a report. -/
def dispatch (s : Session τ) : Report → Session τ
  | .connected =>
    match s.transition? .connectSucceeded with
    | some s => s.resubscribe
    | none => s
  | .connectFailed _ => s.apply .connectFailed
  | .connectionLost _ => s.apply .connectionLost
  | .disconnectComplete => s.apply .teardownComplete
  | .subscribeAck success => s.announce (.subscriptionAcknowledged success)
  | .messages batch =>
    { s with
      history := s.history ++ batch
      received := s.received + batch.length }.announce (.received batch)

/-- The dispatcher takes the next report. -/
def dispatch? (s : Session τ) : Option (Session τ) :=
  match s.reports with
  | [] => none
  | report :: rest => some ({ s with reports := rest }.dispatch report)

/-- Whether the dispatcher has stopped: nobody is left who could report anything. -/
def dispatcherStopped (s : Session τ) : Bool :=
  s.worker.isStopped && s.ticker == .stopped && s.reports.isEmpty

/-! ## The ticker -/

/-- Hands over what is buffered, if anything is. -/
def handOver (s : Session τ) : Session τ :=
  match s.buffer.take with
  | (none, _) => s
  | (some batch, buffer) => { s with buffer, reports := s.reports ++ [.messages batch] }

/-- What the ticker does at one of its ticks. -/
def tick? (s : Session τ) : Option (Session τ) :=
  if s.ticker = .running then some s.handOver else none

/-- A ticker that has been told to stop hands over what is left and stops. -/
def finishTicker? (s : Session τ) : Option (Session τ) :=
  if s.ticker = .stopping then some { s.handOver with ticker := .stopped } else none

/-- When the ticker ticks. -/
def clock (s : Session τ) : Batch.Clock := ⟨s.settings.batchInterval, 0⟩

/-- Tells the ticker to stop. -/
def stopTicker (s : Session τ) : Session τ :=
  { s with ticker := if s.ticker = .running then .stopping else s.ticker }

end Session

end MqttSessions
