import MqttSessions.Message
import MqttSessions.Transport

/-! # Session workers

A worker owns the transport of a session. It takes **`Command`**s in order and, while it has a link
and no command waits, polls the transport; what comes of it goes back as **`Report`**s, except that
inbound messages go into the batch buffer.

Main definitions:

* **`Worker`**: where a worker stands, its link, and its transport;
* **`Worker.take`**: what a worker does with a command;
* **`Worker.heed`**: what a worker does with an event of its link. -/

namespace MqttSessions

/-- What a session asks of its worker. -/
inductive Command where
  | connect (profile : Profile)
  | disconnect
  | subscribe (topic : String) (qos : Qos)
  | unsubscribe (topic : String)
  | publish (topic : String) (payload : List UInt8) (qos : Qos) (retain : Bool)
  | shutdown
  deriving DecidableEq, Repr

/-- What a session is told by its worker, and by its batch ticker. -/
inductive Report where
  | connected
  | connectFailed (reason : String)
  | connectionLost (reason : String)
  | disconnectComplete
  | subscribeAck (success : Bool)
  | messages (batch : List Message)
  deriving DecidableEq, Repr

/-- A worker's view of its link: none, one that is being set up, one that the broker has
acknowledged. -/
inductive Link where
  | idle
  | connecting
  | up
  deriving DecidableEq, Repr

/-- Where a worker stands: it waits for something to do, it is inside a call that never answers, or
it has stopped. -/
inductive Footing where
  | waiting
  | stuck
  | stopped
  deriving DecidableEq, Repr

/-- A worker. The transport of a stopped worker is kept only to be looked at. -/
structure Worker (τ : Type) where
  footing : Footing
  link : Link
  transport : τ
  deriving Repr

namespace Worker

variable {τ : Type}

/-- A worker with no link. -/
def start (transport : τ) : Worker τ := ⟨.waiting, .idle, transport⟩

/-- Whether a worker has stopped. -/
def isStopped (worker : Worker τ) : Bool := worker.footing == .stopped

/-- A worker that stops where it stands. -/
def stop (worker : Worker τ) : Worker τ := { worker with footing := .stopped }

variable [Transport τ]

/-- Makes a call; a worker whose call never answers is stuck, and a fatal call stops it. -/
def call (worker : Worker τ) (c : Call) : Answer × Worker τ :=
  let (answer, transport) := Transport.perform c worker.transport
  let footing := match answer with
    | .never => .stuck
    | .fatal => .stopped
    | _ => worker.footing
  (answer, { worker with transport, footing })

/-- Starts a connection attempt; a link that is there is left alone. -/
def connect (worker : Worker τ) (profile : Profile) : Worker τ × List Report :=
  if worker.link = .idle then
    match worker.call (.connect profile) with
    | (.done, worker) => ({ worker with link := .connecting }, [])
    | (.failed error, worker) => (worker, [.connectFailed error.message])
    | (_, worker) => (worker, [])
  else (worker, [])

/-- Tears the link down if there is one, whatever the transport answers. -/
def teardown (worker : Worker τ) : Worker τ :=
  if worker.link = .idle then worker
  else match worker.call .disconnect with
    | (.done, worker) => { worker with link := .idle }
    | (.failed _, worker) => { worker with link := .idle }
    | (_, worker) => worker

/-- Makes a call over an acknowledged link; without one it is dropped. -/
def send (worker : Worker τ) (c : Call) : Worker τ :=
  if worker.link = .up then (worker.call c).2 else worker

/-- What a worker does with a command. -/
def take (worker : Worker τ) : Command → Worker τ × List Report
  | .connect profile => worker.connect profile
  | .disconnect =>
    let worker := worker.teardown
    (worker, if worker.footing = .waiting then [.disconnectComplete] else [])
  | .subscribe topic qos => (worker.send (.subscribe topic qos), [])
  | .unsubscribe topic => (worker.send (.unsubscribe topic), [])
  | .publish topic payload qos retain => (worker.send (.publish topic payload qos retain), [])
  | .shutdown =>
    let worker := worker.teardown
    (if worker.footing = .waiting then worker.stop else worker, [])

omit [Transport τ] in
/-- What a worker does with an event of its link: reports, and messages for the batch buffer. -/
def heed (worker : Worker τ) : LinkEvent → Worker τ × List Report × List Message
  | .connected =>
    if worker.link = .connecting then ({ worker with link := .up }, [.connected], [])
    else (worker, [], [])
  | .disconnected reason =>
    ({ worker with link := .idle },
      match worker.link with
      | .connecting => [.connectFailed reason]
      | .up => [.connectionLost reason]
      | .idle => [],
      [])
  | .subscribeAck success => (worker, [.subscribeAck success], [])
  | .message topic payload qos retain =>
    (worker, [], [⟨topic, payload, qos, retain, .received⟩])

end Worker

end MqttSessions
