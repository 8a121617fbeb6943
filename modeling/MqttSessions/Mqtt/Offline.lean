import MqttSessions.Mqtt.Endpoint

/-! # Endpoints without a network

An **`Mqtt.Offline`** endpoint is one whose every connection attempt finds that the network cannot
be reached. It is what a client is left with where there is no network at all. -/

namespace MqttSessions

namespace Mqtt

/-- Why the network cannot carry a connection. -/
inductive NetworkFault where
  | unreachable
  | refused
  deriving DecidableEq, Repr

/-- The wording of a network fault. -/
def NetworkFault.message : NetworkFault → String
  | unreachable => "Network is unreachable (os error 101)"
  | refused => "Connection refused (os error 111)"

/-- What a link yields when the network cannot carry it. -/
def NetworkFault.polled (fault : NetworkFault) : Polled := .failed ("I/O: " ++ fault.message)

/-- An endpoint whose every connection attempt finds that the network cannot be reached. -/
structure Offline where
  endpoint : Endpoint
  deriving DecidableEq, Repr

namespace Offline

/-- An offline endpoint with no link. -/
def create (settings : MqttSettings) : Offline := ⟨{ settings }⟩

/-- Whether there is a link. -/
def isActive (o : Offline) : Bool := o.endpoint.isActive

/-- Time for the attempt that is under way to fail. -/
def wait (o : Offline) : Offline := ⟨o.endpoint.receive NetworkFault.unreachable.polled⟩

/-- Hands a request to the link; without room the attempt fails before there is any. -/
def submit (o : Offline) (request : Call) : Except TransportError Unit × Offline :=
  match o.endpoint.submit? request with
  | some (result, endpoint) => (result, ⟨endpoint⟩)
  | none => (.error .requestFailed, o.wait)

/-- Makes a call. -/
def call (o : Offline) : Call → Except TransportError Unit × Offline
  | .connect profile =>
    let (result, endpoint) := o.endpoint.connect profile
    (result, ⟨endpoint⟩)
  | .disconnect => (.ok (), ⟨o.endpoint.disconnect.2⟩)
  | request => o.submit request

/-- The next event, after the attempt that is under way has failed. -/
def next? (o : Offline) : Option (LinkEvent × Offline) :=
  o.wait.endpoint.next?.map fun (event, endpoint) => (event, ⟨endpoint⟩)

instance : Transport Offline where
  perform c o :=
    match o.call c with
    | (.ok (), o) => (.done, o)
    | (.error error, o) => (.failed error, o)
  poll := next?
  load o := o.endpoint.link.elim 0 fun link => link.events.length + 1

end Offline

end Mqtt

end MqttSessions
