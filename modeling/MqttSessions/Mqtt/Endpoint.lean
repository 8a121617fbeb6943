import MqttSessions.Mqtt.Options
import MqttSessions.Mqtt.Route

/-! # The MQTT endpoint

An **`Mqtt.Endpoint`** is the client's end of at most one **`Mqtt.Link`**. A link has a pump of its
own, which takes what the network yields and keeps what a session is to see until it is asked for.
The pump of a link works until the link is disconnected in one way or another, and never again: a
lost connection is not set up anew behind a session's back.

Main definitions: **`Mqtt.Link.receive`**, what the pump does with what the network yields;
**`Mqtt.Endpoint.connect`**, **`Mqtt.Endpoint.disconnect`**, **`Mqtt.Endpoint.submit?`** and
**`Mqtt.Endpoint.next?`**. -/

namespace MqttSessions

namespace Mqtt

/-- What the network yields for a link: a report, the news that the link's own farewell has gone
out, or a failure. -/
inductive Polled where
  | report (route : Route)
  | farewell
  | failed (reason : String)
  deriving DecidableEq, Repr

/-- What a session sees of what the network yields. -/
def Polled.event? : Polled → Option LinkEvent
  | report route => route.event?
  | farewell => none
  | failed reason => some (.disconnected reason)

/-- Whether an event is the last one of its link. -/
def isLast : LinkEvent → Bool
  | .disconnected _ => true
  | _ => false

/-! ## Links -/

/-- A link: what was said to the broker, whether the broker has acknowledged the connection, whether
the pump is still at work, the requests that wait for it, and the events that wait to be read. -/
structure Link where
  options : Options
  acknowledged : Bool := false
  pumping : Bool := true
  requests : List Call := []
  events : List LinkEvent := []
  deriving DecidableEq, Repr

namespace Link

/-- What the pump does with what the network yields. -/
def receive (link : Link) (polled : Polled) : Link :=
  if !link.pumping then link
  else match polled with
    | .farewell => { link with pumping := false }
    | polled =>
      let link := match polled with
        | .report route => { link with acknowledged := link.acknowledged || route.isAcknowledgement }
        | _ => link
      match polled.event? with
      | none => link
      | some event =>
        { link with events := link.events ++ [event], pumping := !isLast event }

/-- Hands a request to the pump: `none` while there is no room, a failure if the pump has stopped. -/
def submit? (link : Link) (capacity : Nat) (request : Call) : Option (Except TransportError Link) :=
  if !link.pumping then some (.error .requestFailed)
  else if link.requests.length < capacity then
    some (.ok { link with requests := link.requests ++ [request] })
  else none

end Link

/-! ## Endpoints -/

/-- The client's end of at most one link. -/
structure Endpoint where
  settings : MqttSettings
  link : Option Link := none
  deriving DecidableEq, Repr

namespace Endpoint

/-- Whether there is a link. -/
def isActive (e : Endpoint) : Bool := e.link.isSome

/-- The number of requests that may wait for the pump. -/
def capacity (e : Endpoint) : Nat := max e.settings.requestCapacity 1

/-- The endpoint without a link. -/
def unlink (e : Endpoint) : Endpoint := { e with link := none }

/-- Starts a new link in the place of the one that is there. -/
def connect (e : Endpoint) (profile : Profile) : Except TransportError Unit × Endpoint :=
  match Options.ofProfile profile e.settings with
  | .error fault => (.error (.invalidOptions fault.message), e.unlink)
  | .ok options => (.ok (), { e with link := some { options } })

/-- Drops the link, and whether the broker is told so: only one that has acknowledged the connection
has anything to be told. -/
def disconnect (e : Endpoint) : Bool × Endpoint :=
  (e.link.elim false Link.acknowledged, e.unlink)

/-- Hands a request to the link: `none` while there is no room. -/
def submit? (e : Endpoint) (request : Call) : Option (Except TransportError Unit × Endpoint) :=
  match e.link with
  | none => some (.error .notConnected, e)
  | some link =>
    match link.submit? e.capacity request with
    | none => none
    | some (.error error) => some (.error error, e)
    | some (.ok link) => some (.ok (), { e with link := some link })

/-- What the network yields goes to the pump of the link. -/
def receive (e : Endpoint) (polled : Polled) : Endpoint :=
  { e with link := e.link.map fun link => link.receive polled }

/-- What is reported of a link whose pump has stopped without a reason. -/
def stopped : LinkEvent := .disconnected "MQTT event loop stopped"

/-- The next event of the link, if there is one. The last event of a link drops it. -/
def next? (e : Endpoint) : Option (LinkEvent × Endpoint) :=
  match e.link with
  | none => none
  | some link =>
    match link.events with
    | event :: rest =>
      some (event, if isLast event then e.unlink else { e with link := some { link with events := rest } })
    | [] => if link.pumping then none else some (stopped, e.unlink)

end Endpoint

end Mqtt

end MqttSessions
