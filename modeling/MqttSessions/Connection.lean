/-! # Connection states

A connection is disconnected, connecting, connected or disconnecting. **`ConnectionState.next?`** is
the table of its legal transitions; all other events leave the state alone. -/

namespace MqttSessions

/-- Where a connection stands. -/
inductive ConnectionState where
  | disconnected
  | connecting
  | connected
  | disconnecting
  deriving DecidableEq, Repr, Inhabited

/-- What moves a connection from one state to another. -/
inductive ConnectionEvent where
  | connectRequested
  | disconnectRequested
  | connectSucceeded
  | connectFailed
  | connectionLost
  | teardownComplete
  deriving DecidableEq, Repr

namespace ConnectionState

/-- The state after an event, if the event is legal. -/
def next? : ConnectionState → ConnectionEvent → Option ConnectionState
  | disconnected, .connectRequested => some connecting
  | connecting, .connectSucceeded => some connected
  | connecting, .connectFailed => some disconnected
  | connecting, .connectionLost => some disconnected
  | connecting, .disconnectRequested => some disconnecting
  | connected, .disconnectRequested => some disconnecting
  | connected, .connectionLost => some disconnected
  | disconnecting, .teardownComplete => some disconnected
  | _, _ => none

/-- Whether messages and subscriptions may be sent. -/
def acceptsCommands (state : ConnectionState) : Bool := state == connected

/-- The name of a state. -/
def text : ConnectionState → String
  | disconnected => "disconnected"
  | connecting => "connecting"
  | connected => "connected"
  | disconnecting => "disconnecting"

/-- The state after each of some events, `none` for an illegal one, and the state at the end. -/
def trace : ConnectionState → List ConnectionEvent → List (Option ConnectionState) × ConnectionState
  | state, [] => ([], state)
  | state, event :: rest =>
    let step := state.next? event
    let (steps, final) := trace (step.getD state) rest
    (step :: steps, final)

end ConnectionState

end MqttSessions
