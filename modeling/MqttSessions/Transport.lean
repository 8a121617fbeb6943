import MqttSessions.Profile.Basic

/-! # Transports

A transport carries one connection to a broker. It is asked by **`Call`**s, each of which has an
**`Answer`**, and it yields **`LinkEvent`**s when it is polled. A call to connect only starts an
attempt: how it ends is an event.

**`Transport`** is what a session needs to know about a type of transports. A call may fail, but it
may also never answer, or bring down whoever made it. -/

namespace MqttSessions

/-- Why a call to a transport failed. -/
inductive TransportError where
  | invalidOptions (reason : String)
  | notConnected
  | requestFailed
  | connectionFailed (reason : String)
  deriving DecidableEq, Repr

/-- The wording of a transport's failure. -/
def TransportError.message : TransportError → String
  | .invalidOptions reason => "Invalid connection options: " ++ reason
  | .notConnected => "Transport is not connected"
  | .requestFailed => "Client request failed"
  | .connectionFailed reason => "Connection failed: " ++ reason

/-- What a transport is asked. -/
inductive Call where
  | connect (profile : Profile)
  | disconnect
  | subscribe (topic : String) (qos : Qos)
  | unsubscribe (topic : String)
  | publish (topic : String) (payload : List UInt8) (qos : Qos) (retain : Bool)
  deriving DecidableEq, Repr

/-- How a call ends: done, failed, never, or with the end of its caller. -/
inductive Answer where
  | done
  | failed (error : TransportError)
  | never
  | fatal
  deriving DecidableEq, Repr

/-- What a transport reports when it is polled. -/
inductive LinkEvent where
  | connected
  | disconnected (reason : String)
  | subscribeAck (success : Bool)
  | message (topic : String) (payload : List UInt8) (qos : Qos) (retain : Bool)
  deriving DecidableEq, Repr

/-- What a session needs to know about a type of transports: how a call goes, the next event if
there is one, and a bound on the events that can be polled before the next call. -/
class Transport (τ : Type) where
  perform : Call → τ → Answer × τ
  poll : τ → Option (LinkEvent × τ)
  load : τ → Nat

end MqttSessions
