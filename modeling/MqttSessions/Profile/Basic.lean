import MqttSessions.Qos
import MqttSessions.Protocol

/-! # Connection profiles

A **`Profile`** is what a user has said about one broker connection. Its id is given once and never
changes; all else is plain data that a connection attempt uses. -/

namespace MqttSessions

/-- The message that the broker sends for a client that is gone. -/
structure LastWill where
  topic : String
  qos : Qos
  retain : Bool
  payload : String
  deriving DecidableEq, Repr

/-- What a user has said about one broker connection. A keep-alive or a connect timeout of 0
leaves the choice to the application. -/
structure Profile where
  id : String
  name : String
  clientId : String
  protocol : Protocol
  host : String
  port : Nat
  username : String
  password : String
  useTls : Bool
  cleanSession : Bool
  qos : Qos
  description : String
  keepAliveSecs : Nat
  connectTimeoutSecs : Nat
  lastWill : Option LastWill
  deriving DecidableEq, Repr

namespace Profile

/-- The description of a connection that was given none. -/
def describe (name host : String) (port : Nat) : String :=
  name ++ "@" ++ host ++ ":" ++ toString port

/-- The description that a profile has when it is given none. -/
def defaultDescription (profile : Profile) : String :=
  describe profile.name profile.host profile.port

/-- Whether a profile has credentials: a user name makes them. -/
def hasCredentials (profile : Profile) : Bool := !profile.username.isEmpty

end Profile

end MqttSessions
