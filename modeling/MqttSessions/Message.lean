import MqttSessions.Qos
import MqttSessions.Text.Utf8

/-! # Messages

A **`Message`** is a payload that was published or received under a topic. -/

namespace MqttSessions

/-- Whether a message left this client or came to it. -/
inductive Direction where
  | published
  | received
  deriving DecidableEq, Repr

/-- A payload published or received under a topic. -/
structure Message where
  topic : String
  payload : List UInt8
  qos : Qos
  retain : Bool
  direction : Direction
  deriving DecidableEq, Repr

/-- The payload of a message as text. -/
def Message.text (message : Message) : String := Utf8.lossy message.payload

end MqttSessions
