import MqttSessions.Connection
import MqttSessions.Store
import MqttSessions.Text.Quoted
import MqttSessions.Text.Span
import MqttSessions.Topic

/-! # Why a session or a registry refuses

**`SessionFailure`** lists the reasons; each belongs to one of four kinds and has one wording. -/

namespace MqttSessions

/-- What a caller may ask of a session that depends on its state. -/
inductive Operation where
  | connect
  | disconnect
  | subscribe
  | unsubscribe
  | publish
  deriving DecidableEq, Repr

/-- The name of an operation. -/
def Operation.text : Operation → String
  | connect => "connect"
  | disconnect => "disconnect"
  | subscribe => "subscribe"
  | unsubscribe => "unsubscribe"
  | publish => "publish"

/-- Why a session or a registry refuses. -/
inductive SessionFailure where
  | invalidState (operation : String) (state : ConnectionState)
  | duplicateSubscription (topic : String)
  | unknownSubscription (topic : String)
  | invalidTopic (topic reason : String)
  | duplicateProfile (id : String)
  | notFound (id : String)
  | persistence (failure : Store.Failure)
  | workerUnavailable
  | timeout (expected state : ConnectionState) (span : Span)
  deriving DecidableEq, Repr

namespace SessionFailure

/-- The kinds of failures. -/
inductive Kind where
  | preconditionViolation
  | notFound
  | persistence
  | transportFailure
  deriving DecidableEq, Repr

/-- The kind of a failure. -/
def kind : SessionFailure → Kind
  | invalidState .. => .preconditionViolation
  | duplicateSubscription _ => .preconditionViolation
  | unknownSubscription _ => .preconditionViolation
  | invalidTopic .. => .preconditionViolation
  | duplicateProfile _ => .preconditionViolation
  | notFound _ => .notFound
  | persistence _ => .persistence
  | workerUnavailable => .transportFailure
  | timeout .. => .transportFailure

/-- The wording of a failure. -/
def message : SessionFailure → String
  | invalidState operation state => "Cannot " ++ operation ++ " while " ++ state.text
  | duplicateSubscription topic => "Already subscribed to " ++ topic
  | unknownSubscription topic => "Not subscribed to " ++ topic
  | invalidTopic topic reason => "Invalid topic " ++ Text.quoted topic ++ ": " ++ reason
  | duplicateProfile id => "Profile " ++ id ++ " already exists"
  | notFound id => "No profile with id " ++ id
  | persistence failure => "Persistence error: " ++ failure.message
  | workerUnavailable => "Session worker is no longer running"
  | timeout expected state span =>
    "Timed out after " ++ span.text ++ " waiting for " ++ expected.text ++ " (currently "
      ++ state.text ++ ")"

end SessionFailure

end MqttSessions
