import MqttSessions.Mqtt.Packet
import MqttSessions.Text.Utf8
import MqttSessions.Transport

/-! # What a report of a connection means

Both revisions of the protocol come down to one **`Mqtt.Route`**, and a route to what a session is to
see of it, if anything: **`Mqtt.Route.event?`**. -/

namespace MqttSessions

namespace Mqtt

/-- What a report means for the client. -/
inductive Route where
  | acknowledged (success : Bool) (code : Nat)
  | message (topic : String) (payload : List UInt8) (qos : Qos) (retain : Bool)
  | disconnected
  | subscribed (codes : List Nat)
  | housekeeping (text : String)
  | outgoing
  deriving DecidableEq, Repr

/-! ## Return codes of subscriptions -/

/-- The first return code that means a failure. -/
def firstFailure : Nat := 0x80

/-- The return code of a filter that was granted or refused. -/
def SubscribeCode311.number : SubscribeCode311 → Nat
  | granted qos => qos.level
  | failure => firstFailure

/-- The return code of a filter that was granted or refused; all refusals count as one. -/
def SubscribeCode5.number : SubscribeCode5 → Nat
  | granted qos => qos.level
  | refused _ => firstFailure

/-- Whether return codes grant every filter. -/
def allGranted (codes : List Nat) : Bool := !codes.any fun code => firstFailure ≤ code

/-- The wording for return codes that do not grant every filter. -/
def subscriptionFailure (codes : List Nat) : String :=
  "Subscription failed with return codes: [" ++ ", ".intercalate (codes.map toString) ++ "]"

/-- Whether a subscription succeeded, or the wording of its failure. -/
def checkSubscription (codes : List Nat) : Except String Unit :=
  if allGranted codes then .ok () else .error (subscriptionFailure codes)

/-! ## Packets without a meaning for a session -/

/-- The name of an acknowledgement. -/
def Ack.name : Ack → String
  | puback => "PubAck"
  | pubrec => "PubRec"
  | pubrel => "PubRel"
  | pubcomp => "PubComp"

/-- The name of what a client asks for. -/
def Demand.name : Demand → String
  | connect => "Connect"
  | subscribe => "Subscribe"
  | unsubscribe => "Unsubscribe"

/-- A packet that only a client should send, written with its fields. -/
def Demand.text (kind : Demand) (fields : String) : String := kind.name ++ "(" ++ fields ++ ")"

/-- A packet that only carries a packet id, written with its fields. -/
def writePacket (name fields : String) : String :=
  name ++ "(" ++ name ++ " \x7b " ++ fields ++ " \x7d)"

/-- A packet id as a field. -/
def packetIdField (packetId : Nat) : String := "pkid: " ++ toString packetId

/-! ## Routes -/

/-- What a packet of revision 3.1.1 means. -/
def Incoming311.route : Incoming311 → Route
  | connack code _ => .acknowledged (code == .success) code.number
  | publish packet => .message packet.topic packet.payload packet.qos packet.retain
  | suback _ codes => .subscribed (codes.map SubscribeCode311.number)
  | disconnect => .disconnected
  | unsuback packetId => .housekeeping (writePacket "UnsubAck" (packetIdField packetId))
  | ack kind packetId => .housekeeping (writePacket kind.name (packetIdField packetId))
  | pingRequest => .housekeeping "PingReq"
  | pingResponse => .housekeeping "PingResp"
  | demand kind fields => .housekeeping (kind.text fields)

/-- What a packet of revision 5.0 means. A topic that is no text is read as well as it can be. -/
def Incoming5.route : Incoming5 → Route
  | connack code _ => .acknowledged (code == .success) code.number
  | publish packet =>
    .message (Utf8.lossy packet.topic) packet.payload packet.qos packet.retain
  | suback _ codes => .subscribed (codes.map SubscribeCode5.number)
  | disconnect => .disconnected
  | unsuback packetId details =>
    .housekeeping (writePacket "UnsubAck" (packetIdField packetId ++ ", " ++ details))
  | ack kind packetId details =>
    .housekeeping (writePacket kind.name (packetIdField packetId ++ ", " ++ details))
  | pingRequest => .housekeeping "PingReq(PingReq)"
  | pingResponse => .housekeeping "PingResp(PingResp)"
  | demand kind fields => .housekeeping (kind.text fields)

/-- What a report of revision 3.1.1 means. -/
def Report311.route : Report311 → Route
  | incoming packet => packet.route
  | outgoing _ => .outgoing

/-- What a report of revision 5.0 means. -/
def Report5.route : Report5 → Route
  | incoming packet => packet.route
  | outgoing _ => .outgoing

namespace Route

/-- Whether a session is to see anything of a route. -/
def isMeaningful : Route → Bool
  | housekeeping _ => false
  | outgoing => false
  | _ => true

/-- Two hexadecimal digits of a code. -/
def codeText (code : Nat) : String :=
  "0x" ++ String.ofList
    (if code < 16 then ['0', Nat.digitChar code] else Nat.toDigits 16 code)

/-- What a session sees of a route. -/
def event? : Route → Option LinkEvent
  | acknowledged true _ => some .connected
  | acknowledged false code =>
    some (.disconnected ("Connection refused with code " ++ codeText code))
  | message topic payload qos retain => some (.message topic payload qos retain)
  | disconnected => some (.disconnected "Broker closed the connection")
  | subscribed codes => some (.subscribeAck (allGranted codes))
  | housekeeping _ => none
  | outgoing => none

/-- Whether a route acknowledges the connection. -/
def isAcknowledgement : Route → Bool
  | acknowledged success _ => success
  | _ => false

end Route

end Mqtt

end MqttSessions
