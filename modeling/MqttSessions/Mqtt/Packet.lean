import MqttSessions.Qos

/-! # What comes in over a connection

The packets that come in, in the form that either revision of the protocol gives them, and what the
client itself sends, so far as it is reported. The two revisions differ in their reason codes and in
that revision 5.0 takes a topic as octets. Packets that are only a client's to send may come in as well,
and mean nothing then.

Main definitions: **`Mqtt.Incoming311`**, **`Mqtt.Incoming5`**, **`Mqtt.Outgoing`**, and
**`Mqtt.Report311`**, **`Mqtt.Report5`**, what a connection reports. -/

namespace MqttSessions

namespace Mqtt

/-! ## Reason codes -/

/-- How a broker of revision 3.1.1 answers a connection attempt. -/
inductive ConnectCode311 where
  | success
  | refusedProtocolVersion
  | badClientId
  | serviceUnavailable
  | badUserNamePassword
  | notAuthorized
  deriving DecidableEq, Repr

/-- How a broker of revision 5.0 answers a connection attempt. -/
inductive ConnectCode5 where
  | success
  | refusedProtocolVersion
  | badClientId
  | serviceUnavailable
  | unspecifiedError
  | malformedPacket
  | protocolError
  | implementationSpecificError
  | unsupportedProtocolVersion
  | clientIdentifierNotValid
  | badUserNamePassword
  | notAuthorized
  | serverUnavailable
  | serverBusy
  | banned
  | badAuthenticationMethod
  | topicNameInvalid
  | packetTooLarge
  | quotaExceeded
  | payloadFormatInvalid
  | retainNotSupported
  | qosNotSupported
  | useAnotherServer
  | serverMoved
  | connectionRateExceeded
  deriving DecidableEq, Repr

namespace ConnectCode311

/-- All answers, in the order in which they are numbered. -/
def all : List ConnectCode311 :=
  [success, refusedProtocolVersion, badClientId, serviceUnavailable, badUserNamePassword,
    notAuthorized]

/-- The number of an answer. -/
def number (code : ConnectCode311) : Nat := all.idxOf code

end ConnectCode311

namespace ConnectCode5

/-- All answers, in the order in which they are numbered. -/
def all : List ConnectCode5 :=
  [success, refusedProtocolVersion, badClientId, serviceUnavailable, unspecifiedError,
    malformedPacket, protocolError, implementationSpecificError, unsupportedProtocolVersion,
    clientIdentifierNotValid, badUserNamePassword, notAuthorized, serverUnavailable, serverBusy,
    banned, badAuthenticationMethod, topicNameInvalid, packetTooLarge, quotaExceeded,
    payloadFormatInvalid, retainNotSupported, qosNotSupported, useAnotherServer, serverMoved,
    connectionRateExceeded]

/-- The number of an answer. -/
def number (code : ConnectCode5) : Nat := all.idxOf code

end ConnectCode5

/-- How a broker of revision 3.1.1 answers one topic filter of a subscription. -/
inductive SubscribeCode311 where
  | granted (qos : Qos)
  | failure
  deriving DecidableEq, Repr

/-- Why a broker of revision 5.0 refuses a topic filter. -/
inductive SubscribeRefusal5 where
  | failure
  | unspecified
  | implementationSpecific
  | notAuthorized
  | topicFilterInvalid
  | pkidInUse
  | quotaExceeded
  | sharedSubscriptionsNotSupported
  | subscriptionIdNotSupported
  | wildcardSubscriptionsNotSupported
  deriving DecidableEq, Repr

/-- How a broker of revision 5.0 answers one topic filter of a subscription. -/
inductive SubscribeCode5 where
  | granted (qos : Qos)
  | refused (reason : SubscribeRefusal5)
  deriving DecidableEq, Repr

/-! ## Packets -/

/-- The acknowledgements of published messages. -/
inductive Ack where
  | puback
  | pubrec
  | pubrel
  | pubcomp
  deriving DecidableEq, Repr

/-- The packets that a client sends to ask a broker for something. -/
inductive Demand where
  | connect
  | subscribe
  | unsubscribe
  deriving DecidableEq, Repr

/-- A published message on its way; `Topic` is the form of its topic. -/
structure Publish (Topic : Type) where
  topic : Topic
  payload : List UInt8
  qos : Qos
  retain : Bool
  dup : Bool
  packetId : Nat
  deriving DecidableEq, Repr

/-- A packet of revision 3.1.1. What a client would send comes with its fields as they are written out. -/
inductive Incoming311 where
  | connack (code : ConnectCode311) (sessionPresent : Bool)
  | publish (packet : Publish String)
  | suback (packetId : Nat) (codes : List SubscribeCode311)
  | unsuback (packetId : Nat)
  | ack (kind : Ack) (packetId : Nat)
  | pingRequest
  | pingResponse
  | disconnect
  | demand (kind : Demand) (fields : String)
  deriving DecidableEq, Repr

/-- A packet of revision 5.0. An acknowledgement may give reasons and properties, here as they are
written out, and so are the fields of what a client would send. -/
inductive Incoming5 where
  | connack (code : ConnectCode5) (sessionPresent : Bool)
  | publish (packet : Publish (List UInt8))
  | suback (packetId : Nat) (codes : List SubscribeCode5)
  | unsuback (packetId : Nat) (details : String := "reasons: [], properties: None")
  | ack (kind : Ack) (packetId : Nat) (details : String := "reason: Success, properties: None")
  | pingRequest
  | pingResponse
  | disconnect
  | demand (kind : Demand) (fields : String)
  deriving DecidableEq, Repr

/-- What the client does on its side, so far as it is reported: what it sends, and that it waits for an
acknowledgement before it sends more under the same packet id. -/
inductive Outgoing where
  | publish (packetId : Nat)
  | subscribe (packetId : Nat)
  | unsubscribe (packetId : Nat)
  | ack (kind : Ack) (packetId : Nat)
  | pingRequest
  | pingResponse
  | disconnect
  | awaitAck (packetId : Nat)
  deriving DecidableEq, Repr

/-- What a connection of revision 3.1.1 reports. -/
inductive Report311 where
  | incoming (packet : Incoming311)
  | outgoing (packet : Outgoing)
  deriving DecidableEq, Repr

/-- What a connection of revision 5.0 reports. -/
inductive Report5 where
  | incoming (packet : Incoming5)
  | outgoing (packet : Outgoing)
  deriving DecidableEq, Repr

end Mqtt

end MqttSessions
