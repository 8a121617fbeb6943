import MqttSessions.Session.Basic

/-! # What callers do with a session

Each call is one step of its caller: it checks its arguments and the state, changes what the session
keeps, and queues a command for the worker. It answers with a failure or with nothing, and the
session afterwards comes with the answer, since some calls change it before they fail. -/

namespace MqttSessions

namespace Session

variable {τ : Type}

/-- The outcome of a call. -/
abbrev Outcome := Except SessionFailure Unit

/-! ## Connecting -/

/-- Starts connecting, from the disconnected state. If no worker is left to connect, the attempt
has failed at once. -/
def requestConnect (s : Session τ) : Outcome × Session τ :=
  match s.transition? .connectRequested with
  | none => (.error (.invalidState Operation.connect.text s.state), s)
  | some s =>
    match s.send? (.connect s.profile) with
    | some s => (.ok (), s)
    | none => (.error .workerUnavailable, s.apply .connectFailed)

/-- Starts disconnecting, while connected or while an attempt is under way. If no worker is left to
disconnect, there is nothing to wait for. -/
def requestDisconnect (s : Session τ) : Outcome × Session τ :=
  match s.transition? .disconnectRequested with
  | none => (.error (.invalidState Operation.disconnect.text s.state), s)
  | some s =>
    match s.send? .disconnect with
    | some s => (.ok (), s)
    | none => (.error .workerUnavailable, s.forceDisconnected)

/-! ## Subscriptions and messages -/

/-- Subscribes to a topic filter. The subscription is recorded at once; the broker's answer comes
later. -/
def subscribe (s : Session τ) (topic : String) (qos : Qos) (color : String) :
    Outcome × Session τ :=
  match Topic.checkFilter topic with
  | .error fault => (.error (.invalidTopic topic fault.message), s)
  | .ok () =>
    if !s.state.acceptsCommands then
      (.error (.invalidState Operation.subscribe.text s.state), s)
    else match s.subscriptions.add? topic qos color with
      | none => (.error (.duplicateSubscription topic), s)
      | some subscriptions =>
        match { s with subscriptions }.send? (.subscribe topic qos) with
        | some s => (.ok (), s)
        | none =>
          (.error .workerUnavailable,
            { s with subscriptions := (subscriptions.remove? topic).getD subscriptions })

/-- Removes a subscription, here and at the broker. -/
def unsubscribe (s : Session τ) (topic : String) : Outcome × Session τ :=
  match Topic.checkFilter topic with
  | .error fault => (.error (.invalidTopic topic fault.message), s)
  | .ok () =>
    if !s.state.acceptsCommands then
      (.error (.invalidState Operation.unsubscribe.text s.state), s)
    else match s.subscriptions.remove? topic with
      | none => (.error (.unknownSubscription topic), s)
      | some subscriptions =>
        match { s with subscriptions }.send? (.unsubscribe topic) with
        | some s => (.ok (), s)
        | none => (.error .workerUnavailable, { s with subscriptions })

/-- Records a message that has been queued for the broker. -/
def recordPublished (s : Session τ) (message : Message) : Session τ :=
  { s with
    history := s.history ++ [message]
    published := s.published + 1 }.announce (.published message)

/-- Publishes a message. It is in the history at once. -/
def publish (s : Session τ) (topic : String) (payload : List UInt8) (qos : Qos) (retain : Bool) :
    Outcome × Session τ :=
  match Topic.checkName topic with
  | .error fault => (.error (.invalidTopic topic fault.message), s)
  | .ok () =>
    if !s.state.acceptsCommands then
      (.error (.invalidState Operation.publish.text s.state), s)
    else match s.send? (.publish topic payload qos retain) with
      | none => (.error .workerUnavailable, s)
      | some s => (.ok (), s.recordPublished ⟨topic, payload, qos, retain, .published⟩)

/-- Shows or hides a subscription. Nothing is sent. -/
def setEnabled (s : Session τ) (topic : String) (enabled : Bool) : Outcome × Session τ :=
  match s.subscriptions.setEnabled? topic enabled with
  | some subscriptions => (.ok (), { s with subscriptions })
  | none => (.error (.unknownSubscription topic), s)

/-- Forgets the message history. -/
def clearHistory (s : Session τ) : Session τ := { s with history := [] }

end Session

end MqttSessions
