import MqttSessions.Transport

/-! # Rehearsals

A **`Rehearsal`** is a transport without a network. It notes every call, acknowledges connections and
subscriptions by itself if it is told to, and yields the events that a stand-in for the broker has
queued. Connecting and disconnecting throw away what is queued. Chosen kinds of calls go wrong
after they have been carried out. -/

namespace MqttSessions

/-- The kinds of calls. -/
inductive CallKind where
  | connect
  | disconnect
  | subscribe
  | unsubscribe
  | publish
  deriving DecidableEq, Repr

/-- The kind of a call. -/
def Call.kind : Call → CallKind
  | .connect _ => .connect
  | .disconnect => .disconnect
  | .subscribe .. => .subscribe
  | .unsubscribe _ => .unsubscribe
  | .publish .. => .publish

/-- What a rehearsal is told beforehand. -/
structure RehearsalPlan where
  autoConnack : Bool := true
  autoSuback : Bool := true
  failConnect : Bool := false
  fail : List CallKind := []
  hang : List CallKind := []
  panic : List CallKind := []
  deriving DecidableEq, Repr

/-- A transport without a network. -/
structure Rehearsal where
  plan : RehearsalPlan
  events : List LinkEvent := []
  calls : List Call := []
  deriving DecidableEq, Repr

namespace Rehearsal

/-- The failure of a connection attempt that was planned to fail. -/
def connectFailure : TransportError := .connectionFailed "Mock connection failure"

/-- Queues an event. -/
def queue (r : Rehearsal) (event : LinkEvent) : Rehearsal :=
  { r with events := r.events ++ [event] }

/-- Carries out a call as if nothing were to go wrong with it. -/
def carryOut (r : Rehearsal) (call : Call) : Answer × Rehearsal :=
  let r := { r with calls := r.calls ++ [call] }
  match call with
  | .connect _ =>
    if r.plan.failConnect then (.failed connectFailure, r)
    else
      let r := { r with events := [] }
      (.done, if r.plan.autoConnack then r.queue .connected else r)
  | .disconnect => (.done, { r with events := [] })
  | .subscribe .. => (.done, if r.plan.autoSuback then r.queue (.subscribeAck true) else r)
  | _ => (.done, r)

/-- Carries out a call, and lets it go wrong if that was planned. -/
def perform (call : Call) (r : Rehearsal) : Answer × Rehearsal :=
  let (answer, r) := r.carryOut call
  if r.plan.panic.contains call.kind then (.fatal, r)
  else if r.plan.hang.contains call.kind then (.never, r)
  else if r.plan.fail.contains call.kind then (.failed .notConnected, r)
  else (answer, r)

/-- The next event that is queued. -/
def poll (r : Rehearsal) : Option (LinkEvent × Rehearsal) :=
  match r.events with
  | [] => none
  | event :: rest => some (event, { r with events := rest })

instance : Transport Rehearsal where
  perform := perform
  poll := poll
  load r := r.events.length

end Rehearsal

end MqttSessions
