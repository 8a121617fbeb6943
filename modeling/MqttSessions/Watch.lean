import MqttSessions.Console
import MqttSessions.Session.Run

/-! # Watching a session

A **`Watch`** reads what a session announces, one announcement at a time, and prints the messages that
came in. It ends with the first loss of the connection that it reads. A watch that falls behind
says so and goes on with what is left.

Main definitions: **`Watch.read?`**, the next step of a watch, and **`Watch.run`**, all steps that can
be made. -/

namespace MqttSessions

/-- A reader of a session's announcements: how far it has read, what it has printed, and whether it
has ended. -/
structure Watch where
  position : Nat
  lines : List Line := []
  ended : Bool := false
  deriving Repr

namespace Watch

/-- The part of the program that watches belong to, in log entries. -/
def target : String := "mqttdesk"

/-- A watch that starts now. -/
def start (feed : Feed SessionEvent) : Watch := { position := feed.position }

/-- Prints a line. -/
def print (w : Watch) (line : Line) : Watch := { w with lines := w.lines ++ [line] }

/-- What a watch does with what it reads. -/
def take (w : Watch) : Feed.Reading SessionEvent → Watch
  | .item (.received batch) => { w with lines := w.lines ++ batch.map .message }
  | .item (.subscriptionAcknowledged false) =>
    w.print (.entry .warn target "Broker rejected a subscription" [])
  | .item (.stateChanged .disconnected) =>
    { w.print (.entry .error target "Connection lost" []) with ended := true }
  | .item _ => w
  | .missed count =>
    w.print (.entry .warn target "Output fell behind" [("skipped", .natural count)])

/-- The next step of a watch, if it has not ended and there is something to read. -/
def read? (w : Watch) (feed : Feed SessionEvent) : Option Watch :=
  if w.ended then none
  else (feed.next? w.position).map fun (reading, position) => { w with position }.take reading

/-- All steps of a watch that can be made. -/
def run (w : Watch) (feed : Feed SessionEvent) : Watch :=
  exhaust (fun w => w.read? feed) (feed.position + 1) w

/-- The messages that a watch has printed. -/
def messages (w : Watch) : List Message :=
  w.lines.filterMap fun line =>
    match line with
    | .message message => some message
    | _ => none

end Watch

end MqttSessions
