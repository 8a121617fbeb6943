import MqttSessions.Session.Calls
import MqttSessions.Session.Follower
import MqttSessions.Session.Steps

/-! # Running a session

Between two steps of its callers a session settles: no time passes, and worker, ticker and
dispatcher move as long as one of them has something to do. The worker goes first and moves as
often as it can, then the ticker if it has been told to stop, then the dispatcher; then the next
round begins. The follower reads before the first round and after each one. Time passes only where
a caller waits for it.

Main definitions: **`Session.settle`**, **`Session.advance`**, **`Session.waitFor`** and
**`Session.close`**. -/

namespace MqttSessions

/-! ## Rounds -/

/-- Repeats a move until it cannot be made, at most `fuel` times. -/
def exhaust {α : Type} (move : α → Option α) : (fuel : Nat) → α → α
  | 0, a => a
  | fuel + 1, a =>
    match move a with
    | none => a
    | some a => exhaust move fuel a

namespace Session

variable {τ : Type} [Transport τ]

/-- A bound on the moves that are left: a command can bring an event, an event a report, and a
report a command for each subscription. -/
def workLeft (s : Session τ) : Nat :=
  (2 * s.commands.length + Transport.load s.worker.transport + s.reports.length + 2)
    * (2 * s.subscriptions.size + 4)

/-- All that the worker can do now. -/
def runWorker (s : Session τ) : Session τ := exhaust work? s.workLeft s

omit [Transport τ] in
/-- All that the dispatcher can do now. -/
def runDispatcher (s : Session τ) : Session τ := exhaust dispatch? s.reports.length s

/-- One round: the worker, the ticker if it has been told to stop, and the dispatcher; `none` if
nobody had anything to do. -/
def round? (s : Session τ) : Option (Session τ) :=
  let worked := s.runWorker
  let stopped := (worked.finishTicker?).getD worked
  if s.work?.isNone && s.finishTicker?.isNone && stopped.reports.isEmpty then none
  else some stopped.runDispatcher.follow

/-- Lets the session move until nobody has anything to do. No time passes. -/
def settle (s : Session τ) : Session τ := exhaust round? s.workLeft s.follow

/-! ## Time -/

/-- Lets time pass. Of the ticks that fall into it only the first one can find a message, since no
message comes in while time passes. -/
def advance (s : Session τ) (ms : Nat) : Session τ :=
  let s := s.settle
  let later := s.now + ms
  let ticked :=
    if s.clock.ticksWithin s.now later then (s.tick?.getD s).settle else s
  { ticked with now := later }

/-- Waits until a state is reached, at most for a time. Whoever has no time looks once. -/
def waitFor (s : Session τ) (target : ConnectionState) (ms : Nat) : Outcome × Session τ :=
  if s.state = target then (.ok (), s)
  else if ms = 0 then (.error (.timeout target s.state (.ofMillis ms)), s)
  else
    let settled := s.settle
    if settled.state = target then (.ok (), settled)
    else
      let late := settled.advance ms
      (.error (.timeout target late.state (.ofMillis ms)), late)

/-! ## Closing -/

/-- Worker, ticker and dispatcher stop where they stand. -/
def haltAll (s : Session τ) : Session τ := { s.stopWorker with ticker := .stopped, reports := [] }

/-- Worker, ticker and dispatcher are told to stop, and whoever does not stop in time is stopped. -/
def stopAll (s : Session τ) : Session τ :=
  if s.settings.disconnectTimeout = 0 then s.haltAll
  else
    let told := ((s.send? .shutdown).getD s).stopTicker.settle
    if told.worker.isStopped then told
    else (told.advance told.settings.disconnectTimeout).stopWorker.settle

/-- Tears a session down: ends the connection, waits for it at most for the disconnect timeout,
stops all parties, and ends in the disconnected state. Closing a second time does nothing. -/
def close (s : Session τ) : Session τ :=
  if s.closed then s
  else
    let s := { s with closed := true }
    let asked :=
      if s.state = .connected || s.state = .connecting then s.requestDisconnect.2 else s
    let waited :=
      if asked.state = .disconnected then asked
      else (asked.waitFor .disconnected asked.settings.disconnectTimeout).2
    waited.stopAll.forceDisconnected

/-- Abandons a session: worker and ticker stop where they stand. -/
def abandon (s : Session τ) : Session τ :=
  { s.stopWorker with ticker := .stopped, closed := true }

end Session

end MqttSessions
