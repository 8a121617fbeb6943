import MqttSessions.Batch.Buffer

/-! # The batch ticker

A ticker hands over what is buffered at regular times: every period after its start. It stops when
a batch is not accepted, and when it is told to shut down or nobody is left to tell it; in the
latter two cases it hands over what is still buffered first.

Main definitions: **`Batch.Clock`**, when a ticker ticks; **`Batch.Desk`**, a buffer with a ticker
and its shutdown signal; and what a desk does: **`Desk.tick`**, **`Desk.signal`** and
**`Desk.dropSignal`**. -/

namespace MqttSessions

namespace Batch

/-! ## When a ticker ticks -/

/-- The times of a ticker, in milliseconds: every period after its start. -/
structure Clock where
  period : Nat
  start : Nat
  deriving DecidableEq, Repr

/-- The first tick after a time that is not before the start. -/
def Clock.next (clock : Clock) (time : Nat) : Nat :=
  clock.start + ((time - clock.start) / clock.period + 1) * clock.period

/-- Whether a ticker ticks after one time and not after another. -/
def Clock.ticksWithin (clock : Clock) (after upTo : Nat) : Bool := clock.next after ≤ upTo

/-! ## A buffer with a ticker -/

/-- How a ticker stands: at work, or stopped. -/
inductive Activity where
  | running
  | stopped
  deriving DecidableEq, Repr

/-- The signal that shuts a ticker down: it can still be given, or whoever could give it is gone. -/
inductive Signal where
  | held
  | dropped
  deriving DecidableEq, Repr

/-- A ticker: when it ticks, whether it is at work, and how many batches its consumer accepts. -/
structure Ticker where
  clock : Clock
  activity : Activity
  accepts : Option Nat
  signal : Signal
  deriving DecidableEq, Repr

/-- A buffer, the time, the ticker if one was started, and the batches it has handed over. -/
structure Desk where
  buffer : Buffer := .empty
  now : Nat := 0
  ticker : Option Ticker := none
  flushed : List (List Message) := []
  deriving Repr

namespace Desk

/-- Puts a message into the buffer. -/
def enqueue (desk : Desk) (message : Message) : Desk :=
  { desk with buffer := desk.buffer.enqueue message }

/-- Takes everything that is buffered. -/
def take (desk : Desk) : Option (List Message) × Desk :=
  (desk.buffer.take.1, { desk with buffer := desk.buffer.take.2 })

/-- Hands over what is buffered, if anything is: whether the consumer accepts it, and how many
batches it accepts from then on. -/
def flush (desk : Desk) (accepts : Option Nat) : Bool × Option Nat × Desk :=
  match desk.take with
  | (none, desk) => (true, accepts, desk)
  | (some batch, desk) =>
    let desk := { desk with flushed := desk.flushed ++ [batch] }
    match accepts with
    | none => (true, none, desk)
    | some 0 => (false, some 0, desk)
    | some (left + 1) => (true, some left, desk)

/-- What a running ticker does at one of its ticks. -/
def tick (desk : Desk) : Desk :=
  match desk.ticker with
  | some ticker =>
    if ticker.activity = .running then
      let (accepted, accepts, desk) := desk.flush ticker.accepts
      { desk with
        ticker := some { ticker with accepts, activity := if accepted then .running else .stopped } }
    else desk
  | none => desk

/-- A running ticker hands over what is still buffered and stops. -/
def stopTicker (desk : Desk) : Desk :=
  match desk.ticker with
  | some ticker =>
    if ticker.activity = .running then
      let (_, accepts, desk) := desk.flush ticker.accepts
      { desk with ticker := some { ticker with accepts, activity := .stopped } }
    else desk
  | none => desk

/-- Starts a ticker now, in the place of one whose signal is thereby dropped. A period of zero is
no period: such a ticker stops at once. -/
def start (desk : Desk) (period : Nat) (accepts : Option Nat) : Desk :=
  let desk := desk.stopTicker
  let activity := if period = 0 then Activity.stopped else .running
  { desk with ticker := some ⟨⟨period, desk.now⟩, activity, accepts, .held⟩ }

/-- Gives the shutdown signal a value: whether a ticker heard it, `none` if it cannot be given. -/
def signal (desk : Desk) (shutdown : Bool) : Option Bool × Desk :=
  match desk.ticker with
  | none => (none, desk)
  | some ticker =>
    if ticker.signal = .dropped then (none, desk)
    else if ticker.activity = .running then
      (some true, if shutdown then desk.stopTicker else desk)
    else (some false, desk)

/-- Drops the shutdown signal. -/
def dropSignal (desk : Desk) : Desk :=
  let desk := desk.stopTicker
  { desk with ticker := desk.ticker.map fun ticker => { ticker with signal := .dropped } }

/-- Lets time pass. Of the ticks that fall into it only the first one can find a message. -/
def advance (desk : Desk) (ms : Nat) : Desk :=
  let later := desk.now + ms
  let desk : Desk := match desk.ticker with
    | some ticker =>
      if ticker.activity = .running ∧ ticker.clock.ticksWithin desk.now later then desk.tick
      else desk
    | none => desk
  { desk with now := later }

end Desk

end Batch

end MqttSessions
