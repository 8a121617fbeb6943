import MqttSessions.Profile.Identity
import MqttSessions.Rehearsal
import MqttSessions.Session.Calls
import MqttSessions.Session.Steps

/-! # Runs of a session

A session is moved by its callers, its worker, its dispatcher and its ticker, and by the network
behind the transport, in any order. Here every party makes one **`Session.Move`** at a time, and a
*run* is a list of moves.

* **`Session.ask`**: what a caller's request does, as one step of that caller;
* **`Session.move?`**: one move of one party, `none` if that party has nothing to do. The worker may
  take an event of its link also while a command waits, since a command can be queued after the
  worker has looked for one;
* **`Session.run?`**: a list of moves, one after the other;
* **`Session.run?_induct`**: a run keeps whatever each of its moves keeps.

What one move of a party changes is the subject of the two modules after this one. -/

namespace MqttSessions

namespace Session

/-- What a caller may ask of a session. -/
inductive Request where
  | connect
  | disconnect
  | subscribe (topic : String) (qos : Qos) (color : String)
  | unsubscribe (topic : String)
  | publish (topic : String) (payload : List UInt8) (qos : Qos) (retain : Bool)
  | setEnabled (topic : String) (enabled : Bool)
  | clearHistory
  deriving DecidableEq, Repr

/-- One move of one party. The network may do to the transport what it likes. -/
inductive Move (τ : Type) where
  | ask (request : Request)
  | takeCommand
  | takeEvent
  | dispatch
  | tick
  | finishTicker
  | elapse (ms : Nat)
  | drift (change : τ → τ)

variable {τ : Type}

/-- Whether a move is the ticker's, the clock's or the network's. -/
def Move.isBackground : Move τ → Bool
  | .tick => true
  | .finishTicker => true
  | .elapse _ => true
  | .drift _ => true
  | _ => false

/-- What a caller's request does, as one step of that caller. -/
def ask (s : Session τ) : Request → Outcome × Session τ
  | .connect => s.requestConnect
  | .disconnect => s.requestDisconnect
  | .subscribe topic qos color => s.subscribe topic qos color
  | .unsubscribe topic => s.unsubscribe topic
  | .publish topic payload qos retain => s.publish topic payload qos retain
  | .setEnabled topic enabled => s.setEnabled topic enabled
  | .clearHistory => (.ok (), s.clearHistory)

/-- The transport has changed while nobody called it. -/
def drift (s : Session τ) (change : τ → τ) : Session τ :=
  { s with worker := { s.worker with transport := change s.worker.transport } }

section Transport

variable [Transport τ]

/-- One move of one party, `none` if that party has nothing to do. -/
def move? (s : Session τ) : Move τ → Option (Session τ)
  | .ask request => some (s.ask request).2
  | .takeCommand => s.takeCommand?
  | .takeEvent => s.takeEvent?
  | .dispatch => s.dispatch?
  | .tick => s.tick?
  | .finishTicker => s.finishTicker?
  | .elapse ms => some { s with now := s.now + ms }
  | .drift change => some (s.drift change)

/-- Moves made one after the other; `none` if one of them cannot be made. -/
def run? : Session τ → List (Move τ) → Option (Session τ)
  | s, [] => some s
  | s, move :: rest => (s.move? move).bind (run? · rest)

@[simp] theorem run?_nil (s : Session τ) : s.run? [] = some s := rfl

theorem run?_cons (s : Session τ) (move : Move τ) (rest : List (Move τ)) :
    s.run? (move :: rest) = (s.move? move).bind (run? · rest) := rfl

/-- **A run keeps whatever each of its moves keeps**, for the moves that are allowed in it. -/
theorem run?_induct (Keeps : Session τ → Prop) (Allowed : Move τ → Prop)
    (step : ∀ {s s' : Session τ} {move : Move τ},
      Allowed move → Keeps s → s.move? move = some s' → Keeps s')
    {s s' : Session τ} {moves : List (Move τ)} (allowed : ∀ move ∈ moves, Allowed move)
    (start : Keeps s) (run : s.run? moves = some s') : Keeps s' := by
  induction moves generalizing s with
  | nil =>
      obtain rfl := Option.some.inj run
      exact start
  | cons move rest ih =>
      rw [run?_cons] at run
      obtain ⟨next, made, remaining⟩ := Option.bind_eq_some_iff.mp run
      have kept : Keeps next := step (allowed move List.mem_cons_self) start made
      exact ih (fun other mem => allowed other (List.mem_cons_of_mem _ mem)) kept remaining

end Transport

/-- A new session over a rehearsal, on which runs can be tried out. -/
def rehearsed (plan : RehearsalPlan) : Session Rehearsal :=
  create (Profile.fresh 1 2 "local" "localhost" 1883) { plan } {}

/-- An attempt is cancelled while its acknowledgment is on its way, and the next attempt is
acknowledged. -/
def cancelledAttempt : List (Move Rehearsal) :=
  [.ask .connect, .takeCommand, .ask .disconnect, .takeEvent, .dispatch, .takeCommand, .dispatch,
    .ask .connect, .takeCommand, .takeEvent]

end Session

end MqttSessions
