import MqttSessions.Proofs.Session.Effects

/-! # Calls that share a lock

The subscriptions of a session are behind a lock. Whoever changes them checks the state, makes the
change and queues a command for it while holding the lock. Whoever asks for the end of the
connection, the last step of closing, and the dispatcher make their transitions into and out of the
connected state while holding it. Publishing does not take it.

Here several callers and the dispatcher go through their steps one at a time, in any order: to take
the lock, to check the state, to change the list, to make a transition, to queue a command.

* **`Visit.next?`**: the next step of a caller, and **`Visit.Went`**, what it does;
* **`Locked.step?`** and **`Locked.run?`**: one step of somebody, and steps one after the other.
  Worker, ticker, clock and network move in between as they do in any run;
* **`Locked.run?_visit`** and **`Locked.run?_dispatcher`**: a caller or the dispatcher whose steps
  follow each other does what the call or the dispatcher does in one step. -/

namespace MqttSessions

open Session

/-- Whoever asks for the end of a connection finds it ending. -/
theorem ConnectionState.next?_disconnectRequested {state next : ConnectionState}
    (legal : state.next? .disconnectRequested = some next) : next = .disconnecting := by
  cases state <;> cases legal <;> rfl

/-! ## Callers -/

/-- A change of the subscriptions. -/
inductive Change where
  | add (topic : String) (qos : Qos) (color : String)
  | remove (topic : String)
  deriving DecidableEq, Repr

namespace Change

/-- The topic filter of a change. -/
def topic : Change → String
  | add topic _ _ => topic
  | remove topic => topic

/-- The operation that makes a change. -/
def operation : Change → Operation
  | add .. => .subscribe
  | remove _ => .unsubscribe

/-- The subscriptions after a change, if it can be made. -/
def make? (subs : Subscriptions) : Change → Option Subscriptions
  | add topic qos color => subs.add? topic qos color
  | remove topic => subs.remove? topic

/-- Why a change cannot be made. -/
def refusal : Change → SessionFailure
  | add topic _ _ => .duplicateSubscription topic
  | remove topic => .unknownSubscription topic

/-- The command that goes with a change. -/
def command : Change → Command
  | add topic qos _ => .subscribe topic qos
  | remove topic => .unsubscribe topic

/-- What becomes of a change if nobody is left to take its command: a subscription that was added is
taken back, one that was removed is not. -/
def undo (subs : Subscriptions) : Change → Subscriptions
  | add topic _ _ => (subs.remove? topic).getD subs
  | remove _ => subs

end Change

/-- What callers do at the same time. -/
inductive Errand where
  | change (change : Change)
  | publish (topic : String) (payload : List UInt8) (qos : Qos) (retain : Bool)
  | disconnect
  /-- The last step of closing a session. -/
  | force
  deriving DecidableEq, Repr

/-- Whether an errand takes the lock. -/
def Errand.isLocking : Errand → Bool
  | .publish .. => false
  | _ => true

/-- What an errand does if it is done in one step. -/
def Errand.run {τ : Type} (s : Session τ) : Errand → Outcome × Session τ
  | .change (.add topic qos color) => s.ask (.subscribe topic qos color)
  | .change (.remove topic) => s.ask (.unsubscribe topic)
  | .publish topic payload qos retain => s.ask (.publish topic payload qos retain)
  | .disconnect => s.ask .disconnect
  | .force => (.ok (), s.forceDisconnected)

/-- Changing the list in one step, whichever the change. -/
theorem Errand.run_change {τ : Type} (s : Session τ) (change : Change) :
    (Errand.change change).run s =
      match Topic.checkFilter change.topic with
      | .error fault => (.error (.invalidTopic change.topic fault.message), s)
      | .ok () =>
        if !s.state.acceptsCommands then
          (.error (.invalidState change.operation.text s.state), s)
        else match change.make? s.subscriptions with
          | none => (.error change.refusal, s)
          | some subscriptions =>
            match send? { s with subscriptions } change.command with
            | some s => (.ok (), s)
            | none =>
              (.error .workerUnavailable, { s with subscriptions := change.undo subscriptions }) := by
  cases change <;> rfl

/-- How far a caller has come. -/
inductive Place where
  /-- Nothing has been done. -/
  | arrived
  /-- The lock is held. -/
  | inside
  /-- The session has been found connected. -/
  | admitted
  /-- The list of subscriptions has been changed. -/
  | recorded
  /-- The message has been queued. -/
  | queued
  /-- The transition that ends the connection has been made, and the lock has been given back. -/
  | parted
  /-- The call that ended the connection has returned. -/
  | gone (outcome : Outcome)
  /-- Any other call has returned. -/
  | done (outcome : Outcome)

/-- Whether the transition that ends the connection has been made. -/
def Place.isParted : Place → Bool
  | .parted => true
  | .gone _ => true
  | _ => false

/-- What a call has returned. -/
def Place.outcome? : Place → Option Outcome
  | .gone outcome => some outcome
  | .done outcome => some outcome
  | _ => none

/-- A caller on its errand. -/
structure Visit where
  errand : Errand
  place : Place

namespace Visit

/-- Whether a caller holds the lock. -/
def holds (visit : Visit) : Bool :=
  match visit.place with
  | .inside => true
  | .admitted => visit.errand.isLocking
  | .recorded => true
  | _ => false

variable {τ : Type}

/-- Whoever finds the session connected is admitted. -/
def check (s : Session τ) (operation : Operation) : Session τ × Place :=
  if s.state.acceptsCommands then (s, .admitted)
  else (s, .done (.error (.invalidState operation.text s.state)))

/-- The next step of a caller, with the session afterwards; `none` if it waits for the lock, or has
returned. -/
def next? (s : Session τ) (free : Bool) (visit : Visit) : Option (Session τ × Place) :=
  match visit.errand, visit.place with
  | .change change, .arrived =>
    match Topic.checkFilter change.topic with
    | .error fault => some (s, .done (.error (.invalidTopic change.topic fault.message)))
    | .ok () => if free then some (s, .inside) else none
  | .change change, .inside => some (check s change.operation)
  | .change change, .admitted =>
    match change.make? s.subscriptions with
    | none => some (s, .done (.error change.refusal))
    | some subscriptions => some ({ s with subscriptions }, .recorded)
  | .change change, .recorded =>
    match s.send? change.command with
    | some s => some (s, .done (.ok ()))
    | none =>
      some ({ s with subscriptions := change.undo s.subscriptions },
        .done (.error .workerUnavailable))
  | .publish topic .., .arrived =>
    match Topic.checkName topic with
    | .error fault => some (s, .done (.error (.invalidTopic topic fault.message)))
    -- nobody is kept from ending the connection after this check
    | .ok () => some (check s .publish)
  | .publish topic payload qos retain, .admitted =>
    match s.send? (.publish topic payload qos retain) with
    | none => some (s, .done (.error .workerUnavailable))
    | some s => some (s, .queued)
  | .publish topic payload qos retain, .queued =>
    some (s.recordPublished ⟨topic, payload, qos, retain, .published⟩, .done (.ok ()))
  | .disconnect, .arrived => if free then some (s, .inside) else none
  | .disconnect, .inside =>
    match s.transition? .disconnectRequested with
    | none => some (s, .done (.error (.invalidState Operation.disconnect.text s.state)))
    | some s => some (s, .parted)
  | .disconnect, .parted =>
    -- the lock has been given back before the command is queued
    match s.send? .disconnect with
    | some s => some (s, .gone (.ok ()))
    | none => some (s.forceDisconnected, .gone (.error .workerUnavailable))
  | .force, .arrived => if free then some (s, .inside) else none
  | .force, .inside => some (s.forceDisconnected, .done (.ok ()))
  | _, _ => none

/-- What a step of a caller does to the session, and where the caller stands afterwards. -/
inductive Went (s : Session τ) (free : Bool) (visit : Visit) : Session τ → Place → Prop
  /-- The errand is refused, and the session is left alone. -/
  | refused (failure : SessionFailure) : Went s free visit s (.done (.error failure))
  /-- The lock has been free, and is taken. -/
  | entered (unlocked : free = true) : Went s free visit s .inside
  /-- The session has been found connected, under the lock if the errand takes it. -/
  | admitted (connected : s.state = .connected)
      (holds : visit.errand.isLocking = true → visit.holds = true) : Went s free visit s .admitted
  /-- The list has been changed by a caller who was admitted and holds the lock. -/
  | recorded (subscriptions : Subscriptions) (place : visit.place = .admitted)
      (holds : visit.holds = true) : Went s free visit { s with subscriptions } .recorded
  /-- The command that goes with the change has been queued. -/
  | told (command : Command) (place : visit.place = .recorded) :
      Went s free visit (s.enqueue [command]) (.done (.ok ()))
  /-- Nobody is left to take the command that goes with the change. -/
  | untold (subscriptions : Subscriptions) (place : visit.place = .recorded) :
      Went s free visit { s with subscriptions } (.done (.error .workerUnavailable))
  /-- A message has been queued. -/
  | sent (topic : String) (payload : List UInt8) (qos : Qos) (retain : Bool)
      (place : visit.place = .admitted) :
      Went s free visit (s.enqueue [.publish topic payload qos retain]) .queued
  /-- A message that was queued has been recorded. -/
  | noted (message : Message) : Went s free visit (s.recordPublished message) (.done (.ok ()))
  /-- The transition that ends the connection has been made. -/
  | parted (holds : visit.holds = true) : Went s free visit (s.enter .disconnecting) .parted
  /-- The end of the connection has been asked for. -/
  | asked (place : visit.place = .parted) : Went s free visit (s.enqueue [.disconnect]) (.gone (.ok ()))
  /-- Nobody is left to end the connection. -/
  | forsaken (place : visit.place = .parted) :
      Went s free visit s.forceDisconnected (.gone (.error .workerUnavailable))
  /-- The session has been closed. -/
  | forced (holds : visit.holds = true) : Went s free visit s.forceDisconnected (.done (.ok ()))

theorem went_of_check {s : Session τ} {free : Bool} {visit : Visit} {operation : Operation}
    (holds : visit.errand.isLocking = true → visit.holds = true) :
    visit.Went s free (check s operation).1 (check s operation).2 := by
  unfold check
  split
  · rename_i accepts
    exact .admitted (by simpa [ConnectionState.acceptsCommands] using accepts) holds
  · exact .refused _

/-- What a step of a caller who changes the list does. -/
theorem went_of_change {s s' : Session τ} {free : Bool} {change : Change} {before place : Place}
    (made : next? s free ⟨.change change, before⟩ = some (s', place)) :
    Went s free ⟨.change change, before⟩ s' place := by
  cases before with
  | arrived =>
    simp only [next?] at made
    split at made
    · cases made
      exact .refused _
    · obtain ⟨unlocked, made⟩ := Option.ite_none_right_eq_some.mp made
      cases made
      exact .entered unlocked
  | inside =>
    obtain ⟨rfl, rfl⟩ := Prod.mk.inj (Option.some.inj made)
    exact went_of_check fun _ => rfl
  | admitted =>
    simp only [next?] at made
    split at made
    · cases made
      exact .refused _
    · cases made
      exact .recorded _ rfl rfl
  | recorded =>
    simp only [next?] at made
    split at made
    · rename_i sent
      cases made
      obtain ⟨-, rfl⟩ := send?_eq_some_iff.mp sent
      exact .told _ rfl
    · cases made
      exact .untold _ rfl
  | queued | parted | gone | done => cases made

/-- What a step of a caller who publishes does. -/
theorem went_of_publish {s s' : Session τ} {free : Bool} {topic : String} {payload : List UInt8}
    {qos : Qos} {retain : Bool} {before place : Place}
    (made : next? s free ⟨.publish topic payload qos retain, before⟩ = some (s', place)) :
    Went s free ⟨.publish topic payload qos retain, before⟩ s' place := by
  cases before with
  | arrived =>
    simp only [next?] at made
    split at made
    · cases made
      exact .refused _
    · obtain ⟨rfl, rfl⟩ := Prod.mk.inj (Option.some.inj made)
      exact went_of_check nofun
  | admitted =>
    simp only [next?] at made
    split at made
    · cases made
      exact .refused _
    · rename_i sent
      cases made
      obtain ⟨-, rfl⟩ := send?_eq_some_iff.mp sent
      exact .sent topic payload qos retain rfl
  | queued =>
    cases made
    exact .noted _
  | inside | recorded | parted | gone | done => cases made

/-- What a step of a caller who asks for the end of the connection does. -/
theorem went_of_disconnect {s s' : Session τ} {free : Bool} {before place : Place}
    (made : next? s free ⟨.disconnect, before⟩ = some (s', place)) :
    Went s free ⟨.disconnect, before⟩ s' place := by
  cases before with
  | arrived =>
    obtain ⟨unlocked, made⟩ := Option.ite_none_right_eq_some.mp made
    cases made
    exact .entered unlocked
  | inside =>
    simp only [next?] at made
    split at made
    · cases made
      exact .refused _
    · rename_i entered
      cases made
      obtain ⟨state, legal, rfl⟩ := transition?_eq_some_iff.mp entered
      obtain rfl := ConnectionState.next?_disconnectRequested legal
      exact .parted rfl
  | parted =>
    simp only [next?] at made
    split at made
    · rename_i sent
      cases made
      obtain ⟨-, rfl⟩ := send?_eq_some_iff.mp sent
      exact .asked rfl
    · cases made
      exact .forsaken rfl
  | admitted | recorded | queued | gone | done => cases made

/-- **What a step of a caller does.** -/
theorem went_of_next? {s s' : Session τ} {free : Bool} {visit : Visit} {place : Place}
    (made : visit.next? s free = some (s', place)) : visit.Went s free s' place := by
  obtain ⟨errand, before⟩ := visit
  cases errand with
  | change change => exact went_of_change made
  | publish topic payload qos retain => exact went_of_publish made
  | disconnect => exact went_of_disconnect made
  | force =>
    cases before with
    | arrived =>
      obtain ⟨unlocked, made⟩ := Option.ite_none_right_eq_some.mp made
      cases made
      exact .entered unlocked
    | inside =>
      cases made
      exact .forced rfl
    | admitted | recorded | queued | parted | gone | done => cases made

end Visit

/-! ## Callers, the dispatcher and the lock -/

/-- How far the dispatcher has come with a report. -/
inductive Dispatching where
  /-- It waits for a report. -/
  | resting
  /-- It has taken a report that it needs the lock for. -/
  | facing (report : Report)
  /-- It holds the lock, and has a report to apply. -/
  | holding (report : Report)
  /-- It holds the lock, and has subscriptions to restore. -/
  | restoring (commands : List Command)
  deriving DecidableEq, Repr

/-- Whether the dispatcher holds the lock. -/
def Dispatching.holds : Dispatching → Bool
  | .holding _ => true
  | .restoring _ => true
  | _ => false

/-- Whether the dispatcher needs the lock for a report: it does for those that a connection begins
or ends with. -/
def Report.isGuarded : Report → Bool
  | .connected => true
  | .connectionLost _ => true
  | _ => false

/-- Who holds the lock. -/
inductive Holder where
  | visitor (position : Nat)
  | dispatcher
  deriving DecidableEq, Repr

/-- A session, who holds the lock, and how far callers and the dispatcher have come. -/
structure Locked (τ : Type) where
  session : Session τ
  lock : Option Holder
  visits : List Visit
  dispatching : Dispatching

/-- A step of somebody. -/
inductive Step (τ : Type) where
  /-- A caller comes. -/
  | arrive (errand : Errand)
  /-- The caller at some position takes its next step. -/
  | visitor (position : Nat)
  /-- The dispatcher takes its next step. -/
  | dispatcher
  /-- The worker, the ticker, the clock or the network makes a move. -/
  | other (move : Move τ)

/-- Whether a move is neither a caller's nor the dispatcher's. -/
def Session.Move.isApart {τ : Type} : Session.Move τ → Bool
  | .ask _ => false
  | .dispatch => false
  | _ => true

/-- Who holds the lock after a step of somebody who has held it before the step or not, and holds it
afterwards or not. -/
def passOn (lock : Option Holder) (holder : Holder) (before after : Bool) : Option Holder :=
  if after then some holder else if before then none else lock

namespace Locked

variable {τ : Type}

/-- A session that nobody has called yet. -/
def start (s : Session τ) : Locked τ := ⟨s, none, [], .resting⟩

/-- A caller has taken a step. -/
def stepped (l : Locked τ) (position : Nat) (visit : Visit) (s : Session τ) (place : Place) :
    Locked τ where
  session := s
  lock := passOn l.lock (.visitor position) visit.holds (Visit.holds { visit with place })
  visits := l.visits.set position { visit with place }
  dispatching := l.dispatching

/-- The dispatcher has taken a step. -/
def dispatched (l : Locked τ) (s : Session τ) (dispatching : Dispatching) : Locked τ where
  session := s
  lock := passOn l.lock .dispatcher l.dispatching.holds dispatching.holds
  visits := l.visits
  dispatching := dispatching

/-- The next step of the dispatcher, with the session afterwards; `none` if no report waits, or if
it waits for the lock. -/
def dispatch? (s : Session τ) (free : Bool) : Dispatching → Option (Session τ × Dispatching)
  | .resting =>
    match s.reports with
    | [] => none
    | report :: rest =>
      let s := { s with reports := rest }
      -- other reports lead neither into the connected state nor out of it
      some (if report.isGuarded then (s, .facing report) else (s.dispatch report, .resting))
  | .facing report => if free then some (s, .holding report) else none
  | .holding .connected =>
    match s.transition? .connectSucceeded with
    | some s => some (s, .restoring (resubscriptions s.subscriptions))
    | none => some (s, .resting)
  | .holding report => some (s.dispatch report, .resting)
  | .restoring [] => some (s, .resting)
  | .restoring (command :: rest) => some ((s.send? command).getD s, .restoring rest)

variable [Transport τ]

/-- A step of somebody, `none` if that one has nothing to do or waits for the lock. -/
def step? (l : Locked τ) : Step τ → Option (Locked τ)
  | .arrive errand => some { l with visits := l.visits ++ [⟨errand, .arrived⟩] }
  | .visitor position =>
    l.visits[position]?.bind fun visit =>
      (visit.next? l.session l.lock.isNone).map fun (s, place) => l.stepped position visit s place
  | .dispatcher =>
    (dispatch? l.session l.lock.isNone l.dispatching).map fun (s, dispatching) =>
      l.dispatched s dispatching
  | .other move =>
    if move.isApart then (l.session.move? move).map fun s => { l with session := s } else none

/-- Steps taken one after the other; `none` if one of them cannot be taken. -/
def run? : Locked τ → List (Step τ) → Option (Locked τ)
  | l, [] => some l
  | l, step :: rest => (l.step? step).bind (run? · rest)

theorem run?_cons (l : Locked τ) (step : Step τ) (rest : List (Step τ)) :
    l.run? (step :: rest) = (l.step? step).bind (run? · rest) := rfl

/-- A caller takes a step, and then others take theirs. -/
theorem run?_visitor {l : Locked τ} {position : Nat} {visit : Visit} {s : Session τ} {place : Place}
    (there : l.visits[position]? = some visit)
    (made : visit.next? l.session l.lock.isNone = some (s, place)) (rest : List (Step τ)) :
    l.run? (.visitor position :: rest) = (l.stepped position visit s place).run? rest := by
  rw [run?_cons]
  simp only [step?, there, made, Option.bind_some, Option.map_some]

/-! ## Steps that follow each other -/

/-- The only caller comes from one place to another by itself, and holds no lock in the end. -/
def Sole (errand : Errand) (s : Session τ) (lock : Option Holder) (place : Place) (s' : Session τ)
    (place' : Place) : Prop :=
  ∃ count, run? ⟨s, lock, [⟨errand, place⟩], .resting⟩ (List.replicate count (.visitor 0)) =
    some ⟨s', none, [⟨errand, place'⟩], .resting⟩

theorem Sole.refl {errand : Errand} {s : Session τ} {place : Place} :
    Sole errand s none place s place :=
  ⟨0, rfl⟩

/-- The only caller takes a step, and then others. -/
theorem Sole.step {errand : Errand} {s s₁ s' : Session τ} {lock : Option Holder}
    {place place₁ place' : Place}
    (made : Visit.next? s lock.isNone ⟨errand, place⟩ = some (s₁, place₁))
    (later : Sole errand s₁
      (passOn lock (.visitor 0) (Visit.holds ⟨errand, place⟩) (Visit.holds ⟨errand, place₁⟩))
      place₁ s' place') :
    Sole errand s lock place s' place' := by
  obtain ⟨count, run⟩ := later
  exact ⟨count + 1, (run?_visitor rfl made _).trans run⟩

/-- A caller who changes the list does so by itself. -/
theorem sole_change (s : Session τ) (change : Change) :
    ∃ place, Sole (.change change) s none .arrived ((Errand.change change).run s).2 place ∧
      place.outcome? = some ((Errand.change change).run s).1 := by
  rw [Errand.run_change]
  cases valid : Topic.checkFilter change.topic with
  | error fault =>
    -- refused before the lock is taken
    have refused : Visit.next? s true ⟨.change change, .arrived⟩ =
        some (s, .done (.error (.invalidTopic change.topic fault.message))) := by
      simp only [Visit.next?, valid]
    exact ⟨_, .step refused .refl, rfl⟩
  | ok =>
    have enters : Visit.next? s true ⟨.change change, .arrived⟩ = some (s, .inside) := by
      simp only [Visit.next?, valid, if_true]
    cases accepts : s.state.acceptsCommands with
    | false =>
      -- refused under the lock, which is given back
      have refused : Visit.next? s false ⟨.change change, .inside⟩ =
          some (s, .done (.error (.invalidState change.operation.text s.state))) := by
        simp [Visit.next?, Visit.check, accepts]
      exact ⟨_, .step enters (.step refused .refl), rfl⟩
    | true =>
      have admitted : Visit.next? s false ⟨.change change, .inside⟩ = some (s, .admitted) := by
        simp [Visit.next?, Visit.check, accepts]
      rw [Bool.not_true, if_neg Bool.false_ne_true]
      cases made : change.make? s.subscriptions with
      | none =>
        have refused : Visit.next? s false ⟨.change change, .admitted⟩ =
            some (s, .done (.error change.refusal)) := by
          simp only [Visit.next?, made]
        exact ⟨_, .step enters (.step admitted (.step refused .refl)), rfl⟩
      | some subscriptions =>
        have recorded : Visit.next? s false ⟨.change change, .admitted⟩ =
            some ({ s with subscriptions }, .recorded) := by
          simp only [Visit.next?, made]
        dsimp only
        cases sent : send? { s with subscriptions } change.command with
        | some queued =>
          have told : Visit.next? { s with subscriptions } false ⟨.change change, .recorded⟩ =
              some (queued, .done (.ok ())) := by
            simp only [Visit.next?, sent]
          exact ⟨_, .step enters (.step admitted (.step recorded (.step told .refl))), rfl⟩
        | none =>
          -- nobody takes the command any more
          have untold : Visit.next? { s with subscriptions } false ⟨.change change, .recorded⟩ =
              some ({ s with subscriptions := change.undo subscriptions },
                .done (.error .workerUnavailable)) := by
            simp only [Visit.next?, sent]
          exact ⟨_, .step enters (.step admitted (.step recorded (.step untold .refl))), rfl⟩

/-- A caller who publishes does so by itself. -/
theorem sole_publish (s : Session τ) (topic : String) (payload : List UInt8) (qos : Qos)
    (retain : Bool) :
    ∃ place, Sole (.publish topic payload qos retain) s none .arrived
        (s.publish topic payload qos retain).2 place ∧
      place.outcome? = some (s.publish topic payload qos retain).1 := by
  unfold publish
  cases valid : Topic.checkName topic with
  | error fault =>
    have refused : Visit.next? s true ⟨.publish topic payload qos retain, .arrived⟩ =
        some (s, .done (.error (.invalidTopic topic fault.message))) := by
      simp only [Visit.next?, valid]
    exact ⟨_, .step refused .refl, rfl⟩
  | ok =>
    cases accepts : s.state.acceptsCommands with
    | false =>
      have refused : Visit.next? s true ⟨.publish topic payload qos retain, .arrived⟩ =
          some (s, .done (.error (.invalidState Operation.publish.text s.state))) := by
        simp [Visit.next?, valid, Visit.check, accepts]
      exact ⟨_, .step refused .refl, rfl⟩
    | true =>
      have admitted : Visit.next? s true ⟨.publish topic payload qos retain, .arrived⟩ =
          some (s, .admitted) := by
        simp [Visit.next?, valid, Visit.check, accepts]
      rw [Bool.not_true, if_neg Bool.false_ne_true]
      cases sent : s.send? (.publish topic payload qos retain) with
      | none =>
        have refused : Visit.next? s true ⟨.publish topic payload qos retain, .admitted⟩ =
            some (s, .done (.error .workerUnavailable)) := by
          simp only [Visit.next?, sent]
        exact ⟨_, .step admitted (.step refused .refl), rfl⟩
      | some queued =>
        have sends : Visit.next? s true ⟨.publish topic payload qos retain, .admitted⟩ =
            some (queued, .queued) := by
          simp only [Visit.next?, sent]
        exact ⟨_, .step admitted (.step sends (.step rfl .refl)), rfl⟩

/-- A caller who asks for the end of the connection does so by itself. -/
theorem sole_disconnect (s : Session τ) :
    ∃ place, Sole .disconnect s none .arrived s.requestDisconnect.2 place ∧
      place.outcome? = some s.requestDisconnect.1 := by
  unfold requestDisconnect
  have enters : Visit.next? s true ⟨.disconnect, .arrived⟩ = some (s, .inside) := rfl
  cases made : s.transition? .disconnectRequested with
  | none =>
    have refused : Visit.next? s false ⟨.disconnect, .inside⟩ =
        some (s, .done (.error (.invalidState Operation.disconnect.text s.state))) := by
      simp only [Visit.next?, made]
    exact ⟨_, .step enters (.step refused .refl), rfl⟩
  | some ending =>
    have parted : Visit.next? s false ⟨.disconnect, .inside⟩ = some (ending, .parted) := by
      simp only [Visit.next?, made]
    dsimp only
    cases sent : ending.send? .disconnect with
    | some queued =>
      have asked : Visit.next? ending true ⟨.disconnect, .parted⟩ =
          some (queued, .gone (.ok ())) := by
        simp only [Visit.next?, sent]
      exact ⟨_, .step enters (.step parted (.step asked .refl)), rfl⟩
    | none =>
      have forsaken : Visit.next? ending true ⟨.disconnect, .parted⟩ =
          some (ending.forceDisconnected, .gone (.error .workerUnavailable)) := by
        simp only [Visit.next?, sent]
      exact ⟨_, .step enters (.step parted (.step forsaken .refl)), rfl⟩

/-- **A caller whose steps follow each other does what the call does in one step.** -/
theorem run?_visit (s : Session τ) (errand : Errand) :
    ∃ count place, (start s).run? (.arrive errand :: List.replicate count (.visitor 0)) =
        some ⟨(errand.run s).2, none, [⟨errand, place⟩], .resting⟩ ∧
      place.outcome? = some (errand.run s).1 := by
  have sole : ∃ place, Sole errand s none .arrived (errand.run s).2 place ∧
      place.outcome? = some (errand.run s).1 := by
    cases errand with
    | change change => exact sole_change s change
    | publish topic payload qos retain => exact sole_publish s topic payload qos retain
    | disconnect => exact sole_disconnect s
    | force =>
      have enters : Visit.next? s true ⟨.force, .arrived⟩ = some (s, .inside) := rfl
      exact ⟨_, .step enters (.step rfl .refl), rfl⟩
  obtain ⟨place, ⟨count, run⟩, outcome⟩ := sole
  exact ⟨count, place, run, outcome⟩

/-- The dispatcher takes a step. -/
theorem run?_dispatching {s s₁ : Session τ} {lock : Option Holder} {now next : Dispatching}
    (made : dispatch? s lock.isNone now = some (s₁, next)) (visits : List Visit) (count : Nat) :
    run? ⟨s, lock, visits, now⟩ (List.replicate (count + 1) .dispatcher) =
      run? ⟨s₁, passOn lock .dispatcher now.holds next.holds, visits, next⟩
        (List.replicate count .dispatcher) := by
  rw [List.replicate_succ, run?_cons]
  simp only [step?, made, Option.map_some, dispatched, Option.bind_some]

/-- The dispatcher restores subscriptions, and gives the lock back. -/
theorem run?_restoring (s : Session τ) (visits : List Visit) (commands : List Command) :
    ∃ count, run? ⟨s, some .dispatcher, visits, .restoring commands⟩
        (List.replicate count .dispatcher) =
      some ⟨commands.foldl (fun s command => (s.send? command).getD s) s, none, visits, .resting⟩ := by
  induction commands generalizing s with
  | nil => exact ⟨1, rfl⟩
  | cons command rest ih =>
      obtain ⟨count, run⟩ := ih ((s.send? command).getD s)
      exact ⟨count + 1, run⟩

/-- **The dispatcher, when its steps follow each other, does what it does with a report in one
step.** -/
theorem run?_dispatcher {s s' : Session τ} (made : s.dispatch? = some s') (visits : List Visit) :
    ∃ count, run? ⟨s, none, visits, .resting⟩ (List.replicate count .dispatcher) =
      some ⟨s', none, visits, .resting⟩ := by
  obtain ⟨report, rest, queued, rfl⟩ := dispatch?_eq_some_iff.mp made
  have taken : dispatch? s true .resting =
      some (if report.isGuarded then ({ s with reports := rest }, .facing report)
        else (Session.dispatch { s with reports := rest } report, .resting)) := by
    simp only [dispatch?, queued]
  cases report with
  | connected =>
    cases entered : transition? { s with reports := rest } .connectSucceeded with
    | none =>
      -- too late, and nothing is done
      have ignored : dispatch? { s with reports := rest } false (.holding .connected) =
          some ({ s with reports := rest }, .resting) := by
        simp only [dispatch?, entered]
      refine ⟨3, ?_⟩
      rw [run?_dispatching taken, run?_dispatching rfl, run?_dispatching ignored,
        Session.dispatch, entered]
      rfl
    | some s₁ =>
      have begun : dispatch? { s with reports := rest } false (.holding .connected) =
          some (s₁, .restoring (resubscriptions s₁.subscriptions)) := by
        simp only [dispatch?, entered]
      obtain ⟨count, restored⟩ := run?_restoring s₁ visits (resubscriptions s₁.subscriptions)
      refine ⟨count + 3, ?_⟩
      rw [run?_dispatching taken, run?_dispatching rfl, run?_dispatching begun,
        Session.dispatch, entered]
      exact restored
  | connectionLost reason =>
    -- the lock is taken and given back around the transition
    refine ⟨3, ?_⟩
    rw [run?_dispatching taken, run?_dispatching rfl, run?_dispatching rfl]
    rfl
  | connectFailed | disconnectComplete | subscribeAck | messages =>
    -- no lock is needed
    refine ⟨1, ?_⟩
    rw [run?_dispatching taken]
    rfl

end Locked

end MqttSessions
