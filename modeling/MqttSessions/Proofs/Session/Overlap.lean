import MqttSessions.Proofs.Session.Agreement

/-! # Calls that overlap

To ask for a connection or for its end takes a caller two steps: first the transition is made, then
the command is queued. When several callers share a session, others may move between the two. Here
a call is a **`Session.Wish`** that is begun in one **`Turn`** and finished in a later one
(**`Overlapped.turn?`**); begun and finished at once it is the request itself
(**`Session.ask_wish`**).

* **`Overlapped.connect_taken_idle`**: as long as calls are finished in the order in which they were
  begun, the worker is never asked to connect over a link, and a session that has settled has a link
  exactly while it is connecting or connected;
* **`Overlapped.run?_overtaken`** and **`Overlapped.connect_overtaken`**: once a call overtakes another
  one, neither holds any more. -/

namespace MqttSessions

namespace Session

/-- What a caller may wish of the connection. -/
inductive Wish where
  | connect
  | disconnect
  deriving DecidableEq, Repr

/-- The event of the connection that a wish stands for. -/
def Wish.event : Wish → ConnectionEvent
  | .connect => .connectRequested
  | .disconnect => .disconnectRequested

/-- The request that makes a wish at once. -/
def Wish.request : Wish → Request
  | .connect => .connect
  | .disconnect => .disconnect

/-- The command that a wish leads to. -/
def Wish.command (profile : Profile) : Wish → Command
  | .connect => .connect profile
  | .disconnect => .disconnect

@[simp] theorem Wish.command_event? (wish : Wish) (profile : Profile) :
    (wish.command profile).event? = some wish.event := by
  cases wish <;> rfl

variable {τ : Type}

/-- What becomes of a wish if no worker is left to take its command. -/
def forsake (s : Session τ) : Wish → Session τ
  | .connect => s.apply .connectFailed
  | .disconnect => s.forceDisconnected

/-- The second step of a call: its command is queued. -/
def finish (s : Session τ) (wish : Wish) : Session τ :=
  (s.send? (wish.command s.profile)).getD (s.forsake wish)

/-- A call whose steps follow each other is the request itself. -/
theorem ask_wish (s : Session τ) (wish : Wish) :
    (s.ask wish.request).2 = (s.transition? wish.event).elim s (·.finish wish) := by
  cases wish with
  | connect =>
    simp only [ask, Wish.request, Wish.event, requestConnect]
    cases s.transition? .connectRequested with
    | none => rfl
    | some entered =>
      simp only [Option.elim_some, finish, forsake, Wish.command]
      cases entered.send? (.connect entered.profile) <;> rfl
  | disconnect =>
    simp only [ask, Wish.request, Wish.event, requestDisconnect]
    cases s.transition? .disconnectRequested with
    | none => rfl
    | some entered =>
      simp only [Option.elim_some, finish, forsake, Wish.command]
      cases entered.send? .disconnect <;> rfl

theorem finish_of_waiting {s : Session τ} (waiting : s.worker.footing = .waiting) (wish : Wish) :
    s.finish wish = s.enqueue [wish.command s.profile] := by
  rw [finish, send?_of_ne_stopped (by simp [waiting]), Option.getD_some]

@[simp] theorem finish_worker (s : Session τ) (wish : Wish) : (s.finish wish).worker = s.worker := by
  unfold finish
  cases sent : s.send? (wish.command s.profile) with
  | some queued =>
    obtain ⟨-, rfl⟩ := send?_eq_some_iff.mp sent
    rfl
  | none =>
    cases wish with
    | connect => exact apply_worker s _
    | disconnect =>
      simp only [Option.getD_none, forsake, forceDisconnected]
      split <;> rfl

end Session

open Session

/-- A session and the wishes whose transition has been made and whose command has still to be queued,
in the order in which they were begun. -/
structure Overlapped (τ : Type) where
  session : Session τ
  pending : List Wish

/-- A step of a caller that begins a wish, a step of one that finishes the wish at some position among
those begun, or the move of another party. -/
inductive Turn (τ : Type) where
  | begin (wish : Wish)
  | finish (position : Nat)
  | other (move : Move τ)

/-- Whether no call is overtaken in a turn: a wish that is finished is the first one begun. -/
def Turn.InOrder {τ : Type} : Turn τ → Prop
  | .finish position => position = 0
  | _ => True

namespace Overlapped

variable {τ : Type} [Transport τ]

/-- One turn. A wish that is not legal is refused. Wishes are not also made at once. -/
def turn? (o : Overlapped τ) : Turn τ → Option (Overlapped τ)
  | .begin wish =>
    some <| match o.session.transition? wish.event with
      | none => o
      | some entered => ⟨entered, o.pending ++ [wish]⟩
  | .finish position =>
    o.pending[position]?.map fun wish => ⟨o.session.finish wish, o.pending.eraseIdx position⟩
  | .other move =>
    if move.event?.isSome then none else (o.session.move? move).map ({ o with session := · })

/-- Turns taken one after the other. -/
def run? : Overlapped τ → List (Turn τ) → Option (Overlapped τ)
  | o, [] => some o
  | o, turn :: rest => (o.turn? turn).bind (run? · rest)

/-- A new session that nobody has called yet. -/
def start (s : Session τ) : Overlapped τ := ⟨s, []⟩

/-! ## Calls that are finished in order -/

/-- State, link and queues fit together, once all that was begun is finished in order. -/
def Fits (o : Overlapped τ) : Prop := o.session.FitsWith (o.pending.map Wish.event)

omit [Transport τ] in
/-- Beginning a wish keeps state, link and queues fitting together. -/
theorem Fits.begin {o : Overlapped τ} (fits : o.Fits) {wish : Wish} {entered : Session τ}
    (made : o.session.transition? wish.event = some entered) :
    Fits ⟨entered, o.pending ++ [wish]⟩ := by
  obtain ⟨state, legal, rfl⟩ := transition?_eq_some_iff.mp made
  unfold Fits FitsWith at fits ⊢
  -- its request comes behind all that are queued or begun
  rw [List.map_append, List.map_singleton, ← List.append_assoc]
  cases wish with
  | connect => exact fits.connectRequested legal
  | disconnect => exact fits.disconnectRequested legal

omit [Transport τ] in
/-- Finishing the wish that was begun first keeps state, link and queues fitting together. -/
theorem Fits.finish {s : Session τ} {wish : Wish} {later : List Wish}
    (fits : Fits ⟨s, wish :: later⟩) (waiting : s.worker.footing = .waiting) :
    Fits ⟨s.finish wish, later⟩ := by
  unfold Fits FitsWith at fits ⊢
  -- its request is the last one queued now, instead of the first one begun
  rw [finish_of_waiting waiting]
  simpa [List.filterMap_append] using fits

/-- What a turn of another party does. -/
theorem turn?_other {o o' : Overlapped τ} {move : Move τ}
    (made : o.turn? (.other move) = some o') :
    move.event? = none ∧ o.session.move? move = some o'.session ∧ o'.pending = o.pending := by
  simp only [turn?, Option.ite_none_left_eq_some, Option.not_isSome_iff_eq_none] at made
  obtain ⟨other, moved⟩ := made
  obtain ⟨s, made, rfl⟩ := Option.map_eq_some_iff.mp moved
  exact ⟨other, made, rfl⟩

/-- A turn never brings back a worker that does not wait. -/
theorem waiting_of_turn? {o o' : Overlapped τ} {turn : Turn τ} (made : o.turn? turn = some o')
    (waiting : o'.session.worker.footing = .waiting) : o.session.worker.footing = .waiting := by
  cases turn with
  | begin wish =>
    obtain rfl := Option.some.inj made
    cases entered : o.session.transition? wish.event with
    | none => simpa [entered] using waiting
    | some s =>
      obtain ⟨state, -, rfl⟩ := transition?_eq_some_iff.mp entered
      simpa [entered] using waiting
  | finish position =>
    obtain ⟨wish, -, rfl⟩ := Option.map_eq_some_iff.mp made
    simpa using waiting
  | other move => exact waiting_of_move? (turn?_other made).2.1 waiting

/-- **Every turn in order keeps state, link and queues fitting together**, as long as the worker
waits. -/
theorem fits_of_turn? {o o' : Overlapped τ} {turn : Turn τ} (ordered : turn.InOrder) (fits : o.Fits)
    (made : o.turn? turn = some o') (waiting : o'.session.worker.footing = .waiting) : o'.Fits := by
  have before := waiting_of_turn? made waiting
  cases turn with
  | begin wish =>
    obtain rfl := Option.some.inj made
    cases entered : o.session.transition? wish.event with
    | none => exact fits
    | some s => exact fits.begin entered
  | finish position =>
    obtain rfl : position = 0 := ordered
    obtain ⟨wish, first, rfl⟩ := Option.map_eq_some_iff.mp made
    obtain ⟨session, pending⟩ := o
    cases pending with
    | nil => cases first
    | cons next later =>
      obtain rfl := Option.some.inj first
      exact fits.finish before
  | other move =>
    obtain ⟨other, moved, pending⟩ := turn?_other made
    unfold Fits
    rw [pending]
    exact FitsWith.move? fits other moved waiting

/-- In every run in order from a new session, state, link and queues fit together while the worker
waits. -/
theorem fits_of_run? {o o' : Overlapped τ} {turns : List (Turn τ)}
    (ordered : ∀ turn ∈ turns, turn.InOrder)
    (fits : o.session.worker.footing = .waiting → o.Fits) (run : o.run? turns = some o')
    (waiting : o'.session.worker.footing = .waiting) : o'.Fits := by
  induction turns generalizing o with
  | nil =>
      obtain rfl := Option.some.inj run
      exact fits waiting
  | cons turn rest ih =>
      obtain ⟨next, made, remaining⟩ := Option.bind_eq_some_iff.mp run
      refine ih (fun other mem => ordered other (List.mem_cons_of_mem _ mem)) ?_ remaining
      intro waiting
      exact fits_of_turn? (ordered turn List.mem_cons_self) (fits (waiting_of_turn? made waiting))
        made waiting

/-- **Calls that are finished in order do no harm.** In every run from a new session in which no call
overtakes another, a waiting worker that is about to be asked to connect has no link, and when nothing
is queued or begun, the session is disconnected without a link, connecting over a link that is being
set up, or connected over a link that is up. -/
theorem connect_taken_idle {profile : Profile} {transport : τ} {settings : SessionSettings}
    {turns : List (Turn τ)} {o : Overlapped τ} (ordered : ∀ turn ∈ turns, turn.InOrder)
    (run : (start (create profile transport settings)).run? turns = some o)
    (waiting : o.session.worker.footing = .waiting) :
    (∀ wanted rest, o.session.commands = .connect wanted :: rest → o.session.worker.link = .idle) ∧
      (o.pending = [] → o.session.commands = [] → o.session.reports = [] →
        o.session.state = .disconnected ∧ o.session.worker.link = .idle ∨
          o.session.state = .connecting ∧ o.session.worker.link = .connecting ∨
          o.session.state = .connected ∧ o.session.worker.link = .up) := by
  have fresh : (start (create profile transport settings)).Fits :=
    create_fits profile transport settings
  have fits : o.Fits := fits_of_run? ordered (fun _ => fresh) run waiting
  unfold Fits FitsWith at fits
  constructor
  · intro wanted rest queued
    rw [queued] at fits
    exact fits.idle_of_connect
  · intro pending commands reports
    rw [pending, commands, reports] at fits
    exact fits.drained

/-- A call is overtaken nowhere: the connection is taken back after its command was queued. -/
theorem connect_taken_idle_cancelled :
    ∃ o, (start (rehearsed {})).run?
        [.begin .connect, .begin .disconnect, .finish 0, .finish 0, .other .takeCommand,
          .other .takeCommand, .other .dispatch, .begin .connect, .finish 0] = some o ∧
      o.session.worker.footing = .waiting ∧
      o.session.commands = [.connect o.session.profile] ∧ o.session.worker.link = .idle := by
  obtain ⟨o, run, waiting, commands⟩ : ∃ o, (start (rehearsed {})).run?
      [.begin .connect, .begin .disconnect, .finish 0, .finish 0, .other .takeCommand,
        .other .takeCommand, .other .dispatch, .begin .connect, .finish 0] = some o ∧
      o.session.worker.footing = .waiting ∧ o.session.commands = [.connect o.session.profile] :=
    ⟨_, rfl, rfl, rfl⟩
  have ordered : ∀ turn ∈ ([.begin .connect, .begin .disconnect, .finish 0, .finish 0,
      .other .takeCommand, .other .takeCommand, .other .dispatch, .begin .connect, .finish 0] :
        List (Turn Rehearsal)), turn.InOrder := by
    simp [Turn.InOrder]
  exact ⟨o, run, waiting, commands, (connect_taken_idle ordered run waiting).1 _ _ commands⟩

/-! ## A call that overtakes another one -/

/-- Nothing is queued, and the session is disconnected without a link. -/
structure Settled (s : Session τ) : Prop where
  waiting : s.worker.footing = .waiting
  state : s.state = .disconnected
  link : s.worker.link = .idle
  commands : s.commands = []
  reports : s.reports = []

theorem run?_append (o : Overlapped τ) (first second : List (Turn τ)) :
    o.run? (first ++ second) = (o.run? first).bind (run? · second) := by
  induction first generalizing o with
  | nil => rfl
  | cons turn rest ih =>
      rw [List.cons_append, run?, run?]
      cases o.turn? turn with
      | none => rfl
      | some next => exact ih next

/-- A connection is asked for and taken back, and the second call overtakes the first: the session
settles, with the first call still to be finished. -/
theorem run?_overtaking {s : Session τ} (settled : Settled s) :
    ∃ t, (start s).run? [.begin .connect, .begin .disconnect, .finish 1, .other .takeCommand,
        .other .dispatch] = some ⟨t, [.connect]⟩ ∧
      Settled t ∧ t.profile = s.profile ∧ t.worker.transport = s.worker.transport := by
  obtain ⟨waiting, state, link, commands, reports⟩ := settled
  obtain ⟨_, _, _, _, _, _, _, _, _, _, _, _, ⟨_, _, _⟩, _⟩ := s
  cases waiting
  cases state
  cases link
  cases commands
  cases reports
  -- what is left of the session decides nothing
  exact ⟨_, rfl, ⟨rfl, rfl, rfl, rfl, rfl⟩, rfl, rfl⟩

/-- A call that is finished late makes the worker start an attempt that nobody wants. -/
theorem run?_unwanted {s : Session τ} (settled : Settled s)
    (accepts : (Transport.perform (.connect s.profile) s.worker.transport).1 = .done) :
    ∃ t, run? ⟨s, [.connect]⟩ [.finish 0, .other .takeCommand] = some (start t) ∧
      t.worker.footing = .waiting ∧ t.state = .disconnected ∧ t.worker.link = .connecting ∧
      t.commands = [] ∧ t.profile = s.profile := by
  have dialed : (s.worker.take (.connect s.profile)).1.footing = .waiting ∧
      (s.worker.take (.connect s.profile)).1.link = .connecting := by
    simp [Worker.take, Worker.connect, Worker.call, settled.link, settled.waiting, accepts]
  obtain ⟨t, taken, worker, state, commands, profile⟩ :
      ∃ t, (s.enqueue [.connect s.profile]).takeCommand? = some t ∧
        t.worker = (s.worker.take (.connect s.profile)).1 ∧ t.state = s.state ∧ t.commands = [] ∧
        t.profile = s.profile := by
    refine ⟨_, takeCommand?_eq_some_iff.mpr ⟨settled.waiting, .connect s.profile, [], ?_, rfl⟩, rfl,
      rfl, ?_, rfl⟩
    · rw [enqueue_commands, settled.commands, List.nil_append]
    · exact settleWorker_commands _ _ (by simp [dialed.1])
  refine ⟨t, ?_, by rw [worker, dialed.1], state.trans settled.state, by rw [worker, dialed.2],
    commands, profile⟩
  simp only [run?, turn?, start, List.getElem?_cons_zero, Option.map_some, Option.bind_some,
    finish_of_waiting settled.waiting, Wish.command]
  exact congrArg (fun moved => (Option.map (Overlapped.mk · []) moved).bind some) taken

/-- A connection that is asked for while disconnected is accepted, whatever the link. -/
theorem run?_connect {s : Session τ} (waiting : s.worker.footing = .waiting)
    (state : s.state = .disconnected) (commands : s.commands = []) :
    ∃ t, (start s).run? [.begin .connect, .finish 0] = some (start t) ∧ t.worker = s.worker ∧
      t.commands = [.connect s.profile] := by
  have entered : s.transition? .connectRequested = some (s.enter .connecting) :=
    transition?_eq_some_iff.mpr ⟨_, by rw [state]; rfl, rfl⟩
  have finished := finish_of_waiting (s := s.enter .connecting) waiting .connect
  refine ⟨(s.enter .connecting).enqueue [.connect s.profile], ?_, rfl, ?_⟩
  · simp only [run?, turn?, start, Wish.event, entered]
    exact congrArg (fun t => some (Overlapped.mk t [])) finished
  · rw [enqueue_commands, enter_commands, commands, List.nil_append]

/-- **No settled session is safe from a call that overtakes another one**, over any transport that
accepts the connection: after one overtaking, the next connection that is asked for finds the worker
with a link, and is ignored. -/
theorem run?_overtaken {s : Session τ} (settled : Settled s)
    (accepts : (Transport.perform (.connect s.profile) s.worker.transport).1 = .done) :
    ∃ t, (start s).run?
        [.begin .connect, .begin .disconnect, .finish 1, .other .takeCommand, .other .dispatch,
          .finish 0, .other .takeCommand, .begin .connect, .finish 0] = some (start t) ∧
      t.worker.footing = .waiting ∧ t.commands = [.connect s.profile] ∧
      t.worker.link = .connecting := by
  obtain ⟨first, overtaking, undone, firstProfile, transport⟩ := run?_overtaking settled
  rw [← firstProfile, ← transport] at accepts
  obtain ⟨second, unwanted, waiting, state, link, commands, secondProfile⟩ :=
    run?_unwanted undone accepts
  obtain ⟨third, connect, worker, queued⟩ := run?_connect waiting state commands
  refine ⟨third, ?_, by rw [worker, waiting], by rw [queued, secondProfile, firstProfile],
    by rw [worker, link]⟩
  -- the runs of the three lemmas, one after the other
  show (start s).run? ([.begin .connect, .begin .disconnect, .finish 1, .other .takeCommand,
    .other .dispatch] ++ ([.finish 0, .other .takeCommand] ++ [.begin .connect, .finish 0])) = _
  rw [run?_append, overtaking, Option.bind_some, run?_append, unwanted, Option.bind_some, connect]

/-- **A call that overtakes another one does harm.** A connection is asked for, and taken back by
another caller before its command is queued. The worker sets up a link that nobody wants: when nothing
is queued or begun any more, the session is disconnected over a link that is up. The next connection
that is asked for finds the worker with that link, and is ignored. -/
theorem connect_overtaken :
    ∃ o, (start (rehearsed {})).run?
        [.begin .connect, .begin .disconnect, .finish 1, .other .takeCommand, .other .dispatch,
          .finish 0, .other .takeCommand, .other .takeEvent, .other .dispatch] = some o ∧
      o.session.worker.footing = .waiting ∧ o.pending = [] ∧ o.session.commands = [] ∧
      o.session.reports = [] ∧ o.session.state = .disconnected ∧ o.session.worker.link = .up ∧
      ∃ o', o.run? [.begin .connect, .finish 0] = some o' ∧
        o'.session.worker.footing = .waiting ∧
        o'.session.commands = [.connect o'.session.profile] ∧ o'.session.worker.link ≠ .idle := by
  refine ⟨_, rfl, rfl, rfl, rfl, rfl, rfl, rfl, _, rfl, rfl, rfl, ?_⟩
  intro idle
  cases idle

end Overlapped

end MqttSessions
