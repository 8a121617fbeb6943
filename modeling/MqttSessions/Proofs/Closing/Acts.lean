import MqttSessions.Proofs.Session.Effects

/-! # Closing a session, step by step

A session is closed by a call that has to wait for the session's parties: first for the connection
to end, then for worker, ticker and dispatcher to stop, each time until a deadline at most. While it
waits, callers and parties go on. A **`Closing`** is a session with the call that closes it, and
every party makes one **`Closing.Act`** at a time.

* **`Closing.proceed?`** and **`Closing.giveUp?`**: what the call does when what it waits for has
  happened, and when its deadline is over. A party that misses its deadline is aborted: it does
  nothing any more, and is dropped later on;
* **`Closing.act?`** and **`Closing.run?`**: one act of one party, and acts one after the other.
  Each act is what a party does without waiting, so the worker only takes an event of its link when
  no command waits. The dispatcher takes a report and applies it in one act here, as it does when it has
  not to wait for the history; `Staggered` has the two apart;
* **`Closing.Patient`**: runs in which deadlines are only over when no party can do anything;
* **`Closing.acted_of_act?`**: what each act does, as the relation **`Closing.Acted`**. -/

namespace MqttSessions

open Session

/-- Who works for a session in the background. -/
inductive Party where
  | worker
  | ticker
  | dispatcher
  deriving DecidableEq, Repr

/-- How far the call that closes a session has come. -/
inductive Closing.Phase where
  /-- There is no such call yet. -/
  | ahead
  /-- The end of the connection is to be asked for. -/
  | asking
  /-- The connection is to end. -/
  | waiting
  /-- The worker is to be told to shut down. -/
  | telling
  /-- The ticker is to be told to stop. -/
  | signalling
  /-- A party is to stop. -/
  | joining (party : Party)
  /-- The session is to be disconnected, whatever its state. -/
  | leaving
  /-- The call has returned. -/
  | returned
  deriving DecidableEq, Repr

/-- Whom the closing call waits for after a party. -/
def Party.next : Party → Closing.Phase
  | worker => .joining .ticker
  | ticker => .joining .dispatcher
  | dispatcher => .leaving

/-- A session, how far the call that closes it has come, and the parties it has aborted. -/
structure Closing (τ : Type) where
  session : Session τ
  phase : Closing.Phase
  aborted : List Party

namespace Session

variable {τ : Type}

/-- Whether a party has stopped. -/
def hasStopped (s : Session τ) : Party → Bool
  | .worker => s.worker.isStopped
  | .ticker => s.ticker == .stopped
  | .dispatcher => s.dispatcherStopped

theorem hasStopped_worker_iff {s : Session τ} :
    s.hasStopped .worker = true ↔ s.worker.footing = .stopped := by
  simp [hasStopped, Worker.isStopped]

theorem hasStopped_ticker_iff {s : Session τ} :
    s.hasStopped .ticker = true ↔ s.ticker = .stopped := by
  simp [hasStopped]

/-- The dispatcher has stopped once nobody is left to report anything and nothing waits. -/
theorem hasStopped_dispatcher_iff {s : Session τ} :
    s.hasStopped .dispatcher = true ↔
      s.worker.footing = .stopped ∧ s.ticker = .stopped ∧ s.reports = [] := by
  simp [hasStopped, dispatcherStopped, Worker.isStopped, and_assoc]

/-- Parties that have stopped have still stopped if worker and ticker have, and nothing is reported
once they have. -/
theorem hasStopped_mono {s s' : Session τ}
    (worker : s.worker.footing = .stopped → s'.worker.footing = .stopped)
    (ticker : s.ticker = .stopped → s'.ticker = .stopped)
    (reports : s.worker.footing = .stopped → s.ticker = .stopped → s.reports = [] → s'.reports = [])
    {party : Party} (stopped : s.hasStopped party = true) : s'.hasStopped party = true := by
  cases party with
  | worker => exact hasStopped_worker_iff.mpr (worker (hasStopped_worker_iff.mp stopped))
  | ticker => exact hasStopped_ticker_iff.mpr (ticker (hasStopped_ticker_iff.mp stopped))
  | dispatcher =>
    obtain ⟨down, still, empty⟩ := hasStopped_dispatcher_iff.mp stopped
    exact hasStopped_dispatcher_iff.mpr ⟨worker down, ticker still, reports down still empty⟩

/-- An aborted party is dropped where it stands. The dispatcher leaves nothing behind that the
session could tell. -/
def drop? (s : Session τ) : Party → Option (Session τ)
  | .worker => if s.worker.isStopped then none else some s.stopWorker
  | .ticker => if s.ticker = .stopped then none else some { s with ticker := .stopped }
  | .dispatcher => none

end Session

namespace Closing

/-- One act of one party. -/
inductive Act (τ : Type) where
  /-- The closing call takes its next step. -/
  | proceed
  /-- The deadline of the closing call is over. -/
  | expire
  /-- An aborted party is dropped. -/
  | drop (party : Party)
  /-- The transport brings the worker down while it is polled. -/
  | faint
  /-- A ticker that has been told to stop ticks once more before it finds out. -/
  | lateTick
  /-- The follower reads. -/
  | follow
  /-- A caller, a party, the clock or the network makes a move. -/
  | other (move : Move τ)

variable {τ : Type}

/-- The same session at the same point, with another session. -/
def withSession (c : Closing τ) (s : Session τ) : Closing τ := { c with session := s }

@[simp] theorem withSession_session (c : Closing τ) (s : Session τ) :
    (c.withSession s).session = s := rfl

@[simp] theorem withSession_phase (c : Closing τ) (s : Session τ) :
    (c.withSession s).phase = c.phase := rfl

@[simp] theorem withSession_aborted (c : Closing τ) (s : Session τ) :
    (c.withSession s).aborted = c.aborted := rfl

/-- A session that nobody has closed. -/
def start (s : Session τ) : Closing τ := ⟨s, .ahead, []⟩

/-! ## The closing call -/

/-- Where the closing call goes once it has begun: a connection that is there or wanted has to be
ended first. -/
def firstPhase (state : ConnectionState) : Phase :=
  if state = .connected ∨ state = .connecting then .asking else .waiting

/-- The next step of the closing call, `none` as long as what it waits for has not happened. -/
def proceed? (c : Closing τ) : Option (Closing τ) :=
  match c.phase with
  | .ahead => some ⟨{ c.session with closed := true }, firstPhase c.session.state, c.aborted⟩
  | .asking => some ⟨c.session.requestDisconnect.2, .waiting, c.aborted⟩
  | .waiting =>
    if c.session.state = .disconnected then some { c with phase := .telling } else none
  | .telling => some ⟨(c.session.send? .shutdown).getD c.session, .signalling, c.aborted⟩
  | .signalling => some ⟨c.session.stopTicker, .joining .worker, c.aborted⟩
  | .joining party => if c.session.hasStopped party then some { c with phase := party.next } else none
  | .leaving => some ⟨c.session.forceDisconnected, .returned, c.aborted⟩
  | .returned => none

/-- The deadline of the closing call is over: it waits no longer for the connection to end, and
aborts a party that has not stopped. -/
def giveUp? (c : Closing τ) : Option (Closing τ) :=
  match c.phase with
  | .waiting => some { c with phase := .telling }
  | .joining party => some { c with phase := party.next, aborted := party :: c.aborted }
  | _ => none

/-! ## Acts and runs -/

/-- Whether a move can be made: an aborted party makes none, and the worker only hears of its link
when no command waits. -/
def permits (c : Closing τ) : Move τ → Bool
  | .takeCommand => !c.aborted.contains .worker
  | .takeEvent => !c.aborted.contains .worker && c.session.commands.isEmpty
  | .dispatch => !c.aborted.contains .dispatcher
  | .tick => !c.aborted.contains .ticker
  | .finishTicker => !c.aborted.contains .ticker
  | _ => true

variable [Transport τ]

/-- One act of one party, `none` if that party has nothing to do. -/
def act? (c : Closing τ) : Act τ → Option (Closing τ)
  | .proceed => c.proceed?
  | .expire => c.giveUp?
  | .drop party =>
    if c.aborted.contains party then (c.session.drop? party).map c.withSession else none
  | .faint =>
    if c.permits .takeEvent ∧ c.session.worker.footing = .waiting ∧ c.session.worker.link ≠ .idle then
      some (c.withSession c.session.stopWorker)
    else none
  | .lateTick =>
    if c.permits .tick ∧ c.session.ticker = .stopping then some (c.withSession c.session.handOver)
    else none
  | .follow => some (c.withSession c.session.follow)
  | .other move => if c.permits move then (c.session.move? move).map c.withSession else none

/-- Acts one after the other; `none` if one of them is not possible. -/
def run? : Closing τ → List (Act τ) → Option (Closing τ)
  | c, [] => some c
  | c, act :: rest => (c.act? act).bind (run? · rest)

@[simp] theorem run?_nil (c : Closing τ) : c.run? [] = some c := rfl

theorem run?_cons (c : Closing τ) (act : Act τ) (rest : List (Act τ)) :
    c.run? (act :: rest) = (c.act? act).bind (run? · rest) := rfl

theorem run?_append (c : Closing τ) (first second : List (Act τ)) :
    c.run? (first ++ second) = (c.run? first).bind (run? · second) := by
  induction first generalizing c with
  | nil => rfl
  | cons act rest ih =>
      rw [List.cons_append, run?_cons, run?_cons]
      cases c.act? act with
      | none => rfl
      | some next => exact ih next

/-- **A run keeps whatever each of its acts keeps.** -/
theorem run?_induct (Keeps : Closing τ → Prop)
    (step : ∀ {c c' : Closing τ} {act : Act τ}, Keeps c → c.act? act = some c' → Keeps c')
    {c c' : Closing τ} {acts : List (Act τ)} (first : Keeps c) (run : c.run? acts = some c') :
    Keeps c' := by
  induction acts generalizing c with
  | nil =>
      obtain rfl := Option.some.inj run
      exact first
  | cons act rest ih =>
      obtain ⟨next, made, remaining⟩ := Option.bind_eq_some_iff.mp run
      exact ih (step first made) remaining

/-- Whether an act is one of a party, or of the closing call, that only waits to be taken up.
Callers, the clock and the network act when they like. -/
def Act.isTask : Act τ → Bool
  | .proceed => true
  | .drop _ => true
  | .other .takeCommand => true
  | .other .takeEvent => true
  | .other .dispatch => true
  | .other .finishTicker => true
  | _ => false

/-- Nobody has anything to do but wait. -/
def Quiet (c : Closing τ) : Prop := ∀ act : Act τ, act.isTask = true → c.act? act = none

/-- In a run no deadline is over before everybody waits. -/
def Patient : Closing τ → List (Act τ) → Prop
  | _, [] => True
  | c, act :: rest => (act = .expire → c.Quiet) ∧ ∀ next, c.act? act = some next → next.Patient rest

/-- A run in which no deadline is over is patient. -/
theorem patient_of_forall_ne {c : Closing τ} {acts : List (Act τ)}
    (prompt : ∀ act ∈ acts, act ≠ .expire) : c.Patient acts := by
  induction acts generalizing c with
  | nil => trivial
  | cons act rest ih =>
      refine ⟨fun expires => absurd expires (prompt act List.mem_cons_self), fun next _ => ?_⟩
      exact ih fun other mem => prompt other (List.mem_cons_of_mem _ mem)

/-- Patient runs, one after the other, are a patient run. -/
theorem Patient.append {c c' : Closing τ} {first second : List (Act τ)} (patient : c.Patient first)
    (run : c.run? first = some c') (later : c'.Patient second) : c.Patient (first ++ second) := by
  induction first generalizing c with
  | nil =>
      obtain rfl := Option.some.inj run
      exact later
  | cons act rest ih =>
      obtain ⟨next, made, remaining⟩ := Option.bind_eq_some_iff.mp run
      refine ⟨patient.1, fun other made' => ?_⟩
      obtain rfl := Option.some.inj (made.symm.trans made')
      exact ih (patient.2 _ made) remaining

/-- The first acts of a patient run are a patient run. -/
theorem Patient.of_append {c : Closing τ} {first second : List (Act τ)}
    (patient : c.Patient (first ++ second)) : c.Patient first := by
  induction first generalizing c with
  | nil => trivial
  | cons act rest ih => exact ⟨patient.1, fun next made => ih (patient.2 next made)⟩

/-- **A patient run keeps whatever each of its acts keeps**, if deadlines are only over when
everybody waits. -/
theorem run?_induct_patient (Keeps : Closing τ → Prop)
    (step : ∀ {c c' : Closing τ} {act : Act τ},
      (act = .expire → c.Quiet) → Keeps c → c.act? act = some c' → Keeps c')
    {c c' : Closing τ} {acts : List (Act τ)} (patient : c.Patient acts) (first : Keeps c)
    (run : c.run? acts = some c') : Keeps c' := by
  induction acts generalizing c with
  | nil =>
      obtain rfl := Option.some.inj run
      exact first
  | cons act rest ih =>
      obtain ⟨next, made, remaining⟩ := Option.bind_eq_some_iff.mp run
      exact ih (patient.2 next made) (step patient.1 first made) remaining

/-! ## What an act does -/

/-- What an act does: the closing call goes on, or another session stands at the same point. -/
inductive Acted (c : Closing τ) : Act τ → Closing τ → Prop
  /-- The session is being closed from now on. -/
  | began (phase : c.phase = .ahead) :
      Acted c .proceed ⟨{ c.session with closed := true }, firstPhase c.session.state, c.aborted⟩
  /-- The end of the connection has been asked for. -/
  | asked (phase : c.phase = .asking) :
      Acted c .proceed ⟨(c.session.ask .disconnect).2, .waiting, c.aborted⟩
  /-- The connection has ended. -/
  | ended (phase : c.phase = .waiting) (state : c.session.state = .disconnected) :
      Acted c .proceed { c with phase := .telling }
  /-- The worker has been told to shut down. -/
  | told (phase : c.phase = .telling) :
      Acted c .proceed ⟨(c.session.send? .shutdown).getD c.session, .signalling, c.aborted⟩
  /-- The ticker has been told to stop. -/
  | signalled (phase : c.phase = .signalling) :
      Acted c .proceed ⟨c.session.stopTicker, .joining .worker, c.aborted⟩
  /-- A party has stopped. -/
  | joined (party : Party) (phase : c.phase = .joining party)
      (stopped : c.session.hasStopped party = true) : Acted c .proceed { c with phase := party.next }
  /-- The closing call has returned. -/
  | left (phase : c.phase = .leaving) :
      Acted c .proceed ⟨c.session.forceDisconnected, .returned, c.aborted⟩
  /-- The connection has not ended in time. -/
  | lapsed (phase : c.phase = .waiting) : Acted c .expire { c with phase := .telling }
  /-- A party has not stopped in time. -/
  | missed (party : Party) (phase : c.phase = .joining party) :
      Acted c .expire { c with phase := party.next, aborted := party :: c.aborted }
  /-- A move that was permitted has been made. -/
  | moved {move : Move τ} {s : Session τ} (permitted : c.permits move = true)
      (made : c.session.move? move = some s) : Acted c (.other move) (c.withSession s)
  /-- The worker was brought down by its link. -/
  | fainted (permitted : c.permits .takeEvent = true) (waiting : c.session.worker.footing = .waiting) :
      Acted c .faint (c.withSession c.session.stopWorker)
  /-- The worker was aborted, and has been dropped. -/
  | ousted (aborted : .worker ∈ c.aborted) (standing : c.session.worker.footing ≠ .stopped) :
      Acted c (.drop .worker) (c.withSession c.session.stopWorker)
  /-- The ticker was aborted, and has been dropped with what was buffered. -/
  | unhinged (aborted : .ticker ∈ c.aborted) (standing : c.session.ticker ≠ .stopped) :
      Acted c (.drop .ticker) (c.withSession { c.session with ticker := .stopped })
  /-- The ticker has ticked once more although it was told to stop. -/
  | lateTicked (stopping : c.session.ticker = .stopping) :
      Acted c .lateTick (c.withSession c.session.handOver)
  | followed : Acted c .follow (c.withSession c.session.follow)

/-- What the closing call does when what it waits for has happened. -/
theorem acted_of_proceed? {c c' : Closing τ} (made : c.proceed? = some c') :
    c.Acted .proceed c' := by
  unfold proceed? at made
  split at made
  · rename_i phase
    obtain rfl := Option.some.inj made
    exact .began phase
  · rename_i phase
    obtain rfl := Option.some.inj made
    exact .asked phase
  · rename_i phase
    obtain ⟨state, made⟩ := Option.ite_none_right_eq_some.mp made
    obtain rfl := Option.some.inj made
    exact .ended phase state
  · rename_i phase
    obtain rfl := Option.some.inj made
    exact .told phase
  · rename_i phase
    obtain rfl := Option.some.inj made
    exact .signalled phase
  · rename_i party phase
    obtain ⟨stopped, made⟩ := Option.ite_none_right_eq_some.mp made
    obtain rfl := Option.some.inj made
    exact .joined party phase stopped
  · rename_i phase
    obtain rfl := Option.some.inj made
    exact .left phase
  · contradiction

/-- What the closing call does when its deadline is over. -/
theorem acted_of_giveUp? {c c' : Closing τ} (made : c.giveUp? = some c') : c.Acted .expire c' := by
  unfold giveUp? at made
  split at made
  · rename_i phase
    obtain rfl := Option.some.inj made
    exact .lapsed phase
  · rename_i party phase
    obtain rfl := Option.some.inj made
    exact .missed party phase
  · contradiction

/-- **What an act does.** -/
theorem acted_of_act? {c c' : Closing τ} {act : Act τ} (made : c.act? act = some c') :
    c.Acted act c' := by
  cases act with
  | proceed => exact acted_of_proceed? made
  | expire => exact acted_of_giveUp? made
  | drop party =>
    simp only [act?, Option.ite_none_right_eq_some, List.contains_iff_mem] at made
    obtain ⟨aborted, made⟩ := made
    obtain ⟨s, dropped, rfl⟩ := Option.map_eq_some_iff.mp made
    cases party with
    | worker =>
      obtain ⟨standing, dropped⟩ := Option.ite_none_left_eq_some.mp dropped
      obtain rfl := Option.some.inj dropped
      exact .ousted aborted (by simpa [Worker.isStopped] using standing)
    | ticker =>
      obtain ⟨standing, dropped⟩ := Option.ite_none_left_eq_some.mp dropped
      obtain rfl := Option.some.inj dropped
      exact .unhinged aborted standing
    | dispatcher => cases dropped
  | faint =>
    simp only [act?, Option.ite_none_right_eq_some] at made
    obtain ⟨⟨permitted, waiting, -⟩, made⟩ := made
    obtain rfl := Option.some.inj made
    exact .fainted permitted waiting
  | lateTick =>
    simp only [act?, Option.ite_none_right_eq_some] at made
    obtain ⟨⟨-, stopping⟩, made⟩ := made
    obtain rfl := Option.some.inj made
    exact .lateTicked stopping
  | follow =>
    obtain rfl := Option.some.inj made
    exact .followed
  | other move =>
    simp only [act?, Option.ite_none_right_eq_some] at made
    obtain ⟨permitted, made⟩ := made
    obtain ⟨s, moved, rfl⟩ := Option.map_eq_some_iff.mp made
    exact .moved permitted moved

end Closing

end MqttSessions
