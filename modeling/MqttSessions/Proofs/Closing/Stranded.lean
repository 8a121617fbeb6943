import MqttSessions.Proofs.Closing.Order
import MqttSessions.Proofs.Session.Agreement
import MqttSessions.Proofs.Session.Wire

/-! # When the transport brings the worker down

A transport may bring the worker of a session down, in any call and also while it is polled
(**`Closing.Fells`**). Nobody takes a command any more, and nothing is reported any more, so that the
state of the session only changes in three ways (**`Session.Faded`**): what was reported before is
dispatched, a caller finds out that nobody is left, or the closing call returns.

A caller finds out by asking for something that is to be sent to the worker. Asking to connect or
asking to disconnect does so in every state but one: while the session is disconnecting both are
refused (**`Session.recovers_iff`**). So what matters is whether the session gets out of that state.

* **`Session.Stranded.faded`**: it does not if the end of the connection has not been reported. That
  is so when the worker goes down with a request to disconnect in its queue, or while it handles one
  (**`Closing.Sane.stranded`**);
* **`Session.Ending.faded`**: it does if that end waits to be dispatched, as in every other case
  (**`Closing.Sane.ending`**);
* **`Closing.recovers_unless_pending`**: a session whose worker has been brought down recovers unless
  a request to disconnect went down with it. Else it is disconnecting until it is closed. -/

namespace MqttSessions

/-! ## Commands and outcomes that are queued -/

/-- A request to disconnect is queued exactly when its command is. -/
theorem Command.disconnectRequested_mem_iff {commands : List Command} :
    ConnectionEvent.disconnectRequested ∈ commands.filterMap Command.event? ↔
      Command.disconnect ∈ commands := by
  rw [List.mem_filterMap]
  constructor
  · rintro ⟨command, mem, stands⟩
    cases command <;> cases stands
    exact mem
  · intro mem
    exact ⟨.disconnect, mem, rfl⟩

namespace Stage

variable {state : ConnectionState} {link : Link} {requests outcomes : List ConnectionEvent}

/-- While a request to disconnect is queued its end has not been reported. -/
theorem requested (stage : Stage state link requests outcomes)
    (queued : .disconnectRequested ∈ requests) :
    state = .disconnecting ∧ .teardownComplete ∉ outcomes := by
  cases stage with
  | recalled before => exact ⟨rfl, before⟩
  | parting before => exact ⟨rfl, before⟩
  | _ => simp at queued

/-- A session that is disconnecting has the request queued still, or its end is reported. -/
theorem released_of_disconnecting (stage : Stage .disconnecting link requests outcomes)
    (taken : .disconnectRequested ∉ requests) : .teardownComplete ∈ outcomes := by
  cases stage with
  | recalled | parting => simp at taken
  | parted before last => simp [last]

end Stage

namespace Worker

variable {τ : Type} [Transport τ]

/-- A fatal call stops the worker. -/
theorem call_fatal {worker : Worker τ} {c : Call}
    (fatal : (Transport.perform c worker.transport).1 = .fatal) :
    (worker.call c).1 = .fatal ∧ (worker.call c).2.footing = .stopped := by
  simp only [call, fatal, and_self]

theorem teardown_fatal {worker : Worker τ} (active : worker.link ≠ .idle)
    (fatal : (Transport.perform .disconnect worker.transport).1 = .fatal) :
    worker.teardown.footing = .stopped := by
  have down := call_fatal fatal
  rw [teardown, if_neg active]
  revert down
  obtain ⟨answer, called⟩ := worker.call .disconnect
  rintro ⟨rfl, stopped⟩
  exact stopped

/-- **A worker whose call is fatal stops**, whichever command it has taken. -/
theorem take_fatal {worker : Worker τ} {command : Command}
    (heard : command.isHeard worker.link = true)
    (fatal : (Transport.perform command.call worker.transport).1 = .fatal) :
    (worker.take command).1.footing = .stopped := by
  have down := call_fatal fatal
  cases command with
  | connect profile =>
    have idle : worker.link = .idle := by simpa [Command.isHeard] using heard
    simp only [take, connect, if_pos idle]
    revert down
    simp only [Command.call]
    obtain ⟨answer, called⟩ := worker.call (.connect profile)
    rintro ⟨rfl, stopped⟩
    exact stopped
  | disconnect => exact teardown_fatal (by simpa [Command.isHeard] using heard) fatal
  | subscribe | unsubscribe | publish =>
    have up : worker.link = .up := by simpa [Command.isHeard] using heard
    simp only [take, send, if_pos up]
    exact down.2
  | shutdown =>
    have stopped := teardown_fatal (by simpa [Command.isHeard] using heard) fatal
    simp only [take]
    rw [if_neg (by simp [stopped])]
    exact stopped

end Worker

namespace Session

variable {τ : Type} {s s' : Session τ}

/-! ## A session without a worker -/

/-- What has been reported about the connection and waits to be dispatched. -/
def outcomes (s : Session τ) : List ConnectionEvent := s.reports.filterMap Report.event?

/-- What goes on in a session whose worker has stopped: nothing, or an outcome is dispatched, or a
connection that was not about to end has ended because nobody is left for it. -/
inductive Faded (s s' : Session τ) : Prop
  | kept (state : s'.state = s.state) (outcomes : s'.outcomes = s.outcomes)
  | heard {report : Report} {event : ConnectionEvent} (reported : report.event? = some event)
      (outcomes : s.outcomes = event :: s'.outcomes)
      (state : s'.state = (s.state.next? event).getD s.state)
  | ended (other : s.state ≠ .disconnecting) (state : s'.state = .disconnected)
      (outcomes : s'.outcomes = s.outcomes)

theorem Undisturbed.outcomes (same : Undisturbed s s') : s'.outcomes = s.outcomes := by
  obtain ⟨reports, silent, added⟩ := same.reports
  rw [Session.outcomes, added, List.filterMap_append, List.filterMap_eq_nil_iff.mpr silent,
    List.append_nil]
  rfl

/-- While a session is disconnecting no request moves it. -/
theorem ask_disconnecting (state : s.state = .disconnecting) (request : Request) :
    (s.ask request).2.state = .disconnecting := by
  have unconnected : s.state ≠ .connected := by simp [state]
  cases request with
  | connect =>
    rcases requestConnect_cases s with ⟨_, made⟩ | ⟨other, -⟩ | ⟨other, -⟩
    · rwa [ask, made]
    · cases state.symm.trans other
    · cases state.symm.trans other
  | disconnect =>
    rcases requestDisconnect_cases s with ⟨_, made⟩ | ⟨other, -⟩
    · rwa [ask, made]
    · simp [state] at other
  | subscribe topic qos color =>
    rcases subscribe_cases s topic qos color with ⟨_, made⟩ | ⟨-, connected, -⟩
    · rwa [ask, made]
    · exact absurd connected unconnected
  | unsubscribe topic =>
    rcases unsubscribe_cases s topic with ⟨_, made⟩ | ⟨-, connected, -⟩
    · rwa [ask, made]
    · exact absurd connected unconnected
  | publish topic payload qos retain =>
    rcases publish_cases s topic payload qos retain with ⟨_, made⟩ | ⟨-, connected, -⟩
    · rwa [ask, made]
    · exact absurd connected unconnected
  | setEnabled topic enabled =>
    rw [ask, setEnabled]
    split <;> exact state
  | clearHistory => exact state

/-- A request of a session without a worker is refused, or ends the connection. -/
theorem faded_ask (stopped : s.worker.footing = .stopped) (request : Request) :
    Faded s (s.ask request).2 := by
  have reports : (s.ask request).2.outcomes = s.outcomes := by rw [outcomes, ask_reports]; rfl
  have parting := fun state => ask_disconnecting (s := s) state request
  have asked := ask_asked s request
  generalize (s.ask request).1 = outcome at asked
  cases asked with
  | granted _ accepts =>
    -- only a worker that goes on accepts a command
    exact absurd stopped accepts
  | passed _ _ state => exact .kept state reports
  | forsaken _ state =>
    refine .ended (fun leaving => ?_) state reports
    cases state.symm.trans (parting leaving)

theorem faded_dispatch (made : s.dispatch? = some s') : Faded s s' := by
  obtain ⟨report, queued, -, -, -, state⟩ := dispatch?_eq_some made
  cases stands : report.event? with
  | none =>
    rw [stands] at state
    refine .kept state ?_
    rw [outcomes, outcomes, queued, List.filterMap_cons_none stands]
  | some event =>
    rw [stands] at state
    refine .heard stands ?_ state
    rw [outcomes, queued, List.filterMap_cons_some stands]
    rfl

/-- Without a worker a session that is disconnected stays so. -/
theorem Faded.disconnected (faded : Faded s s') (state : s.state = .disconnected) :
    s'.state = .disconnected := by
  cases faded with
  | kept same => exact same.trans state
  | @heard report event reported _ next =>
    rw [next, state]
    cases report <;> cases reported <;> rfl
  | ended _ state => exact state

/-- A session that never leaves its state again by itself: it is disconnecting, its worker has stopped,
and the end of the connection has not been reported. -/
structure Stranded (s : Session τ) : Prop where
  state : s.state = .disconnecting
  unreported : .teardownComplete ∉ s.outcomes

theorem Stranded.faded (stranded : s.Stranded) (faded : Faded s s') : s'.Stranded := by
  obtain ⟨state, unreported⟩ := stranded
  cases faded with
  | kept same outcomes => exact ⟨same.trans state, outcomes ▸ unreported⟩
  | heard _ outcomes next =>
    rw [outcomes] at unreported
    obtain ⟨ignored, later⟩ := ConnectionState.ignored_of_disconnecting unreported
    rw [state, ignored] at next
    exact ⟨next, later⟩
  | ended other => exact absurd state other

/-- A session that only is disconnecting as long as the end of the connection waits to be dispatched. -/
def Ending (s : Session τ) : Prop := s.state = .disconnecting → .teardownComplete ∈ s.outcomes

theorem Ending.faded (ending : s.Ending) (faded : Faded s s') : s'.Ending := by
  intro leaving
  cases faded with
  | kept same outcomes => exact outcomes ▸ ending (same ▸ leaving)
  | @heard report event reported outcomes next =>
    -- no outcome makes a session disconnecting, so that it was, and what it waits for is still queued
    rw [next] at leaving
    have before : s.state = .disconnecting := by
      cases report <;> cases reported <;> cases state : s.state <;> simp_all [ConnectionState.next?]
    have waits := ending before
    rw [outcomes] at waits
    refine (List.mem_cons.mp waits).resolve_left ?_
    rintro rfl
    rw [before] at leaving
    cases leaving
  | ended _ state => cases state.symm.trans leaving

/-! ## Asking for a connection or its end -/

/-- Asking to connect or asking to disconnect leaves the session disconnected. -/
def Recovers (s : Session τ) : Prop :=
  s.requestConnect.2.state = .disconnected ∨ s.requestDisconnect.2.state = .disconnected

/-- While a session is disconnecting both are refused. -/
theorem refused_of_disconnecting (state : s.state = .disconnecting) :
    s.requestConnect = (.error (.invalidState Operation.connect.text .disconnecting), s) ∧
      s.requestDisconnect = (.error (.invalidState Operation.disconnect.text .disconnecting), s) := by
  simp [requestConnect, requestDisconnect, transition?, state, ConnectionState.next?]

/-- **Without a worker one of the two leaves the session disconnected exactly when it is not
disconnecting.** -/
theorem recovers_iff (stopped : s.worker.footing = .stopped) :
    s.Recovers ↔ s.state ≠ .disconnecting := by
  constructor
  · intro recovers leaving
    obtain ⟨connect, disconnect⟩ := refused_of_disconnecting leaving
    rw [Recovers, connect, disconnect, leaving] at recovers
    simp at recovers
  · intro other
    cases state : s.state with
    | disconnecting => exact absurd state other
    | disconnected =>
      rw [Recovers, requestConnect_forsaken state stopped]
      exact .inl rfl
    | connecting | connected =>
      have made : s.transition? .disconnectRequested = some (s.enter .disconnecting) :=
        transition?_eq_some_iff.mpr ⟨_, by rw [state]; rfl, rfl⟩
      refine .inr ?_
      simp only [requestDisconnect, made]
      rw [send?_of_stopped (s := s.enter .disconnecting) stopped]
      exact forceDisconnected_state _

end Session

namespace Closing

open Session

variable {τ : Type} [Transport τ] {c c' : Closing τ} {act : Act τ}

/-! ## The worker is brought down -/

/-- The transport brings the worker down in an act: while it is polled, or in the call for a command. -/
def Fells (c : Closing τ) : Act τ → Prop
  | .faint => True
  | .other .takeCommand =>
    ∃ command ∈ c.session.commands.head?, command.isHeard c.session.worker.link = true ∧
      (Transport.perform command.call c.session.worker.transport).1 = .fatal
  | _ => False

/-- What is known of an act that brings the worker down. -/
structure Felled (c c' : Closing τ) : Prop where
  waiting : c.session.worker.footing = .waiting
  spared : .worker ∉ c.aborted
  stopped : c'.session.worker.footing = .stopped
  state : c'.session.state = c.session.state
  outcomes : c'.session.outcomes = c.session.outcomes
  phase : c'.phase = c.phase

theorem felled_of_act? (fells : c.Fells act) (made : c.act? act = some c') : Felled c c' := by
  have acted := acted_of_act? made
  cases acted with
  | fainted permitted waiting =>
    simp only [permits, Bool.and_eq_true, Bool.not_eq_true', List.contains_eq_mem,
      decide_eq_false_iff_not] at permitted
    refine ⟨waiting, permitted.1, rfl, rfl, ?_, rfl⟩
    simp [outcomes, stopWorker, settleWorker]
  | @moved move s permitted took =>
    cases move with
    | takeCommand =>
      obtain ⟨command, first, heard, fatal⟩ := fells
      obtain ⟨waiting, head, rest, commands, rfl⟩ := takeCommand?_eq_some_iff.mp took
      obtain rfl : head = command := by simpa [commands] using first
      have stopped := Worker.take_fatal heard fatal
      have silent : (c.session.worker.take head).2 = [] :=
        Worker.take_silent waiting (by simp [stopped])
      simp only [permits, Bool.not_eq_true', List.contains_eq_mem, decide_eq_false_iff_not] at permitted
      refine ⟨waiting, permitted, stopped, rfl, ?_, rfl⟩
      simp [outcomes, settleWorker, silent]
    | _ => exact fells.elim
  | _ => exact fells.elim

/-! ## Until then -/

/-- While the worker waits and has not been aborted, state, link and queues fit together. -/
structure Sane (c : Closing τ) : Prop where
  orderly : c.Orderly
  fits : c.session.worker.footing = .waiting → .worker ∉ c.aborted → c.session.Fits

theorem sane_of_act? (sane : c.Sane) (made : c.act? act = some c') : c'.Sane where
  orderly := orderly_of_act? sane.orderly made
  fits waiting spared := by
    obtain ⟨orderly, fits⟩ := sane
    have acted := acted_of_act? made
    cases acted with
    | began | ended | joined | lapsed | signalled | unhinged => exact fits waiting spared
    | asked =>
      have before : c.session.worker.footing = .waiting := by simpa using waiting
      exact (fits before spared).ask before _
    | told =>
      have before : c.session.worker.footing = .waiting := by
        obtain ⟨_, sent⟩ := send?_getD c.session .shutdown
        simpa [sent] using waiting
      have sent := send?_of_ne_stopped (s := c.session) (by simp [before]) .shutdown
      simp only [sent, Option.getD_some]
      exact (fits before spared).of_silent [.shutdown] [] rfl rfl (by simp [Command.event?]) rfl
        (by simp) (by simp)
    | left phase =>
      -- the call has not left before the worker has stopped or was aborted
      rcases orderly.joined .worker (by rw [phase]; rfl) with stopped | aborted
      · rw [hasStopped_worker_iff] at stopped
        simp [stopped] at waiting
      · exact absurd aborted spared
    | missed party phase => exact fits waiting (List.not_mem_of_not_mem_cons spared)
    | moved permitted took =>
      exact fits_of_move? (fits (waiting_of_move? took waiting) spared) took waiting
    | fainted | ousted => cases waiting
    | lateTicked =>
      have same := handOver_undisturbed c.session
      exact (fits (same.footing.symm.trans waiting) spared).undisturbed same
    | followed =>
      obtain ⟨_, same⟩ := follow_frame c.session
      simp only [withSession_session, same] at waiting ⊢
      exact fits waiting spared

/-- In every run from a new session state, link and queues fit together while the worker is at work. -/
theorem sane_of_run? {profile : Profile} {transport : τ} {settings : SessionSettings}
    {acts : List (Act τ)} (run : (start (create profile transport settings)).run? acts = some c) :
    c.Sane :=
  run?_induct Sane sane_of_act? ⟨start_orderly _, fun _ _ => create_fits profile transport settings⟩ run

omit [Transport τ] in
/-- The closing call has not returned when the worker is brought down. -/
theorem Sane.felled_phase (sane : c.Sane) (felled : Felled c c') : c'.phase ≠ .returned := by
  intro returned
  rcases sane.orderly.joined .worker (by rw [← felled.phase, returned]; rfl) with stopped | aborted
  · cases felled.waiting.symm.trans (hasStopped_worker_iff.mp stopped)
  · exact felled.spared aborted

omit [Transport τ] in
/-- **A session is left disconnecting for good when the request to disconnect was queued still**, or
being handled. -/
theorem Sane.stranded (sane : c.Sane) (felled : Felled c c')
    (pending : .disconnect ∈ c.session.commands) : c'.session.Stranded := by
  have stage := (sane.fits felled.waiting felled.spared).stage
  obtain ⟨state, unreported⟩ := stage.requested (Command.disconnectRequested_mem_iff.mpr pending)
  exact ⟨felled.state.trans state, felled.outcomes ▸ unreported⟩

omit [Transport τ] in
/-- Else it is disconnecting only until the end of the connection has been dispatched. -/
theorem Sane.ending (sane : c.Sane) (felled : Felled c c')
    (taken : .disconnect ∉ c.session.commands) : c'.session.Ending := by
  intro leaving
  have stage := (sane.fits felled.waiting felled.spared).stage
  rw [← felled.state, leaving] at stage
  rw [felled.outcomes]
  exact stage.released_of_disconnecting fun queued =>
    taken (Command.disconnectRequested_mem_iff.mp queued)

/-! ## Afterwards -/

/-- **What goes on once the worker has stopped.** The session fades, or the closing call returns. -/
theorem faded_of_acted (acted : c.Acted act c') (stopped : c.session.worker.footing = .stopped) :
    c'.session.worker.footing = .stopped ∧
      (Faded c.session c'.session ∧ (c'.phase = .returned ↔ c.phase = .returned) ∨
        c'.phase = .returned ∧ c'.session.state = .disconnected) := by
  have down := hasStopped_of_acted acted .worker (hasStopped_worker_iff.mpr stopped)
  refine ⟨hasStopped_worker_iff.mp down, ?_⟩
  cases acted with
  | began phase =>
    refine .inl ⟨.kept rfl rfl, ?_⟩
    rcases firstPhase_cases c.session.state with first | first <;> simp [first, phase]
  | asked phase => exact .inl ⟨faded_ask stopped .disconnect, by simp [phase]⟩
  | told phase =>
    -- nobody is left to be told
    refine .inl ⟨?_, by simp [phase]⟩
    rw [send?_of_stopped stopped, Option.getD_none]
    exact .kept rfl rfl
  | ended phase | signalled phase | lapsed phase => exact .inl ⟨.kept rfl rfl, by simp [phase]⟩
  | joined party phase | missed party phase =>
    exact .inl ⟨.kept rfl rfl, by cases party <;> simp [phase, Party.next]⟩
  | left phase => exact .inr ⟨rfl, forceDisconnected_state _⟩
  | @moved move _ _ took =>
    refine .inl ⟨?_, Iff.rfl⟩
    cases move with
    | ask request =>
      obtain rfl := Option.some.inj took
      exact faded_ask stopped request
    | takeCommand => cases stopped.symm.trans (takeCommand?_eq_some_iff.mp took).1
    | takeEvent => cases stopped.symm.trans (takeEvent?_inversion took).1
    | dispatch => exact faded_dispatch took
    | tick | finishTicker | elapse | drift =>
      have same := undisturbed_of_move? rfl took
      exact .kept same.state same.outcomes
  | fainted permitted waiting => cases stopped.symm.trans waiting
  | ousted aborted standing => exact absurd stopped standing
  | unhinged => exact .inl ⟨.kept rfl rfl, Iff.rfl⟩
  | lateTicked =>
    have same := handOver_undisturbed c.session
    exact .inl ⟨.kept same.state same.outcomes, Iff.rfl⟩
  | followed =>
    obtain ⟨_, same⟩ := follow_frame c.session
    rw [same]
    exact .inl ⟨.kept rfl rfl, Iff.rfl⟩

/-- A session that is stranded until the closing call has returned, and disconnected from then on. -/
structure Held (c : Closing τ) : Prop where
  stopped : c.session.worker.footing = .stopped
  stranded : c.phase ≠ .returned → c.session.Stranded
  released : c.phase = .returned → c.session.state = .disconnected

theorem held_of_act? (held : c.Held) (made : c.act? act = some c') : c'.Held := by
  obtain ⟨stopped, after⟩ := faded_of_acted (acted_of_act? made) held.stopped
  rcases after with ⟨faded, phase⟩ | ⟨returned, state⟩
  · refine ⟨stopped, fun pending => ?_, fun returned => ?_⟩
    · exact (held.stranded (pending ∘ phase.mpr)).faded faded
    · exact faded.disconnected (held.released (phase.mp returned))
  · exact ⟨stopped, fun pending => absurd returned pending, fun _ => state⟩

omit [Transport τ] in
/-- What the transport leaves behind if it brings the worker down with a request to disconnect. -/
theorem Sane.held (sane : c.Sane) (felled : Felled c c')
    (pending : .disconnect ∈ c.session.commands) : c'.Held where
  stopped := felled.stopped
  stranded _ := sane.stranded felled pending
  released returned := absurd returned (sane.felled_phase felled)

/-- Nobody works for a session any more, and it ends by itself. -/
structure Forlorn (c : Closing τ) : Prop where
  stopped : c.session.worker.footing = .stopped
  ending : c.session.Ending

theorem forlorn_of_act? (forlorn : c.Forlorn) (made : c.act? act = some c') : c'.Forlorn := by
  obtain ⟨stopped, ⟨faded, -⟩ | ⟨-, state⟩⟩ := faded_of_acted (acted_of_act? made) forlorn.stopped
  · exact ⟨stopped, forlorn.ending.faded faded⟩
  · refine ⟨stopped, fun leaving => ?_⟩
    cases state.symm.trans leaving

/-- **A session recovers from a worker that is brought down unless its request to disconnect goes
down with it.** Take any run of a new session in which the transport brings the worker down, in
whatever call and at whatever point, and anything that goes on afterwards, until every outcome that
was reported has been dispatched. Then asking to connect or asking to disconnect leaves the session
disconnected, unless a request to disconnect was queued still when the worker went down, or being
handled, and no closing call has returned since. In that case both are refused because the session is
disconnecting, and it is disconnecting as long as no closing call has returned. -/
theorem recovers_unless_pending {profile : Profile} {transport : τ} {settings : SessionSettings}
    {before later : List (Act τ)} {c₁ c₂ : Closing τ}
    (run : (start (create profile transport settings)).run? before = some c₁)
    (fells : c₁.Fells act) (made : c₁.act? act = some c₂) (since : c₂.run? later = some c)
    (heard : c.session.outcomes = []) :
    (c.session.Recovers ↔ ¬(.disconnect ∈ c₁.session.commands ∧ c.phase ≠ .returned)) ∧
      (.disconnect ∈ c₁.session.commands → c.phase ≠ .returned →
        c.session.requestConnect =
            (.error (.invalidState Operation.connect.text .disconnecting), c.session) ∧
          c.session.requestDisconnect =
            (.error (.invalidState Operation.disconnect.text .disconnecting), c.session) ∧
          ∀ more c', c.run? more = some c' → c'.phase ≠ .returned →
            c'.session.state = .disconnecting) := by
  have sane := sane_of_run? run
  have felled := felled_of_act? fells made
  by_cases pending : .disconnect ∈ c₁.session.commands
  · have held : c.Held := run?_induct Held held_of_act? (sane.held felled pending) since
    constructor
    · rw [recovers_iff held.stopped]
      by_cases returned : c.phase = .returned
      · simp [returned, held.released returned]
      · simp [pending, returned, (held.stranded returned).state]
    · intro _ waits
      obtain ⟨connect, disconnect⟩ := refused_of_disconnecting (held.stranded waits).state
      refine ⟨connect, disconnect, fun more c' further waits' => ?_⟩
      exact ((run?_induct Held held_of_act? held further).stranded waits').state
  · -- the end of the connection has been reported if one was asked for
    have forlorn : c.Forlorn :=
      run?_induct Forlorn forlorn_of_act? ⟨felled.stopped, sane.ending felled pending⟩ since
    refine ⟨?_, fun queued => absurd queued pending⟩
    rw [recovers_iff forlorn.stopped]
    constructor
    · exact fun _ both => pending both.1
    · intro _ leaving
      -- nothing waits to be dispatched, so that the session would never be disconnected
      have waits := forlorn.ending leaving
      simp [heard] at waits

/-! A caller connects, and the transport brings the worker down in the next call that the caller asks
for. -/

/-- A caller asks for a connection, and it is there. -/
def connecting : List (Act Rehearsal) :=
  [.other (.ask .connect), .other .takeCommand, .other .takeEvent, .other .dispatch]

/-- A session whose worker went down while it published recovers. -/
theorem recovers_unless_pending_published :
    ∃ c₁ c₂, (start (rehearsed { panic := [.publish] })).run?
        (connecting ++ [.other (.ask (.publish "a" [] .atMostOnce false))]) = some c₁ ∧
      c₁.Fells (.other .takeCommand) ∧ c₁.act? (.other .takeCommand) = some c₂ ∧
        c₂.session.outcomes = [] ∧ c₂.session.state = .connected ∧ c₂.session.Recovers := by
  obtain ⟨c₁, c₂, run, made, heard, state, untroubled⟩ : ∃ c₁ c₂,
      (start (rehearsed { panic := [.publish] })).run?
          (connecting ++ [.other (.ask (.publish "a" [] .atMostOnce false))]) = some c₁ ∧
        c₁.act? (.other .takeCommand) = some c₂ ∧ c₂.session.outcomes = [] ∧
          c₂.session.state = .connected ∧ c₁.session.commands = [.publish "a" [] .atMostOnce false] :=
    ⟨_, _, rfl, rfl, rfl, rfl, rfl⟩
  have fells : c₁.Fells (.other .takeCommand) := by
    obtain rfl := Option.some.inj run
    exact ⟨_, rfl, rfl, rfl⟩
  refine ⟨c₁, c₂, run, fells, made, heard, state, ?_⟩
  exact (recovers_unless_pending run fells made (run?_nil c₂) heard).1.mpr (by simp [untroubled])

/-- A session whose worker went down while it disconnected is disconnecting for good: both requests are
refused, nothing is queued or waits to be dispatched, and whatever goes on, both are refused as long as
the session is not closed. -/
theorem stranded_while_disconnecting :
    ∃ c₁ c₂, (start (rehearsed { panic := [.disconnect] })).run?
        (connecting ++ [.other (.ask .disconnect)]) = some c₁ ∧
      c₁.Fells (.other .takeCommand) ∧ c₁.act? (.other .takeCommand) = some c₂ ∧
        c₂.session.commands = [] ∧ c₂.session.reports = [] ∧ ¬c₂.session.Recovers ∧
          ∀ more c', c₂.run? more = some c' → c'.phase ≠ .returned →
            c'.session.requestConnect =
                (.error (.invalidState Operation.connect.text .disconnecting), c'.session) ∧
              c'.session.requestDisconnect =
                (.error (.invalidState Operation.disconnect.text .disconnecting), c'.session) := by
  obtain ⟨c₁, c₂, run, made, commands, reports, queued⟩ : ∃ c₁ c₂,
      (start (rehearsed { panic := [.disconnect] })).run?
          (connecting ++ [.other (.ask .disconnect)]) = some c₁ ∧
        c₁.act? (.other .takeCommand) = some c₂ ∧ c₂.session.commands = [] ∧ c₂.session.reports = [] ∧
          c₁.session.commands = [.disconnect] :=
    ⟨_, _, rfl, rfl, rfl, rfl, rfl⟩
  have fells : c₁.Fells (.other .takeCommand) := by
    obtain rfl := Option.some.inj run
    exact ⟨_, rfl, rfl, rfl⟩
  have sane := sane_of_run? run
  have felled := felled_of_act? fells made
  have pending : Command.disconnect ∈ c₁.session.commands := by simp [queued]
  refine ⟨c₁, c₂, run, fells, made, commands, reports, ?_, fun more c' further waits => ?_⟩
  · rw [recovers_iff felled.stopped]
    exact not_not_intro (sane.stranded felled pending).state
  · have held : c'.Held := run?_induct Held held_of_act? (sane.held felled pending) further
    exact refused_of_disconnecting (held.stranded waits).state

end Closing

end MqttSessions
