import MqttSessions.Proofs.Session.Effects
import MqttSessions.Proofs.Session.Stage

/-! # State and link agree

While its worker waits, a session is in a **`Stage`** (**`Session.Fits`**): its state, its link and
what its queues hold about the connection fit together. Every move keeps that
(**`Session.fits_of_move?`**), so every run from a new session does. Whenever both queues are empty
state and link therefore agree: there is a link exactly while the session is connecting or connected
(**`Session.drained_state_link`**). -/

namespace MqttSessions

namespace Session

variable {τ : Type}

/-- State, link and queues of a session fit together, once some more requests will have been
queued. -/
def FitsWith (s : Session τ) (later : List ConnectionEvent) : Prop :=
  Stage s.state s.worker.link (s.commands.filterMap Command.event? ++ later)
    (s.reports.filterMap Report.event?)

/-- State, link and queues of a session fit together. -/
def Fits (s : Session τ) : Prop := s.FitsWith []

theorem Fits.stage {s : Session τ} (fits : s.Fits) :
    Stage s.state s.worker.link (s.commands.filterMap Command.event?)
      (s.reports.filterMap Report.event?) := by
  unfold Fits FitsWith at fits
  rwa [List.append_nil] at fits

theorem create_fits (profile : Profile) (transport : τ) (settings : SessionSettings) :
    (create profile transport settings).Fits := Stage.rest

variable {later : List ConnectionEvent}

/-! ## What the parties keep -/

/-- Commands and reports that stand for no event do not matter. -/
theorem FitsWith.of_silent {s s' : Session τ} (fits : s.FitsWith later) (commands : List Command)
    (reports : List Report) (state : s'.state = s.state) (link : s'.worker.link = s.worker.link)
    (silentCommands : ∀ command ∈ commands, command.event? = none)
    (queued : s'.commands = s.commands ++ commands)
    (silentReports : ∀ report ∈ reports, report.event? = none)
    (reported : s'.reports = s.reports ++ reports) : s'.FitsWith later := by
  unfold FitsWith at fits ⊢
  rw [state, link, queued, reported, List.filterMap_append, List.filterMap_append,
    List.filterMap_eq_nil_iff.mpr silentCommands, List.filterMap_eq_nil_iff.mpr silentReports,
    List.append_nil, List.append_nil]
  exact fits

/-- A caller's request that asks for nothing of the connection keeps state, link and queues fitting
together. -/
theorem FitsWith.ask {s : Session τ} (fits : s.FitsWith later) (waiting : s.worker.footing = .waiting)
    {request : Request} (other : request.event? = none) : (s.ask request).2.FitsWith later := by
  have asked := ask_asked s request
  generalize (s.ask request).1 = outcome at asked
  cases asked with
  | granted stands =>
    rw [other] at stands
    cases stands
  | passed commands _ state silent queued =>
    exact fits.of_silent commands [] state (by rw [ask_worker]) silent queued (by simp) (by simp)
  | forsaken stopped => exact absurd (waiting.symm.trans stopped) (by simp)

/-- A caller's request keeps state, link and queues fitting together. -/
theorem Fits.ask {s : Session τ} (fits : s.Fits) (waiting : s.worker.footing = .waiting)
    (request : Request) : (s.ask request).2.Fits := by
  have asked := ask_asked s request
  generalize (s.ask request).1 = outcome at asked
  cases asked with
  | @granted _ event command stands accepts legal said queued =>
    have stage := fits.stage
    unfold Fits FitsWith
    rw [ask_worker, ask_reports, queued, List.filterMap_append, List.append_nil]
    -- only two commands stand for an event
    cases command <;> cases said
    · exact stage.connectRequested legal
    · exact stage.disconnectRequested legal
  | passed commands other state silent queued =>
    exact FitsWith.of_silent fits commands [] state (by rw [ask_worker]) silent queued (by simp)
      (by simp)
  | forsaken stopped => exact absurd (waiting.symm.trans stopped) (by simp)

/-- The dispatcher keeps state, link and queues fitting together. -/
theorem FitsWith.dispatch? {s s' : Session τ} (fits : s.FitsWith later)
    (made : s.dispatch? = some s') : s'.FitsWith later := by
  obtain ⟨report, queued, worker, -, commands, state⟩ := dispatch?_eq_some made
  unfold FitsWith at fits ⊢
  -- restored subscriptions stand for no event
  rw [worker, commands, state, List.filterMap_append, restored_event?, List.append_nil]
  rw [queued] at fits
  cases stands : report.event? with
  | none =>
    rw [List.filterMap_cons_none stands] at fits
    exact fits
  | some event =>
    rw [List.filterMap_cons_some stands] at fits
    exact fits.dispatched

/-- What goes on in the background keeps state, link and queues fitting together. -/
theorem FitsWith.undisturbed {s s' : Session τ} (fits : s.FitsWith later)
    (same : Undisturbed s s') : s'.FitsWith later := by
  obtain ⟨state, commands, -, -, link, reports, silent, added⟩ := same
  exact fits.of_silent [] reports state link (by simp) (by simp [commands]) silent added

variable [Transport τ]

/-- The worker keeps state, link and queues fitting together when it takes a command. -/
theorem FitsWith.takeCommand? {s s' : Session τ} (fits : s.FitsWith later)
    (made : s.takeCommand? = some s') (waiting : s'.worker.footing = .waiting) :
    s'.FitsWith later := by
  obtain ⟨command, commands, state, -, -, reports, served⟩ := takeCommand?_waiting made waiting
  unfold FitsWith at fits ⊢
  rw [state, reports, List.filterMap_append]
  rw [commands] at fits
  -- what matters of the worker is how its link stands before and after
  generalize s'.worker.link = link at served ⊢
  generalize (s.worker.take command).2 = added at served ⊢
  generalize before : s.worker.link = origin at served fits
  cases served with
  | dialed profile => simpa [Report.event?] using fits.dialed
  | refused profile reason => exact fits.failedToDial
  | ignored profile active => exact absurd fits.idle_of_connect active
  | released => exact fits.released
  | passed _ other =>
    rw [List.filterMap_cons_none other] at fits
    simpa using fits

/-- The worker keeps state, link and queues fitting together when it takes an event. -/
theorem FitsWith.takeEvent? {s s' : Session τ} (fits : s.FitsWith later)
    (made : s.takeEvent? = some s') : s'.FitsWith later := by
  obtain ⟨-, -, -, state, commands, -, -, added, reports, heeded⟩ := takeEvent?_eq_some made
  unfold FitsWith at fits ⊢
  rw [state, commands, reports, List.filterMap_append]
  generalize s'.worker.link = link at heeded ⊢
  generalize s.worker.link = origin at heeded fits
  cases heeded with
  | acknowledged => exact fits.acknowledged
  | failed reason => exact fits.failed
  | lost reason => exact fits.severed
  | passed _ other =>
    rw [List.filterMap_eq_nil_iff.mpr other, List.append_nil]
    exact fits

/-- Every move that asks for nothing of the connection keeps state, link and queues fitting together,
as long as the worker waits. -/
theorem FitsWith.move? {s s' : Session τ} {move : Move τ} (fits : s.FitsWith later)
    (other : move.event? = none) (made : s.move? move = some s')
    (waiting : s'.worker.footing = .waiting) : s'.FitsWith later := by
  cases move with
  | ask request =>
    obtain rfl := Option.some.inj made
    exact fits.ask (by rwa [ask_worker] at waiting) other
  | takeCommand => exact fits.takeCommand? made waiting
  | takeEvent => exact fits.takeEvent? made
  | dispatch => exact fits.dispatch? made
  | tick | finishTicker | elapse | drift => exact fits.undisturbed (undisturbed_of_move? rfl made)

/-- **Every move keeps state, link and queues fitting together**, as long as the worker waits. -/
theorem fits_of_move? {s s' : Session τ} {move : Move τ} (fits : s.Fits)
    (made : s.move? move = some s') (waiting : s'.worker.footing = .waiting) : s'.Fits := by
  have before := waiting_of_move? made waiting
  cases move with
  | ask request =>
    obtain rfl := Option.some.inj made
    exact fits.ask before request
  | _ => exact FitsWith.move? fits rfl made waiting

/-! ## Once the worker is stuck -/

/-- State and reports of a session whose worker is stuck fit together. -/
def Stalled (s : Session τ) : Prop := Frozen s.state (s.reports.filterMap Report.event?)

omit [Transport τ] in
/-- A caller's request keeps state and reports fitting together. -/
theorem Stalled.ask {s : Session τ} (stalled : s.Stalled) (stuck : s.worker.footing = .stuck)
    (request : Request) : (s.ask request).2.Stalled := by
  have asked := ask_asked s request
  unfold Stalled at stalled ⊢
  rw [ask_reports]
  generalize (s.ask request).1 = outcome at asked
  cases asked with
  | granted stands _ legal => exact (stalled.requested (Request.event?_asked stands) legal).1
  | passed commands other state => rwa [state]
  | forsaken stopped => exact absurd (stuck.symm.trans stopped) (by simp)

omit [Transport τ] in
/-- The dispatcher keeps state and reports fitting together. -/
theorem Stalled.dispatch? {s s' : Session τ} (stalled : s.Stalled) (made : s.dispatch? = some s') :
    s'.Stalled := by
  obtain ⟨report, queued, -, -, -, state⟩ := dispatch?_eq_some made
  unfold Stalled at stalled ⊢
  rw [queued] at stalled
  rw [state]
  cases stands : report.event? with
  | none =>
    rw [List.filterMap_cons_none stands] at stalled
    exact stalled
  | some event =>
    rw [List.filterMap_cons_some stands] at stalled
    exact stalled.dispatched

omit [Transport τ] in
/-- What goes on in the background keeps state and reports fitting together. -/
theorem Stalled.undisturbed {s s' : Session τ} (stalled : s.Stalled) (same : Undisturbed s s') :
    s'.Stalled := by
  obtain ⟨state, -, -, -, -, reports, silent, added⟩ := same
  unfold Stalled at stalled ⊢
  rw [state, added, List.filterMap_append, List.filterMap_eq_nil_iff.mpr silent, List.append_nil]
  exact stalled

/-- When the worker gets stuck over a command, state and reports fit together. -/
theorem Fits.stalled {s s' : Session τ} (fits : s.Fits) (made : s.takeCommand? = some s')
    (stuck : s'.worker.footing = .stuck) : s'.Stalled := by
  obtain ⟨command, commands, state, reports, cause⟩ := takeCommand?_stuck made stuck
  have stage := fits.stage
  unfold Stalled
  rw [state, reports]
  rcases cause with active | connect
  · exact .of_active stage active
  · rw [commands, List.filterMap_cons_some connect] at stage
    exact .of_connect stage

/-- What holds of a session whether its worker waits or is stuck. Of a worker that has stopped
nothing needs to be said: nothing is accepted or reported any more. -/
structure Standing (s : Session τ) : Prop where
  fits : s.worker.footing = .waiting → s.Fits
  stalled : s.worker.footing = .stuck → s.Stalled

omit [Transport τ] in
theorem create_standing (profile : Profile) (transport : τ) (settings : SessionSettings) :
    (create profile transport settings).Standing where
  fits _ := create_fits profile transport settings
  stalled stuck := by cases stuck

/-- **Every move keeps a session standing.** -/
theorem standing_of_move? {s s' : Session τ} {move : Move τ} (standing : s.Standing)
    (made : s.move? move = some s') : s'.Standing where
  fits waiting := fits_of_move? (standing.fits (waiting_of_move? made waiting)) made waiting
  stalled stuck := by
    cases move with
    | ask request =>
      obtain rfl := Option.some.inj made
      rw [ask_worker] at stuck
      exact (standing.stalled stuck).ask stuck request
    | takeCommand =>
      -- it waited until then
      exact (standing.fits (takeCommand?_eq_some_iff.mp made).1).stalled made stuck
    | takeEvent =>
      have waiting := (takeEvent?_eq_some made).2.1
      exact absurd (waiting.symm.trans stuck) (by simp)
    | dispatch =>
      obtain ⟨report, -, worker, -⟩ := dispatch?_eq_some made
      rw [worker] at stuck
      exact (standing.stalled stuck).dispatch? made
    | tick | finishTicker | elapse | drift =>
      have same := undisturbed_of_move? rfl made
      exact (standing.stalled (same.footing.symm.trans stuck)).undisturbed same

omit [Transport τ] in
/-- When a request is accepted, no report goes back any more to an earlier request of its kind; and
while the worker waits no command does either, and there is no link if it is to be a new one. -/
theorem Standing.answered {s : Session τ} (standing : s.Standing)
    (accepts : s.worker.footing ≠ .stopped) {event : ConnectionEvent}
    (asked : event = .connectRequested ∨ event = .disconnectRequested) {state : ConnectionState}
    (legal : s.state.next? event = some state) :
    (∀ queued ∈ s.reports.filterMap Report.event?, queued.cause ≠ event) ∧
      (s.worker.footing = .waiting →
        (∀ queued ∈ s.commands.filterMap Command.event?, queued.cause ≠ event) ∧
          (event = .connectRequested → s.worker.link = .idle)) := by
  cases footing : s.worker.footing with
  | waiting =>
    obtain ⟨commands, reports, link⟩ := (standing.fits footing).stage.answered asked legal
    exact ⟨reports, fun _ => ⟨commands, link⟩⟩
  | stuck =>
    obtain ⟨-, reports⟩ := (standing.stalled footing).requested asked legal
    exact ⟨reports, fun waiting => by cases waiting⟩
  | stopped => exact absurd footing accepts

/-! ## Runs -/

/-- In every run from a new session, state, link and queues fit together while the worker waits. -/
theorem fits_of_run? {profile : Profile} {transport : τ} {settings : SessionSettings}
    {moves : List (Move τ)} {s : Session τ}
    (run : (create profile transport settings).run? moves = some s)
    (waiting : s.worker.footing = .waiting) : s.Fits := by
  refine run?_induct (fun s => s.worker.footing = .waiting → s.Fits) (fun _ => True) ?_
    (fun _ _ => trivial) (fun _ => create_fits _ _ _) run waiting
  intro s s' move _ fits made waiting
  exact fits_of_move? (fits (waiting_of_move? made waiting)) made waiting

/-- **When nothing is queued, state and link agree.** In every run from a new session, over any
transport and in any order of moves, a session whose worker waits and whose queues are empty is
disconnected without a link, connecting over a link that is being set up, or connected over a link
that is up. -/
theorem drained_state_link {profile : Profile} {transport : τ} {settings : SessionSettings}
    {moves : List (Move τ)} {s : Session τ}
    (run : (create profile transport settings).run? moves = some s)
    (waiting : s.worker.footing = .waiting) (commands : s.commands = [])
    (reports : s.reports = []) :
    s.state = .disconnected ∧ s.worker.link = .idle ∨
      s.state = .connecting ∧ s.worker.link = .connecting ∨
      s.state = .connected ∧ s.worker.link = .up := by
  have stage := (fits_of_run? run waiting).stage
  rw [commands, reports] at stage
  exact stage.drained

/-- After a cancelled attempt the next one succeeds. -/
theorem drained_state_link_reconnected :
    ∃ s, (rehearsed {}).run? (cancelledAttempt ++ [.dispatch]) = some s ∧
      s.worker.footing = .waiting ∧ s.commands = [] ∧ s.reports = [] ∧
      (s.state = .disconnected ∧ s.worker.link = .idle ∨
        s.state = .connecting ∧ s.worker.link = .connecting ∨
        s.state = .connected ∧ s.worker.link = .up) := by
  obtain ⟨s, run, waiting, commands, reports⟩ :
      ∃ s, (rehearsed {}).run? (cancelledAttempt ++ [.dispatch]) = some s ∧
        s.worker.footing = .waiting ∧ s.commands = [] ∧ s.reports = [] :=
    ⟨_, rfl, rfl, rfl, rfl⟩
  exact ⟨s, run, waiting, commands, reports, drained_state_link run waiting commands reports⟩

end Session

end MqttSessions
