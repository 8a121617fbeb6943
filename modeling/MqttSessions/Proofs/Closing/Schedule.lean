import MqttSessions.Proofs.Closing.Aftermath
import MqttSessions.Proofs.Closing.Delivery

/-! # The closing call when nobody calls in between

A session that is closed while nobody calls settles whenever its closing call waits: its worker goes
first, then its ticker, then its dispatcher, until none of them has anything to do, and time only
passes when all of them wait. This is one of the runs that a session can be closed in
(**`Closing.run?_close`**), so that whatever is true of those is true of it.

In this run only a worker that is stuck is aborted. Ticker and dispatcher always stop in time, and
so a session is over when it has been closed (**`Session.close_over`**), and keeps no message back
(**`Session.close_delivered`**). -/

namespace MqttSessions

open Session

namespace Closing

variable {τ : Type} [Transport τ]

/-! ## What others do while the closing call waits -/

/-- Some run leads from one point to another. -/
def Reaches (c c' : Closing τ) : Prop := ∃ acts, c.run? acts = some c'

theorem Reaches.refl (c : Closing τ) : c.Reaches c := ⟨[], rfl⟩

theorem Reaches.trans {c c' c'' : Closing τ} (first : c.Reaches c') (second : c'.Reaches c'') :
    c.Reaches c'' := by
  obtain ⟨earlier, run⟩ := first
  obtain ⟨later, run'⟩ := second
  exact ⟨earlier ++ later, by rw [run?_append, run, Option.bind_some, run']⟩

theorem Reaches.act {c c' : Closing τ} (act : Act τ) (made : c.act? act = some c') : c.Reaches c' :=
  ⟨[act], by rw [run?_cons, made, Option.bind_some, run?_nil]⟩

theorem Reaches.move {c : Closing τ} {s : Session τ} (move : Move τ) (permitted : c.permits move = true)
    (made : c.session.move? move = some s) : c.Reaches (c.withSession s) :=
  .act (.other move) (by rw [act?, if_pos permitted, made, Option.map_some])

/-- Nobody but a worker that has been dropped has been aborted. -/
def Unhindered (c : Closing τ) : Prop :=
  ∀ party ∈ c.aborted, party = .worker ∧ c.session.worker.footing = .stopped

/-- Whoever has stopped has still stopped later on. -/
theorem Reaches.hasStopped {c c' : Closing τ} (reaches : c.Reaches c') {party : Party}
    (stopped : c.session.hasStopped party = true) : c'.session.hasStopped party = true := by
  obtain ⟨acts, run⟩ := reaches
  exact run?_induct (fun c => c.session.hasStopped party = true)
    (fun stopped made => hasStopped_of_acted (acted_of_act? made) party stopped) stopped run

/-- A worker that was dropped does not come back. -/
theorem Reaches.unhindered {c : Closing τ} {s : Session τ} (reaches : c.Reaches (c.withSession s))
    (unhindered : c.Unhindered) : (c.withSession s).Unhindered := by
  intro party mem
  obtain ⟨rfl, stopped⟩ := unhindered party mem
  exact ⟨rfl, hasStopped_worker_iff.mp (reaches.hasStopped (hasStopped_worker_iff.mpr stopped))⟩

end Closing

namespace Session

variable {τ : Type}

/-- No command waits for a worker that has stopped. -/
def Bare (s : Session τ) : Prop := s.worker.footing = .stopped → s.commands = []

/-- A step of the worker leaves no command behind if it is the last one. -/
theorem settleWorker_bare (s : Session τ) (worker : Worker τ) (reports : List Report) :
    (s.settleWorker worker reports).Bare := by
  intro stopped
  simp only [settleWorker] at stopped ⊢
  rw [if_pos (by simpa [Worker.isStopped] using stopped)]

/-- A worker that has stopped, and for whom no command waits, cannot be stopped once more. -/
theorem stopWorker_of_bare {s : Session τ} (bare : s.Bare) (stopped : s.worker.footing = .stopped) :
    s.stopWorker = s := by
  have commands := bare stopped
  obtain ⟨_, _, _, _, _, _, _, _, _, _, _, _, ⟨_, _, _⟩, _⟩ := s
  cases stopped
  cases commands
  simp [stopWorker, settleWorker, Worker.stop, Worker.isStopped]

/-- The parties take a session from one point to another, in no time, while a closing call waits
that has come as far as `phase` and has aborted some of them. -/
structure Passed [Transport τ] (phase : Closing.Phase) (aborted : List Party) (s s' : Session τ) :
    Prop where
  reaches : Closing.Unhindered ⟨s, phase, aborted⟩ →
    Closing.Reaches ⟨s, phase, aborted⟩ ⟨s', phase, aborted⟩
  now : s'.now = s.now
  settings : s'.settings = s.settings
  ticker : s'.ticker = .running → s.ticker = .running
  bare : s.Bare → s'.Bare

namespace Passed

variable [Transport τ] {phase : Closing.Phase} {aborted : List Party} {s s' s'' : Session τ}

theorem refl (s : Session τ) : Passed phase aborted s s :=
  ⟨fun _ => .refl _, rfl, rfl, id, id⟩

theorem trans (first : Passed phase aborted s s') (second : Passed phase aborted s' s'') :
    Passed phase aborted s s'' where
  reaches unhindered :=
    have earlier := first.reaches unhindered
    earlier.trans (second.reaches (Closing.Reaches.unhindered (s := s') earlier unhindered))
  now := second.now.trans first.now
  settings := second.settings.trans first.settings
  ticker := first.ticker ∘ second.ticker
  bare := second.bare ∘ first.bare

/-- The worker does what it does first. -/
theorem of_work? (made : s.work? = some s') : Passed phase aborted s s' := by
  have unaborted (waiting : s.worker.footing = .waiting)
      (unhindered : Closing.Unhindered ⟨s, phase, aborted⟩) : .worker ∉ aborted := by
    intro mem
    exact absurd ((unhindered _ mem).2.symm.trans waiting) (by simp)
  unfold work? at made
  split at made
  · rename_i taken
    obtain rfl := Option.some.inj made
    obtain ⟨waiting, command, rest, -, same⟩ := takeCommand?_eq_some_iff.mp taken
    refine ⟨fun unhindered => ?_, by rw [same]; rfl, by rw [same]; rfl, by rw [same]; exact id,
      fun _ => ?_⟩
    · exact .move .takeCommand (by simp [Closing.permits, unaborted waiting unhindered]) taken
    · rw [same]
      exact settleWorker_bare _ _ _
  · rename_i nothing
    obtain ⟨waiting, -, _, _, _, _, _, -, -, same⟩ := takeEvent?_inversion made
    -- a worker that waits has found no command
    have empty : s.commands = [] := by
      cases commands : s.commands with
      | nil => rfl
      | cons command rest => simp [takeCommand?, waiting, commands] at nothing
    refine ⟨fun unhindered => ?_, by rw [same]; rfl, by rw [same]; rfl, by rw [same]; exact id,
      fun _ => ?_⟩
    · exact .move .takeEvent (by simp [Closing.permits, unaborted waiting unhindered, empty]) made
    · rw [same]
      exact settleWorker_bare _ _ _

theorem of_dispatch? (made : s.dispatch? = some s') : Passed phase aborted s s' := by
  obtain ⟨report, rest, -, same⟩ := dispatch?_eq_some_iff.mp made
  obtain ⟨_, _, _, _, _, _, frame⟩ := dispatch_frame { s with reports := rest } report
  refine ⟨fun unhindered => ?_, by rw [same, frame], by rw [same, frame], by rw [same, frame]; exact id,
    fun bare stopped => ?_⟩
  · have unaborted : .dispatcher ∉ aborted := fun mem => absurd (unhindered _ mem).1 (by simp)
    exact .move .dispatch (by simp [Closing.permits, unaborted]) made
  · -- nothing is restored when no worker is left
    obtain ⟨worker, -, -, commands, -⟩ := dispatch_kept { s with reports := rest } report
    have down : s.worker.footing = .stopped := by rwa [same, worker] at stopped
    have restored : restored { s with reports := rest } report = [] := by
      cases report <;> simp [restored, down]
    rw [same, commands, restored, List.append_nil]
    exact bare down

/-- The ticker hands over, which it may do as long as nobody has aborted it. -/
theorem of_handOver (move : Move τ) (made : s.move? move = some s')
    (permitted : .ticker ∉ aborted → Closing.permits ⟨s, phase, aborted⟩ move = true)
    (same : s' = s.handOver ∨ s' = { s.handOver with ticker := .stopped }) :
    Passed phase aborted s s' := by
  obtain ⟨_, _, frame⟩ := handOver_frame s
  refine ⟨fun unhindered => ?_, ?_, ?_, ?_, ?_⟩
  · exact .move move (permitted fun mem => absurd (unhindered _ mem).1 (by simp)) made
  · rcases same with rfl | rfl <;> rw [frame]
  · rcases same with rfl | rfl <;> rw [frame]
  · rcases same with rfl | rfl
    · rw [frame]
      exact id
    · exact nofun
  · rcases same with rfl | rfl <;> rw [frame] <;> exact id

theorem of_finishTicker? (made : s.finishTicker? = some s') : Passed phase aborted s s' :=
  of_handOver .finishTicker made (fun spared => by simp [Closing.permits, spared])
    (.inr (Option.some.inj (Option.ite_none_right_eq_some.mp made).2).symm)

theorem of_tick? (made : s.tick? = some s') : Passed phase aborted s s' :=
  of_handOver .tick made (fun spared => by simp [Closing.permits, spared])
    (.inl (Option.some.inj (Option.ite_none_right_eq_some.mp made).2).symm)

theorem follow (s : Session τ) : Passed phase aborted s s.follow := by
  obtain ⟨_, same⟩ := follow_frame s
  exact ⟨fun _ => .act .follow rfl, by rw [same], by rw [same], by rw [same]; exact id,
    by rw [same]; exact id⟩

/-- All that the parties do on their own leads from one point to another. -/
theorem ownSteps : OwnSteps fun s s' : Session τ => Passed phase aborted s s' :=
  ⟨.refl, .trans, .of_work?, .of_finishTicker?, .of_dispatch?, .follow⟩

/-- The parties settle. -/
theorem settle (s : Session τ) : Passed phase aborted s s.settle := ownSteps.settle s

end Passed

variable [Transport τ]

/-- Time passes, and the ticker ticks, while a closing call waits. -/
theorem advance_reaches (c : Closing τ) (ms : Nat) (unhindered : c.Unhindered) :
    c.Reaches (c.withSession (c.session.advance ms)) ∧
      (c.session.advance ms).settings = c.session.settings ∧
      ((c.session.advance ms).ticker = .running → c.session.ticker = .running) ∧
      (c.session.Bare → (c.session.advance ms).Bare) := by
  obtain ⟨s, phase, aborted⟩ := c
  simp only [advance]
  set ticked := if s.settle.clock.ticksWithin s.settle.now (s.settle.now + ms) then
    (s.settle.tick?.getD s.settle).settle else s.settle with ticks
  have settled : Passed phase aborted s s.settle := .settle s
  have later : Passed phase aborted s.settle ticked := by
    rw [ticks]
    split
    · exact (Passed.ownSteps.getD fun _ => .of_tick?).trans (.settle _)
    · exact .refl _
  have passed := settled.trans later
  have elapses : ticked.move? (.elapse ms) = some { ticked with now := s.settle.now + ms } := by
    rw [move?, later.now]
  have elapsed : Closing.Reaches ⟨ticked, phase, aborted⟩
      ⟨{ ticked with now := s.settle.now + ms }, phase, aborted⟩ := .move (.elapse ms) rfl elapses
  exact ⟨(passed.reaches unhindered).trans elapsed, passed.settings, passed.ticker, passed.bare⟩

/-! ## When the parties have settled -/

omit [Transport τ] in
/-- The dispatcher leaves no report behind. -/
theorem runDispatcher_reports (s : Session τ) : s.runDispatcher.reports = [] := by
  suffices drained : ∀ (reports : List Report) (s : Session τ), s.reports = reports →
      (exhaust dispatch? reports.length s).reports = [] from drained s.reports s rfl
  intro reports
  induction reports with
  | nil => exact fun s empty => empty
  | cons report rest ih =>
      intro s queued
      have made := dispatch?_eq_some_iff.mpr ⟨report, rest, queued, rfl⟩
      rw [List.length_cons, exhaust, made]
      exact ih _ (dispatch_kept _ report).2.1

omit [Transport τ] in
/-- The dispatcher leaves the ticker alone. -/
theorem runDispatcher_ticker (s : Session τ) : s.runDispatcher.ticker = s.ticker := by
  refine exhaust_induct (fun a b : Session τ => b.ticker = a.ticker) (fun _ => rfl)
    (fun first second => second.trans first) (fun {a b} made => ?_) _ s
  obtain ⟨report, rest, -, rfl⟩ := dispatch?_eq_some_iff.mp made
  obtain ⟨_, _, _, _, _, _, same⟩ := dispatch_frame { a with reports := rest } report
  rw [same]

omit [Transport τ] in
/-- A ticker that has been told to stop does so when it is its turn. -/
theorem finishTicker?_getD_ticker (s : Session τ) : (s.finishTicker?.getD s).ticker ≠ .stopping := by
  unfold finishTicker?
  split
  · exact nofun
  · assumption

/-- Nothing is left for the dispatcher once the parties have settled, nor is a ticker left that has
been told to stop. -/
theorem settle_idle (s : Session τ) : s.settle.reports = [] ∧ s.settle.ticker ≠ .stopping := by
  have positive : s.workLeft ≠ 0 := by simp [workLeft]
  refine exhaust_post (fun s : Session τ => s.reports = [] ∧ s.ticker ≠ .stopping) ?_ ?_ positive
    s.follow
  · -- a round in which nobody has anything to do
    intro s stuck
    simp only [round?, ite_eq_left_iff, reduceCtorEq, imp_false, not_not,
      Bool.and_eq_true, Option.isNone_iff_eq_none, List.isEmpty_iff] at stuck
    obtain ⟨⟨work, finish⟩, empty⟩ := stuck
    have worked : s.runWorker = s := exhaust_of_none work _
    have idle := finishTicker?_getD_ticker s
    rw [worked, finish] at empty
    rw [finish] at idle
    exact ⟨empty, idle⟩
  · -- the end of any other round: the dispatcher goes last
    intro s t made
    obtain ⟨-, made⟩ := Option.ite_none_left_eq_some.mp made
    obtain rfl := Option.some.inj made
    obtain ⟨_, same⟩ := follow_frame (s.runWorker.finishTicker?.getD s.runWorker).runDispatcher
    rw [same]
    refine ⟨runDispatcher_reports _, ?_⟩
    rw [show Session.ticker _ = _ from runDispatcher_ticker _]
    exact finishTicker?_getD_ticker _

/-- A ticker that has been told to stop has stopped once the parties have settled. -/
theorem settle_ticker {s : Session τ} (signalled : s.ticker ≠ .running) :
    s.settle.ticker = .stopped := by
  have settled : Passed .ahead [] s s.settle := .settle s
  cases ticker : s.settle.ticker with
  | running => exact absurd (settled.ticker ticker) signalled
  | stopping => exact absurd ticker (settle_idle s).2
  | stopped => rfl

omit [Transport τ] in
theorem stopTicker_ticker (s : Session τ) : s.stopTicker.ticker ≠ .running := by
  simp only [stopTicker]
  split
  · simp
  · assumption

end Session

namespace Closing

variable {τ : Type} [Transport τ]

/-! ## The closing call -/

/-- The closing call waits for the connection to end. -/
theorem reaches_telling (s : Session τ) {ms : Nat} (positive : ms ≠ 0) :
    Reaches ⟨s, .waiting, []⟩ ⟨(s.waitFor .disconnected ms).2, .telling, []⟩ ∧
      (s.waitFor .disconnected ms).2.settings = s.settings := by
  have ends {s : Session τ} (state : s.state = .disconnected) :
      Reaches ⟨s, .waiting, []⟩ ⟨s, .telling, []⟩ :=
    .act .proceed (by simp [act?, proceed?, state])
  have settled : Passed .waiting [] s s.settle := .settle s
  have reaches := settled.reaches (List.forall_mem_nil _)
  simp only [waitFor, if_neg positive]
  split
  · rename_i state
    exact ⟨ends state, rfl⟩
  · split
    · rename_i state
      exact ⟨reaches.trans (ends state), settled.settings⟩
    · obtain ⟨late, settings, -⟩ :=
        advance_reaches ⟨s.settle, .waiting, []⟩ ms (List.forall_mem_nil _)
      exact ⟨(reaches.trans late).trans (.act .expire rfl), settings.trans settled.settings⟩

/-- The closing call waits for nobody any more once worker and ticker have stopped, and nothing is
left for the dispatcher. -/
theorem reaches_leaving {s : Session τ} {aborted : List Party} (worker : s.worker.footing = .stopped)
    (ticker : s.ticker = .stopped) (reports : s.reports = []) :
    Reaches ⟨s, .joining .ticker, aborted⟩ ⟨s, .leaving, aborted⟩ := by
  have dispatcher := hasStopped_dispatcher_iff.mpr ⟨worker, ticker, reports⟩
  have first : Reaches ⟨s, .joining .ticker, aborted⟩ ⟨s, .joining .dispatcher, aborted⟩ :=
    .act .proceed (by simp [act?, proceed?, hasStopped_ticker_iff.mpr ticker, Party.next])
  exact first.trans (.act .proceed (by simp [act?, proceed?, dispatcher, Party.next]))

/-- A worker that has not stopped in time is aborted and dropped. -/
theorem reaches_ousted {s : Session τ} (bare : s.Bare) :
    ∃ aborted, (∀ party ∈ aborted, party = .worker) ∧
      Reaches ⟨s, .joining .worker, []⟩ ⟨s.stopWorker, .joining .ticker, aborted⟩ := by
  by_cases stopped : s.worker.footing = .stopped
  · refine ⟨[], List.forall_mem_nil _, ?_⟩
    rw [stopWorker_of_bare bare stopped]
    exact .act .proceed (by simp [act?, proceed?, hasStopped_worker_iff.mpr stopped, Party.next])
  · refine ⟨[.worker], by simp, ?_⟩
    have expired : Reaches ⟨s, .joining .worker, []⟩ ⟨s, .joining .ticker, [.worker]⟩ :=
      .act .expire rfl
    exact expired.trans
      (.act (.drop .worker) (by simp [act?, drop?, Worker.isStopped, stopped, withSession]))

/-- The closing call stops all parties. -/
theorem reaches_stopAll (s : Session τ) (positive : s.settings.disconnectTimeout ≠ 0) :
    ∃ aborted, (∀ party ∈ aborted, party = .worker) ∧
      Reaches ⟨s, .telling, []⟩ ⟨s.stopAll, .leaving, aborted⟩ := by
  unfold stopAll
  rw [if_neg positive]
  set sent := (s.send? .shutdown).getD s
  have ordered : Reaches ⟨s, .telling, []⟩ ⟨sent, .signalling, []⟩ := .act .proceed rfl
  have signalled : Reaches ⟨sent, .signalling, []⟩ ⟨sent.stopTicker, .joining .worker, []⟩ :=
    .act .proceed rfl
  set told := sent.stopTicker.settle with settles
  have settled : Passed (.joining .worker) [] sent.stopTicker told := .settle _
  have waited := (ordered.trans signalled).trans (settled.reaches (List.forall_mem_nil _))
  have ticker : told.ticker = .stopped := settle_ticker (stopTicker_ticker sent)
  dsimp only
  split
  · -- the worker has taken its order
    rename_i down
    have worker : told.worker.footing = .stopped := hasStopped_worker_iff.mp down
    have joined : Reaches ⟨told, .joining .worker, []⟩ ⟨told, .joining .ticker, []⟩ :=
      .act .proceed (by simp [act?, proceed?, hasStopped, down, Party.next])
    refine ⟨[], List.forall_mem_nil _, (waited.trans joined).trans ?_⟩
    exact reaches_leaving worker ticker (settle_idle _).1
  · -- it is stuck, and its deadline passes
    rename_i up
    obtain ⟨late, -, lateTicker, lateBare⟩ :=
      advance_reaches ⟨told, .joining .worker, []⟩ told.settings.disconnectTimeout (List.forall_mem_nil _)
    have bare : told.Bare := fun stopped => absurd (hasStopped_worker_iff.mpr stopped) up
    obtain ⟨aborted, aborts, ousted⟩ := reaches_ousted (lateBare bare)
    set dropped := (told.advance told.settings.disconnectTimeout).stopWorker
    have last : Passed (.joining .ticker) aborted dropped dropped.settle := .settle _
    have calmed := last.reaches fun party mem => ⟨aborts party mem, rfl⟩
    have worker : dropped.settle.worker.footing = .stopped :=
      hasStopped_worker_iff.mp (calmed.hasStopped (hasStopped_worker_iff.mpr rfl))
    have still : dropped.settle.ticker = .stopped := settle_ticker fun running => by
      have before : told.ticker = .running := lateTicker running
      exact absurd (before.symm.trans ticker) (by simp)
    refine ⟨aborted, aborts, ?_⟩
    exact (waited.trans late).trans (ousted.trans (calmed.trans
      (reaches_leaving worker still (settle_idle _).1)))

/-- The closing call asks for the end of a connection that is there or wanted. -/
theorem reaches_waiting (s : Session τ) :
    Reaches (start s)
        ⟨if s.state = .connected ∨ s.state = .connecting then
            (requestDisconnect { s with closed := true }).2 else { s with closed := true },
          .waiting, []⟩ := by
  have begun : Reaches (start s) ⟨{ s with closed := true }, firstPhase s.state, []⟩ :=
    .act .proceed rfl
  refine begun.trans ?_
  unfold firstPhase
  split
  · exact .act .proceed rfl
  · exact .refl _

/-- **Closing a session is one of the runs that a session can be closed in.** In this run the
closing call returns, and only the worker is ever aborted. -/
theorem run?_close {s : Session τ} (opened : s.closed = false)
    (positive : s.settings.disconnectTimeout ≠ 0) :
    ∃ acts aborted, (start s).run? acts = some ⟨s.close, .returned, aborted⟩ ∧
      ∀ party ∈ aborted, party = .worker := by
  have begun := reaches_waiting s
  simp only [close, opened, Bool.false_eq_true, if_false, Bool.or_eq_true, decide_eq_true_eq]
  set asked := if s.state = .connected ∨ s.state = .connecting then
    (requestDisconnect { s with closed := true }).2 else { s with closed := true }
  have settings : asked.settings = s.settings := by
    obtain ⟨_, _, _, _, _, _, _, same⟩ := ask_frame { s with closed := true } .disconnect
    have kept := congrArg Session.settings same
    change (ite _ _ _ : Session τ).settings = _
    split
    · exact kept
    · rfl
  obtain ⟨waits, later⟩ := reaches_telling asked (settings ▸ positive)
  -- a session that is disconnected already is not waited for, which makes no difference
  have waited : (asked.waitFor .disconnected asked.settings.disconnectTimeout).2 =
      if asked.state = .disconnected then asked
      else (asked.waitFor .disconnected asked.settings.disconnectTimeout).2 := by
    split
    · rename_i state
      simp [waitFor, state]
    · rfl
  rw [← waited]
  obtain ⟨aborted, aborts, stopped⟩ := reaches_stopAll
    (asked.waitFor .disconnected asked.settings.disconnectTimeout).2 (by rwa [later, settings])
  obtain ⟨acts, run⟩ := (begun.trans (waits.trans stopped)).trans (.act .proceed rfl)
  exact ⟨acts, aborted, run, aborts⟩

end Closing

namespace Session

variable {τ : Type} [Transport τ]

/-- **A session is over when it has been closed**, whatever its state and its transport. -/
theorem close_over {s : Session τ} (opened : s.closed = false)
    (positive : s.settings.disconnectTimeout ≠ 0) : s.close.Over := by
  obtain ⟨acts, aborted, run, aborts⟩ := Closing.run?_close opened positive
  have orderly : Closing.Orderly ⟨s.close, .returned, aborted⟩ :=
    Closing.run?_induct Closing.Orderly Closing.orderly_of_act? (Closing.start_orderly s) run
  have closed : s.close.closed = true :=
    Closing.run?_induct (fun c => c.phase ≠ .ahead → c.session.closed = true)
      (fun closed made => Closing.closed_of_acted (Closing.acted_of_act? made) closed)
      (fun ahead => absurd rfl ahead) run (by simp)
  have dispatcher : s.close.hasStopped .dispatcher = true :=
    (orderly.joined .dispatcher rfl).resolve_right fun aborted => absurd (aborts _ aborted) (by simp)
  obtain ⟨worker, ticker, -⟩ := hasStopped_dispatcher_iff.mp dispatcher
  refine ⟨closed, ?_, fun party => ?_⟩
  · rw [close, if_neg (by simp [opened])]
    exact forceDisconnected_state _
  · cases party with
    | worker => exact hasStopped_worker_iff.mpr worker
    | ticker => exact hasStopped_ticker_iff.mpr ticker
    | dispatcher => exact dispatcher

/-- **A session whose ticker works keeps no message back when it is closed.** All that had come in
has been announced, and then what has come in meanwhile. -/
theorem close_delivered {s : Session τ} (opened : s.closed = false)
    (positive : s.settings.disconnectTimeout ≠ 0) (working : s.ticker = .running) :
    s.close.traffic.underway = [] ∧ s.close.traffic.buffered = [] ∧
      ∃ messages, s.close.traffic.delivered.flatten = s.traffic.inbound ++ messages := by
  obtain ⟨acts, aborted, run, aborts⟩ := Closing.run?_close opened positive
  have ended : s.close.Over := close_over opened positive
  have fresh : (Closing.start s).Flushed := by
    refine ⟨fun _ => working, fun stopped => ?_⟩
    exact absurd (working.symm.trans stopped) (by simp)
  have kept : Closing.Flushed ⟨s.close, .returned, aborted⟩ := by
    refine (Closing.run?_induct (fun c => c.Orderly ∧ c.Flushed) ?_
      ⟨Closing.start_orderly s, fresh⟩ run).2
    rintro c c' act ⟨orderly, flushed⟩ made
    exact ⟨Closing.orderly_of_act? orderly made, Closing.flushed_of_act? orderly flushed made⟩
  have buffered : s.close.traffic.buffered = [] :=
    kept.emptied ended.ticker fun aborted => absurd (aborts _ aborted) (by simp)
  have underway : s.close.traffic.underway = [] := by simp [traffic, ended.reports]
  have inbound : s.close.traffic.inbound = s.traffic.inbound ++ (Closing.start s).heard acts :=
    Closing.inbound_of_run? run
  refine ⟨underway, buffered, (Closing.start s).heard acts, ?_⟩
  rw [← inbound, Traffic.inbound, underway, buffered, List.flatten_nil, List.append_nil,
    List.append_nil]

end Session

end MqttSessions
