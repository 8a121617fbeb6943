import MqttSessions.Proofs.Closing.Aftermath
import MqttSessions.Proofs.Closing.Noted
import MqttSessions.Proofs.Session.Wire

/-! # A closed session is over for good

The call that closes a session returns in the end, whatever its worker is stuck in, since it waits
for nothing longer than a deadline. If no deadline is over before everybody waits, only the worker
is ever aborted (**`Closing.Unhurried`**): a ticker that has been told to stop stops, a worker that
was aborted is dropped, and then the dispatcher has nothing left to wait for. So all three have
stopped when the call returns.

* **`Closing.closed_for_good`**: from then on the session is over. No transport call is made,
  nothing is recorded, and each call finds the session disconnected and leaves it so. And whenever
  the worker was told to end a link, it has asked the transport to disconnect. -/

namespace MqttSessions

open Session

namespace Closing

variable {τ : Type} [Transport τ]

/-! ## When everybody waits -/

/-- Nobody has anything to do if the closing call waits, nobody has been aborted, the worker does
not wait for anything, nothing is reported, and the ticker has not been told to stop. -/
theorem quiet_of_idle {c : Closing τ} (waits : c.proceed? = none) (spared : c.aborted = [])
    (busy : c.session.worker.footing ≠ .waiting) (reports : c.session.reports = [])
    (ticker : c.session.ticker ≠ .stopping) : c.Quiet := by
  intro act task
  cases act with
  | proceed => exact waits
  | drop party => simp [act?, spared]
  | expire | faint | lateTick | follow => cases task
  | other move =>
    cases move with
    | ask | tick | elapse | drift => cases task
    | takeCommand => simp [act?, move?, takeCommand?, busy]
    | takeEvent => simp [act?, move?, takeEvent?, busy]
    | dispatch => simp [act?, move?, dispatch?, reports]
    | finishTicker => simp [act?, move?, finishTicker?, ticker]

/-- An aborted worker has been dropped by the time everybody waits. -/
theorem Quiet.worker {c : Closing τ} (quiet : c.Quiet) (aborted : .worker ∈ c.aborted) :
    c.session.worker.footing = .stopped := by
  have dropped := quiet (.drop .worker) rfl
  by_contra standing
  simp [act?, aborted, drop?, Worker.isStopped, standing] at dropped

/-- A ticker that has been told to stop has stopped by the time everybody waits. -/
theorem Quiet.ticker {c : Closing τ} (quiet : c.Quiet) (signalled : c.session.ticker ≠ .running)
    (spared : .ticker ∉ c.aborted) : c.session.ticker = .stopped := by
  have finished := quiet (.other .finishTicker) rfl
  cases ticker : c.session.ticker with
  | running => exact absurd ticker signalled
  | stopping => simp [act?, permits, spared, move?, finishTicker?, ticker] at finished
  | stopped => rfl

/-- Nothing waits for the dispatcher when everybody waits. -/
theorem Quiet.reports {c : Closing τ} (quiet : c.Quiet) (spared : .dispatcher ∉ c.aborted) :
    c.session.reports = [] := by
  have dispatched := quiet (.other .dispatch) rfl
  cases reports : c.session.reports with
  | nil => rfl
  | cons report rest => simp [act?, permits, spared, move?, dispatch?, reports] at dispatched

/-- Whom the closing call waits for has not stopped when everybody waits. -/
theorem Quiet.joining {c : Closing τ} (quiet : c.Quiet) {party : Party}
    (phase : c.phase = .joining party) : c.session.hasStopped party = false := by
  have proceeds := quiet .proceed rfl
  simpa [act?, proceed?, phase] using proceeds

/-! ## Patient runs -/

/-- The order of closing, where deadlines are only over when everybody waits: then nobody but the
worker is aborted, and a session whose closing call has returned is over. -/
structure Unhurried (c : Closing τ) : Prop where
  orderly : c.Orderly
  spared : ∀ party ∈ c.aborted, party = .worker
  closed : c.phase ≠ .ahead → c.session.closed = true
  ended : c.phase = .returned → c.session.Over

omit [Transport τ] in
theorem start_unhurried (s : Session τ) : (start s).Unhurried where
  orderly := start_orderly s
  spared _ mem := absurd mem List.not_mem_nil
  closed other := absurd rfl other
  ended returned := by cases returned

/-- Whoever misses a deadline that is over when everybody waits is the worker. -/
theorem Unhurried.missed {c : Closing τ} (unhurried : c.Unhurried) (quiet : c.Quiet) {party : Party}
    (phase : c.phase = .joining party) : party = .worker := by
  have orderly := unhurried.orderly
  have spared (other : Party) (mem : other ∈ c.aborted) : other = .worker := unhurried.spared other mem
  have ticker : c.session.ticker = .stopped := by
    refine quiet.ticker (orderly.signalled (by rw [phase]; rfl)) fun aborted => ?_
    exact absurd (spared _ aborted) (by simp)
  have waits := quiet.joining phase
  cases party with
  | worker => rfl
  | ticker => exact absurd (hasStopped_ticker_iff.mpr ticker) (by simp [waits])
  | dispatcher =>
    -- nobody is left to report anything
    have worker : c.session.worker.footing = .stopped := by
      rcases orderly.joined .worker (by rw [phase]; rfl) with stopped | aborted
      · exact hasStopped_worker_iff.mp stopped
      · exact quiet.worker aborted
    have reports := quiet.reports fun aborted => absurd (spared _ aborted) (by simp)
    exact absurd (hasStopped_dispatcher_iff.mpr ⟨worker, ticker, reports⟩) (by simp [waits])

omit [Transport τ] in
/-- A session is over once everybody has been waited for. -/
theorem Unhurried.stopped {c : Closing τ} (unhurried : c.Unhurried) (phase : c.phase = .leaving)
    (party : Party) : c.session.hasStopped party = true := by
  have dispatcher : c.session.hasStopped .dispatcher = true := by
    rcases unhurried.orderly.joined .dispatcher (by rw [phase]; rfl) with stopped | aborted
    · exact stopped
    · exact absurd (unhurried.spared _ aborted) (by simp)
  obtain ⟨worker, ticker, -⟩ := hasStopped_dispatcher_iff.mp dispatcher
  cases party with
  | worker => exact hasStopped_worker_iff.mpr worker
  | ticker => exact hasStopped_ticker_iff.mpr ticker
  | dispatcher => exact dispatcher

/-- **No act brings a session back whose closing call has returned**, and nothing is recorded by
any. -/
theorem over_of_acted {c c' : Closing τ} {act : Act τ} (ended : c.session.Over)
    (returned : c.phase = .returned) (acted : c.Acted act c') :
    c'.phase = .returned ∧ c'.session.Over ∧ Unrecorded c.session c'.session := by
  cases acted with
  | began phase | asked phase | ended phase | told phase | signalled phase | joined _ phase
  | left phase | lapsed phase | missed _ phase => exact absurd (returned.symm.trans phase) (by simp)
  | moved permitted made =>
    obtain ⟨still, unrecorded⟩ := ended.of_move? made
    exact ⟨returned, still, unrecorded⟩
  | fainted permitted waiting => exact absurd (ended.worker.symm.trans waiting) (by simp)
  | ousted aborted standing => exact absurd ended.worker standing
  | unhinged aborted standing => exact absurd ended.ticker standing
  | lateTicked stopping => exact absurd (ended.ticker.symm.trans stopping) (by simp)
  | followed => exact ⟨returned, ended.follow⟩

/-- An act of a patient run keeps the order of closing unhurried. -/
theorem unhurried_of_act? {c c' : Closing τ} {act : Act τ} (timely : act = .expire → c.Quiet)
    (unhurried : c.Unhurried) (made : c.act? act = some c') : c'.Unhurried := by
  have acted := acted_of_act? made
  refine ⟨orderly_of_act? unhurried.orderly made, ?_, ?_, ?_⟩
  · -- only a deadline makes somebody aborted
    have spared := unhurried.spared
    cases acted with
    | missed party phase =>
      intro other mem
      rcases List.mem_cons.mp mem with rfl | before
      · exact unhurried.missed (timely rfl) phase
      · exact spared other before
    | _ => exact spared
  · exact closed_of_acted acted unhurried.closed
  · -- the call returns in its last step only, and afterwards nothing brings the session back
    intro returned
    have ended := unhurried.ended
    have closed := unhurried.closed
    have stopped := unhurried.stopped
    have kept (phase : c.phase = .returned) := (over_of_acted (ended phase) phase acted).2.1
    cases acted with
    | began =>
      rcases firstPhase_cases c.session.state with first | first <;> simp [first] at returned
    | asked | ended | told | signalled | lapsed => cases returned
    | joined party | missed party => cases party <;> cases returned
    | left phase =>
      refine ⟨?_, forceDisconnected_state _, fun party => ?_⟩
      · simpa using closed (by simp [phase])
      · exact hasStopped_mono (by simp) (by simp) (by simp) (stopped phase party)
    | moved | fainted | ousted | unhinged | lateTicked | followed => exact kept returned

/-! ## The calls that are made -/

/-- What a worker asks its transport for when it takes a command. -/
theorem calls_of_takeCommand? {s s' : Session (Noted τ)} {command : Command}
    (made : s.takeCommand? = some s') (first : s.commands.head? = some command) :
    s'.worker.transport.calls =
      s.worker.transport.calls ++ if command.isHeard s.worker.link then [command.call] else [] := by
  obtain ⟨-, head, rest, queued, rfl⟩ := takeCommand?_eq_some_iff.mp made
  obtain rfl : head = command := by simpa [queued] using first
  exact Worker.take_calls s.worker head

/-- When a session is over, no move asks its transport for anything. -/
theorem calls_of_move?_over {s s' : Session (Noted τ)} {move : Move τ} (ended : s.Over)
    (made : s.move? move.noted = some s') :
    s'.worker.transport.calls = s.worker.transport.calls := by
  cases move with
  | ask request =>
    obtain rfl := Option.some.inj made
    rw [ask_worker]
  | takeCommand => exact absurd (ended.takeCommand?.symm.trans made) (by simp)
  | takeEvent => exact absurd (ended.takeEvent?.symm.trans made) (by simp)
  | dispatch => exact absurd (ended.dispatch?.symm.trans made) (by simp)
  | tick | finishTicker | elapse | drift => exact calls_of_background rfl made

/-- When the closing call has returned, no act asks the transport for anything. -/
theorem calls_of_act?_over {n n' : Closing (Noted τ)} {act : Act τ} (ended : n.session.Over)
    (returned : n.phase = .returned) (made : n.act? act.noted = some n') :
    n'.session.worker.transport.calls = n.session.worker.transport.calls := by
  cases act with
  | other move =>
    obtain ⟨-, made⟩ := Option.ite_none_right_eq_some.mp made
    obtain ⟨s, moved, rfl⟩ := Option.map_eq_some_iff.mp made
    exact calls_of_move?_over ended moved
  | follow =>
    obtain rfl := Option.some.inj made
    obtain ⟨_, same⟩ := follow_frame n.session
    rw [withSession_session, same]
  | proceed =>
    simp [act?, Act.noted, proceed?, returned] at made
  | expire =>
    simp [act?, Act.noted, giveUp?, returned] at made
  | drop party =>
    cases party <;> simp [act?, Act.noted, drop?, Worker.isStopped, ended.worker, ended.ticker] at made
  | faint => simp [act?, Act.noted, ended.worker] at made
  | lateTick => simp [act?, Act.noted, ended.ticker] at made

/-- **When the closing call has returned, no run brings the session back**, and nothing is recorded.
-/
theorem over_of_run? {c c' : Closing τ} {later : List (Act τ)} (ended : c.session.Over)
    (returned : c.phase = .returned) (run : c.run? later = some c') :
    c'.session.Over ∧ Unrecorded c.session c'.session := by
  induction later generalizing c with
  | nil =>
      obtain rfl := Option.some.inj run
      exact ⟨ended, .refl c.session⟩
  | cons act rest ih =>
      obtain ⟨next, made, remaining⟩ := Option.bind_eq_some_iff.mp run
      obtain ⟨returned, still, unrecorded⟩ := over_of_acted ended returned (acted_of_act? made)
      obtain ⟨lasts, further⟩ := ih still returned remaining
      exact ⟨lasts, unrecorded.trans further⟩

/-- **When the closing call has returned, the transport is asked for nothing.** -/
theorem callsIn_over {c c' : Closing τ} {later : List (Act τ)} (ended : c.session.Over)
    (returned : c.phase = .returned) (run : c.run? later = some c') : c.callsIn later = [] := by
  have silent {n n' : Closing (Noted τ)} (ended : n.session.Over) (returned : n.phase = .returned)
      (run : n.run? (later.map Act.noted) = some n') :
      n'.session.worker.transport.calls = n.session.worker.transport.calls := by
    clear * - ended returned run
    induction later generalizing n with
    | nil =>
        obtain rfl := Option.some.inj run
        rfl
    | cons act rest ih =>
        obtain ⟨next, made, remaining⟩ := Option.bind_eq_some_iff.mp run
        obtain ⟨returned', still, -⟩ := over_of_acted ended returned (acted_of_act? made)
        rw [ih still returned' remaining, calls_of_act?_over ended returned made]
  obtain ⟨n, ran, -, noted⟩ := noted_of_run? run
  have ended' : c.noted.session.Over :=
    ⟨ended.closed, ended.state,
      fun party => (hasStopped_unnoted _ party).symm.trans (ended.stopped party)⟩
  rw [noted, silent ended' returned ran]
  rfl

/-- **A worker that is told to end a link asks the transport to disconnect**, when it takes the
request of a caller to disconnect or its order to shut down. -/
theorem calls_of_release {c c₁ c₂ : Closing τ} {before : List (Act τ)} {command : Command}
    (run : c.run? before = some c₁) (made : c₁.act? (.other .takeCommand) = some c₂)
    (first : c₁.session.commands.head? = some command)
    (ends : command = .disconnect ∨ command = .shutdown) (live : c₁.session.worker.link ≠ .idle) :
    c.callsIn (before ++ [.other .takeCommand]) = c.callsIn before ++ [.disconnect] := by
  obtain ⟨n, ran, rfl, noted⟩ := noted_of_run? run
  rw [act?_unnoted] at made
  obtain ⟨n', taken, -⟩ := Option.map_eq_some_iff.mp made
  have ran' : c.noted.run? ((before ++ [Act.other .takeCommand]).map Act.noted) = some n' := by
    rw [List.map_append, run?_append, ran, Option.bind_some, List.map_singleton, run?_cons, taken,
      Option.bind_some, run?_nil]
  obtain ⟨-, taken⟩ := Option.ite_none_right_eq_some.mp taken
  obtain ⟨s, moved, rfl⟩ := Option.map_eq_some_iff.mp taken
  have calls := calls_of_takeCommand? moved first
  have active : n.session.worker.link ≠ .idle := live
  have heard : command.isHeard n.session.worker.link = true ∧ command.call = .disconnect := by
    rcases ends with rfl | rfl <;> exact ⟨by simpa [Command.isHeard] using active, rfl⟩
  rw [noted, callsIn, ran', Option.elim_some, withSession_session, calls, if_pos heard.1, heard.2]

/-! ## What is true for good -/

/-- **A closed session is over for good.** Take any run of a session, whatever its state and its
transport, in which the closing call returns, and no deadline is over before everybody waits. Then
the session is over: it is disconnected, and its worker, ticker and dispatcher have stopped.
Whatever goes on afterwards, it stays over, nothing is recorded, no transport call is made, asking
to connect fails because no worker is left, and whatever is called, the session is disconnected
afterwards. And whenever in such a run the worker, over a link, took a request to disconnect or its
order to shut down, it asked the transport to disconnect. -/
theorem closed_for_good {s : Session τ} {acts : List (Act τ)} {c : Closing τ}
    (run : (start s).run? acts = some c) (patient : (start s).Patient acts)
    (returned : c.phase = .returned) :
    c.session.Over ∧
      (∀ later c', c.run? later = some c' →
        c'.session.Over ∧ Unrecorded c.session c'.session ∧ c.callsIn later = [] ∧
          c'.session.requestConnect.1 = .error .workerUnavailable ∧
          (∀ request, (c'.session.ask request).2.state = .disconnected) ∧
          (∀ target ms, (c'.session.waitFor target ms).2.state = .disconnected) ∧
          c'.session.close = c'.session) ∧
      ∀ before after c₁ command, acts = before ++ .other .takeCommand :: after →
        (start s).run? before = some c₁ → c₁.session.commands.head? = some command →
        command = .disconnect ∨ command = .shutdown → c₁.session.worker.link ≠ .idle →
        (start s).callsIn (before ++ [.other .takeCommand]) =
          (start s).callsIn before ++ [.disconnect] := by
  have unhurried : c.Unhurried :=
    run?_induct_patient Unhurried unhurried_of_act? patient (start_unhurried s) run
  have ended := unhurried.ended returned
  refine ⟨ended, ?_, ?_⟩
  · intro later c' further
    obtain ⟨still, unrecorded⟩ := over_of_run? ended returned further
    refine ⟨still, unrecorded, callsIn_over ended returned further, ?_, still.ask_state, ?_, still.close⟩
    · rw [still.requestConnect]
    · exact fun target ms => (still.waitFor target ms).1.state
  · rintro before after c₁ command rfl first queued ends live
    rw [run?_append, first, Option.bind_some, run?_cons] at run
    obtain ⟨c₂, made, -⟩ := Option.bind_eq_some_iff.mp run
    exact calls_of_release first made queued ends live

/-! A worker that never comes back from its attempt to connect: the closing call waits until its first
deadline for the connection to end, then until the second one for the worker to stop. Meanwhile a caller
asks to connect. -/

/-- Until the first deadline. -/
def hangUp : List (Act Rehearsal) :=
  [.other (.ask .connect), .other .takeCommand, .proceed, .proceed, .other (.ask .connect)]

/-- From the first deadline to the second one. -/
def holdOn : List (Act Rehearsal) := [.expire, .proceed, .proceed, .other .finishTicker]

/-- From the second deadline to the end. -/
def letGo : List (Act Rehearsal) :=
  [.expire, .proceed, .drop .worker, .proceed, .proceed]

/-- A session whose worker is stuck in a call is over when it has been closed: the worker had to be
aborted, and the state to be forced. -/
theorem closed_for_good_stuck :
    ∃ c, (start (rehearsed { hang := [.connect] })).run? (hangUp ++ (holdOn ++ letGo)) = some c ∧
      (start (rehearsed { hang := [.connect] })).Patient (hangUp ++ (holdOn ++ letGo)) ∧
      c.phase = .returned ∧ c.aborted = [.worker] ∧ c.session.Over := by
  obtain ⟨c₁, c₂, c, first, second, third, returned, aborted⟩ : ∃ c₁ c₂ c,
      (start (rehearsed { hang := [.connect] })).run? hangUp = some c₁ ∧ c₁.run? holdOn = some c₂ ∧
        c₂.run? letGo = some c ∧ c.phase = .returned ∧ c.aborted = [.worker] :=
    ⟨_, _, _, rfl, rfl, rfl, rfl, rfl⟩
  have run : (start (rehearsed { hang := [.connect] })).run? (hangUp ++ (holdOn ++ letGo)) = some c := by
    rw [run?_append, first, Option.bind_some, run?_append, second, Option.bind_some, third]
  -- everybody waits at both deadlines
  have quiet₁ : c₁.Quiet := by
    obtain rfl := Option.some.inj first
    exact quiet_of_idle rfl rfl nofun rfl nofun
  have quiet₂ : c₂.Quiet := by
    obtain rfl := Option.some.inj first
    obtain rfl := Option.some.inj second
    exact quiet_of_idle rfl rfl nofun rfl nofun
  have patient : (start (rehearsed { hang := [.connect] })).Patient (hangUp ++ (holdOn ++ letGo)) := by
    refine (patient_of_forall_ne (by simp [hangUp])).append first (Patient.append ?_ second ?_)
    · exact ⟨fun _ => quiet₁, fun _ _ => patient_of_forall_ne (by simp)⟩
    · exact ⟨fun _ => quiet₂, fun _ _ => patient_of_forall_ne (by simp)⟩
  exact ⟨c, run, patient, returned, aborted, (closed_for_good run patient returned).1⟩

end Closing

end MqttSessions
