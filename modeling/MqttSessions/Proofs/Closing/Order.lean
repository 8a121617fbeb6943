import MqttSessions.Proofs.Closing.Acts

/-! # The order in which a session is closed

The call that closes a session tells the worker to shut down before it tells the ticker to stop, and
waits for the worker, the ticker and the dispatcher one after the other. Whatever the others do in
between, this order has the effect it is meant to have (**`Closing.Orderly`**): a worker that still
waits has its order to shut down in its queue, nobody is aborted early, and whoever is waited for no
longer has stopped or was aborted. Every act keeps it so (**`Closing.orderly_of_act?`**).

The call returns whatever goes on around it: it always goes on or has a deadline
(**`Closing.goes_on`**), and makes nine steps at most (**`Closing.left_of_run?`**). -/

namespace MqttSessions

open Session

namespace Closing

variable {τ : Type} [Transport τ]

/-! ## What closing keeps in its order -/

/-- Whether the worker has been told to shut down. -/
def Phase.isTold : Phase → Bool
  | .signalling => true
  | .joining _ => true
  | .leaving => true
  | .returned => true
  | _ => false

/-- Whether the ticker has been told to stop. -/
def Phase.isSignalled : Phase → Bool
  | .joining _ => true
  | .leaving => true
  | .returned => true
  | _ => false

/-- Whether the closing call waits no longer for a party. -/
def Phase.isPast : Phase → Party → Bool
  | .joining .ticker, .worker => true
  | .joining .dispatcher, .worker => true
  | .joining .dispatcher, .ticker => true
  | .leaving, _ => true
  | .returned, _ => true
  | _, _ => false

/-- The closing call has done one thing after the other: a worker that still waits has been told to
shut down, a ticker has been told to stop, nobody is aborted before that, and whom the call waits
for no longer has stopped or was aborted. -/
structure Orderly (c : Closing τ) : Prop where
  told : c.phase.isTold = true → c.session.worker.footing = .waiting → .shutdown ∈ c.session.commands
  signalled : c.phase.isSignalled = true → c.session.ticker ≠ .running
  spared : c.phase.isSignalled = false → c.aborted = []
  joined : ∀ party, c.phase.isPast party = true →
    c.session.hasStopped party = true ∨ party ∈ c.aborted

omit [Transport τ] in
theorem start_orderly (s : Session τ) : (start s).Orderly where
  told := by simp [start, Phase.isTold]
  signalled := by simp [start, Phase.isSignalled]
  spared _ := rfl
  joined := by simp [start, Phase.isPast]

/-! ### The order to shut down -/

/-- No move takes the order to shut down away from a worker that goes on waiting. -/
theorem shutdown_of_move? {s s' : Session τ} {move : Move τ} (made : s.move? move = some s')
    (waiting : s'.worker.footing = .waiting) (told : .shutdown ∈ s.commands) :
    .shutdown ∈ s'.commands := by
  cases move with
  | ask request =>
    obtain rfl := Option.some.inj made
    obtain ⟨commands, queued⟩ := ask_commands s request
    rw [queued]
    exact List.mem_append_left _ told
  | takeCommand =>
    obtain ⟨command, commands, -, -, worker, -⟩ := takeCommand?_waiting made waiting
    rw [commands] at told
    rcases List.mem_cons.mp told with rfl | later
    · -- a worker that takes the order does not wait any more
      rw [worker] at waiting
      exact absurd waiting (Worker.take_shutdown s.worker)
    · exact later
  | takeEvent =>
    obtain ⟨-, -, -, -, commands, -⟩ := takeEvent?_eq_some made
    rwa [commands]
  | dispatch =>
    obtain ⟨report, -, -, -, commands, -⟩ := dispatch?_eq_some made
    rw [commands]
    exact List.mem_append_left _ told
  | tick | finishTicker | elapse | drift =>
    rw [(undisturbed_of_move? rfl made).commands]
    exact told

omit [Transport τ] in
/-- An order to shut down that is sent reaches every worker that waits. -/
theorem shutdown_sent {s : Session τ} (waiting : s.worker.footing = .waiting) :
    .shutdown ∈ ((s.send? .shutdown).getD s).commands := by
  rw [send?_of_ne_stopped (by simp [waiting]), Option.getD_some, enqueue_commands]
  exact List.mem_append_right _ List.mem_cons_self

omit [Transport τ] in
/-- The closing call first asks for the end of the connection, or waits for it. -/
theorem firstPhase_cases (state : ConnectionState) :
    firstPhase state = .asking ∨ firstPhase state = .waiting := by
  unfold firstPhase
  split
  · exact .inl rfl
  · exact .inr rfl

omit [Transport τ] in
/-- The worker is told to shut down before the ticker is told to stop. -/
theorem Phase.isTold_of_isSignalled {phase : Phase} (signalled : phase.isSignalled = true) :
    phase.isTold = true := by
  cases phase <;> first | rfl | cases signalled

/-- Every act leaves a worker that goes on waiting its order to shut down. -/
theorem Orderly.told_of_acted {c c' : Closing τ} {act : Act τ} (orderly : c.Orderly)
    (acted : c.Acted act c') (told : c'.phase.isTold = true)
    (waiting : c'.session.worker.footing = .waiting) : .shutdown ∈ c'.session.commands := by
  cases acted with
  | began =>
    rcases firstPhase_cases c.session.state with first | first <;> simp [first, Phase.isTold] at told
  | asked | ended | lapsed => cases told
  | told =>
    obtain ⟨_, sent⟩ := send?_getD c.session .shutdown
    exact shutdown_sent (by simpa [sent] using waiting)
  | signalled phase => exact orderly.told (by rw [phase]; rfl) waiting
  | joined party phase => exact orderly.told (by rw [phase]; rfl) waiting
  | missed party phase => exact orderly.told (by rw [phase]; rfl) waiting
  | left phase =>
    simp only [forceDisconnected_worker, forceDisconnected_commands] at waiting ⊢
    exact orderly.told (by rw [phase]; rfl) waiting
  | moved permitted made =>
    exact shutdown_of_move? made waiting (orderly.told told (waiting_of_move? made waiting))
  | fainted | ousted => cases waiting
  | unhinged => exact orderly.told told waiting
  | lateTicked =>
    have same := handOver_undisturbed c.session
    simp only [withSession_session] at waiting ⊢
    rw [same.commands]
    exact orderly.told told (same.footing.symm.trans waiting)
  | followed =>
    obtain ⟨_, same⟩ := follow_frame c.session
    simp only [withSession_session, same] at waiting ⊢
    exact orderly.told told waiting

/-! ### The order to stop -/

/-- Every act leaves a ticker that has been told to stop its order to stop. -/
theorem Orderly.signalled_of_acted {c c' : Closing τ} {act : Act τ} (orderly : c.Orderly)
    (acted : c.Acted act c') (signalled : c'.phase.isSignalled = true) :
    c'.session.ticker ≠ .running := by
  cases acted with
  | began =>
    rcases firstPhase_cases c.session.state with first | first <;>
      simp [first, Phase.isSignalled] at signalled
  | asked | ended | told | lapsed => cases signalled
  | signalled =>
    simp only [stopTicker]
    split
    · simp
    · assumption
  | joined party phase => exact orderly.signalled (by rw [phase]; rfl)
  | missed party phase => exact orderly.signalled (by rw [phase]; rfl)
  | left phase =>
    rw [forceDisconnected_ticker]
    exact orderly.signalled (by rw [phase]; rfl)
  | moved permitted made =>
    rcases ticker_of_move? made with same | ⟨-, rfl⟩
    · simpa [same] using orderly.signalled signalled
    · simp
  | fainted | ousted => exact orderly.signalled signalled
  | unhinged => simp
  | lateTicked stopping =>
    obtain ⟨_, _, same⟩ := handOver_frame c.session
    simp [same, stopping]
  | followed =>
    obtain ⟨_, same⟩ := follow_frame c.session
    simpa [same] using orderly.signalled signalled

omit [Transport τ] in
/-- Nobody is aborted before the ticker is told to stop. -/
theorem Orderly.spared_of_acted [Transport τ] {c c' : Closing τ} {act : Act τ} (orderly : c.Orderly)
    (acted : c.Acted act c') (early : c'.phase.isSignalled = false) : c'.aborted = [] := by
  cases acted with
  | began phase => exact orderly.spared (by rw [phase]; rfl)
  | asked phase => exact orderly.spared (by rw [phase]; rfl)
  | ended phase => exact orderly.spared (by rw [phase]; rfl)
  | told phase => exact orderly.spared (by rw [phase]; rfl)
  | lapsed phase => exact orderly.spared (by rw [phase]; rfl)
  | signalled | left => cases early
  | joined party | missed party => cases party <;> cases early
  | moved | fainted | ousted | unhinged | lateTicked | followed => exact orderly.spared early

/-! ### Who has stopped -/

/-- Once nobody is left to report anything and nothing waits, nothing is ever reported. -/
theorem reports_of_move? {s s' : Session τ} {move : Move τ} (made : s.move? move = some s')
    (worker : s.worker.footing = .stopped) (ticker : s.ticker = .stopped) (reports : s.reports = []) :
    s'.reports = [] := by
  cases move with
  | ask request =>
    obtain rfl := Option.some.inj made
    rw [ask_reports, reports]
  | takeCommand =>
    have waiting := (takeCommand?_eq_some_iff.mp made).1
    exact absurd (worker.symm.trans waiting) (by simp)
  | takeEvent =>
    have waiting := (takeEvent?_inversion made).1
    exact absurd (worker.symm.trans waiting) (by simp)
  | dispatch =>
    obtain ⟨_, _, queued, -⟩ := dispatch?_eq_some_iff.mp made
    rw [reports] at queued
    cases queued
  | tick =>
    have running := (Option.ite_none_right_eq_some.mp made).1
    exact absurd (ticker.symm.trans running) (by simp)
  | finishTicker =>
    have stopping := (Option.ite_none_right_eq_some.mp made).1
    exact absurd (ticker.symm.trans stopping) (by simp)
  | elapse ms =>
    obtain rfl := Option.some.inj made
    exact reports
  | drift change =>
    obtain rfl := Option.some.inj made
    exact reports

/-- A party that has stopped never works again. -/
theorem hasStopped_of_move? {s s' : Session τ} {move : Move τ} (made : s.move? move = some s')
    {party : Party} (stopped : s.hasStopped party = true) : s'.hasStopped party = true := by
  refine hasStopped_mono ?_ ?_ (reports_of_move? made) stopped
  · intro down
    rcases footing_of_move? made with same | waiting
    · rw [same, down]
    · exact absurd (down.symm.trans waiting) (by simp)
  · intro still
    rcases ticker_of_move? made with same | ⟨stopping, -⟩
    · rw [same, still]
    · exact absurd (still.symm.trans stopping) (by simp)

/-- A party that has stopped never works again, whatever happens around the closing call. -/
theorem hasStopped_of_acted {c c' : Closing τ} {act : Act τ} (acted : c.Acted act c') (party : Party)
    (stopped : c.session.hasStopped party = true) : c'.session.hasStopped party = true := by
  cases acted with
  | began | ended | joined | lapsed | missed => exact stopped
  | asked =>
    have asked : c.session.move? (.ask .disconnect) = some (c.session.ask .disconnect).2 := rfl
    exact hasStopped_of_move? asked stopped
  | told =>
    obtain ⟨_, sent⟩ := send?_getD c.session .shutdown
    simp only [sent]
    exact hasStopped_mono id id (fun _ _ => id) stopped
  | signalled =>
    refine hasStopped_mono ?_ ?_ ?_ stopped
    · exact id
    · intro still
      simp [stopTicker, still]
    · exact fun _ _ => id
  | left => exact hasStopped_mono (by simp) (by simp) (by simp) stopped
  | moved permitted made => exact hasStopped_of_move? made stopped
  | fainted | ousted =>
    refine hasStopped_mono ?_ ?_ ?_ stopped
    · exact fun _ => rfl
    · exact id
    · intro _ _ empty
      simp [stopWorker, settleWorker, empty]
  | unhinged =>
    refine hasStopped_mono ?_ ?_ ?_ stopped
    · exact id
    · exact fun _ => rfl
    · exact fun _ _ => id
  | lateTicked stopping =>
    obtain ⟨_, _, same⟩ := handOver_frame c.session
    refine hasStopped_mono ?_ ?_ ?_ stopped
    · simp
    · simp [same]
    · intro _ still
      exact absurd (still.symm.trans stopping) (by simp)
  | followed =>
    obtain ⟨_, same⟩ := follow_frame c.session
    simp only [withSession_session, same]
    exact hasStopped_mono id id (fun _ _ => id) stopped

/-- Once a party is dealt with, the closing call waits for no other party than the next one. -/
theorem Phase.isPast_next {party other : Party} (past : party.next.isPast other = true) :
    other = party ∨ (Phase.joining party).isPast other = true := by
  cases party <;> cases other <;> simp_all [Party.next, Phase.isPast]

/-- Whom the closing call waits for no longer has stopped or was aborted. -/
theorem Orderly.joined_of_acted {c c' : Closing τ} {act : Act τ} (orderly : c.Orderly)
    (acted : c.Acted act c') (party : Party) (past : c'.phase.isPast party = true) :
    c'.session.hasStopped party = true ∨ party ∈ c'.aborted := by
  have kept := hasStopped_of_acted acted party
  have before := orderly.joined party
  cases acted with
  | began =>
    rcases firstPhase_cases c.session.state with first | first <;> simp [first, Phase.isPast] at past
  | asked | ended | told | signalled | lapsed => cases past
  | joined other phase stopped =>
    rcases Phase.isPast_next past with rfl | earlier
    · exact .inl stopped
    · exact before (by rw [phase, earlier])
  | missed other phase =>
    rcases Phase.isPast_next past with rfl | earlier
    · exact .inr List.mem_cons_self
    · exact (before (by rw [phase, earlier])).imp_right (List.mem_cons_of_mem _)
  | left phase =>
    have earlier : c.phase.isPast party = true := by
      rw [phase]
      cases party <;> rfl
    exact (before earlier).imp_left kept
  | moved | fainted | ousted | unhinged | lateTicked | followed => exact (before past).imp_left kept

/-! ### A session that is being closed -/

/-- A session is known to be closed from the first step of its closing call on. -/
theorem closed_of_acted {c c' : Closing τ} {act : Act τ} (acted : c.Acted act c')
    (closed : c.phase ≠ .ahead → c.session.closed = true) :
    c'.phase ≠ .ahead → c'.session.closed = true := by
  cases acted with
  | began => exact fun _ => rfl
  | asked phase =>
    obtain ⟨_, _, _, _, _, _, _, same⟩ := ask_frame c.session .disconnect
    simpa [same] using closed (by simp [phase])
  | told phase =>
    obtain ⟨_, sent⟩ := send?_getD c.session .shutdown
    simp only [sent]
    exact fun _ => closed (by simp [phase])
  | ended phase | signalled phase | joined _ phase | lapsed phase | missed _ phase =>
    exact fun _ => closed (by simp [phase])
  | left phase => simpa using closed (by simp [phase])
  | moved permitted moved => exact fun other => (closed_of_move? moved).trans (closed other)
  | fainted | ousted | unhinged => exact closed
  | lateTicked =>
    obtain ⟨_, _, same⟩ := handOver_frame c.session
    simpa [same] using closed
  | followed =>
    obtain ⟨_, same⟩ := follow_frame c.session
    simpa [same] using closed

/-! ### Runs -/

/-- **Every act keeps the order of closing.** -/
theorem orderly_of_act? {c c' : Closing τ} {act : Act τ} (orderly : c.Orderly)
    (made : c.act? act = some c') : c'.Orderly where
  told := orderly.told_of_acted (acted_of_act? made)
  signalled := orderly.signalled_of_acted (acted_of_act? made)
  spared := orderly.spared_of_acted (acted_of_act? made)
  joined := orderly.joined_of_acted (acted_of_act? made)

/-! ## The closing call returns -/

/-- How many steps the closing call has left at most. -/
def Phase.left : Phase → Nat
  | .ahead => 9
  | .asking => 8
  | .waiting => 7
  | .telling => 6
  | .signalling => 5
  | .joining .worker => 4
  | .joining .ticker => 3
  | .joining .dispatcher => 2
  | .leaving => 1
  | .returned => 0

/-- Whether an act is a step of the closing call. -/
def Act.isOwn : Act τ → Bool
  | .proceed => true
  | .expire => true
  | _ => false

/-- **The closing call is never stuck**: until it has returned, it goes on or has a deadline. -/
theorem goes_on {c : Closing τ} (pending : c.phase ≠ .returned) :
    ∃ act, act.isOwn = true ∧ (c.act? act).isSome = true := by
  cases phase : c.phase with
  | ahead | asking | telling | signalling | leaving =>
    exact ⟨.proceed, rfl, by simp [act?, proceed?, phase]⟩
  | waiting | joining => exact ⟨.expire, rfl, by simp [act?, giveUp?, phase]⟩
  | returned => exact absurd phase pending

/-- Each step of the closing call leaves fewer of them, and no other act sets it back. -/
theorem left_of_acted {c c' : Closing τ} {act : Act τ} (acted : c.Acted act c') :
    c'.phase.left + (if act.isOwn then 1 else 0) ≤ c.phase.left := by
  cases acted with
  | began phase =>
    rcases firstPhase_cases c.session.state with first | first <;>
      simp [first, phase, Phase.left, Act.isOwn]
  | asked phase | ended phase _ | told phase | signalled phase | left phase | lapsed phase =>
    simp [phase, Phase.left, Act.isOwn]
  | joined party phase | missed party phase =>
    cases party <;> simp [phase, Party.next, Phase.left, Act.isOwn]
  | moved | fainted | ousted | unhinged | lateTicked | followed => simp [Act.isOwn]

/-- **The closing call makes nine steps at most**, whatever goes on around it. -/
theorem left_of_run? {c c' : Closing τ} {acts : List (Act τ)} (run : c.run? acts = some c') :
    c'.phase.left + acts.countP Act.isOwn ≤ c.phase.left := by
  induction acts generalizing c with
  | nil =>
      obtain rfl := Option.some.inj run
      exact Nat.le_refl _
  | cons act rest ih =>
      obtain ⟨next, made, remaining⟩ := Option.bind_eq_some_iff.mp run
      have first := left_of_acted (acted_of_act? made)
      have later := ih remaining
      rw [List.countP_cons]
      omega

end Closing

end MqttSessions
