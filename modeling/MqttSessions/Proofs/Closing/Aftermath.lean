import MqttSessions.Proofs.Closing.Order
import MqttSessions.Proofs.Session.Settling

/-! # What a session does when it is over

A session is *over* (**`Session.Over`**) when it has been closed, is disconnected, and all its
parties have stopped. Then only callers, the clock and the network are left, and nothing that they
do brings it back (**`Session.Over.of_move?`**): it is disconnected again after each call, and
nothing is recorded any more (**`Session.Unrecorded`**). -/

namespace MqttSessions

namespace Session

variable {τ : Type}

/-- A session that is over. -/
structure Over (s : Session τ) : Prop where
  closed : s.closed = true
  state : s.state = .disconnected
  stopped : ∀ party, s.hasStopped party = true

/-- Between two moments of a session nothing has been recorded: no message has come into the history
or into the counts, no subscription has come or gone, and nothing has been announced except that an
attempt has begun or is over. -/
structure Unrecorded (s s' : Session τ) : Prop where
  history : s'.history.Sublist s.history
  received : s'.received = s.received
  published : s'.published = s.published
  wanted : s'.subscriptions.wanted = s.subscriptions.wanted
  announced : ∃ states : List ConnectionState,
    (∀ state ∈ states, state = .connecting ∨ state = .disconnected) ∧
    s'.feed.toList = s.feed.toList ++ states.map SessionEvent.stateChanged

namespace Unrecorded

/-- Nothing has been recorded if all that is recorded is the same. -/
theorem of_same {s s' : Session τ} (history : s'.history = s.history)
    (received : s'.received = s.received) (published : s'.published = s.published)
    (wanted : s'.subscriptions.wanted = s.subscriptions.wanted) (feed : s'.feed = s.feed) :
    Unrecorded s s' :=
  ⟨by rw [history], received, published, wanted, [], by simp, by simp [feed]⟩

theorem refl (s : Session τ) : Unrecorded s s := of_same rfl rfl rfl rfl rfl

theorem trans {s s' s'' : Session τ} (first : Unrecorded s s') (second : Unrecorded s' s'') :
    Unrecorded s s'' where
  history := second.history.trans first.history
  received := second.received.trans first.received
  published := second.published.trans first.published
  wanted := second.wanted.trans first.wanted
  announced := by
    obtain ⟨earlier, known, announced⟩ := first.announced
    obtain ⟨later, known', announced'⟩ := second.announced
    refine ⟨earlier ++ later, fun state mem => ?_, ?_⟩
    · exact (List.mem_append.mp mem).elim (known state) (known' state)
    · rw [announced', announced, List.map_append, List.append_assoc]

end Unrecorded

namespace Over

variable {s : Session τ}

theorem worker (ended : s.Over) : s.worker.footing = .stopped :=
  hasStopped_worker_iff.mp (ended.stopped .worker)

theorem ticker (ended : s.Over) : s.ticker = .stopped :=
  hasStopped_ticker_iff.mp (ended.stopped .ticker)

theorem reports (ended : s.Over) : s.reports = [] :=
  (hasStopped_dispatcher_iff.mp (ended.stopped .dispatcher)).2.2

/-- A session is as much over as one that has the same parties. -/
theorem congr {s' : Session τ} (ended : s.Over) (closed : s'.closed = s.closed)
    (state : s'.state = .disconnected) (worker : s'.worker.footing = s.worker.footing)
    (ticker : s'.ticker = s.ticker) (reports : s'.reports = s.reports) : s'.Over where
  closed := closed.trans ended.closed
  state := state
  stopped party := by
    refine hasStopped_mono ?_ ?_ ?_ (ended.stopped party)
    · exact worker.trans
    · exact ticker.trans
    · exact fun _ _ => reports.trans

/-! ## Calls -/

/-- A session that is over refuses to connect. -/
theorem requestConnect (ended : s.Over) :
    s.requestConnect =
      (.error .workerUnavailable, (s.enter .connecting).enter .disconnected) :=
  requestConnect_forsaken ended.state ended.worker

/-- Whatever is asked of a session that is over, it is disconnected afterwards. -/
theorem ask_state (ended : s.Over) (request : Request) : (s.ask request).2.state = .disconnected := by
  have asked := ask_asked s request
  generalize (s.ask request).1 = outcome at asked
  cases asked with
  | granted _ accepts => exact absurd ended.worker accepts
  | passed _ _ state => exact state.trans ended.state
  | forsaken _ state => exact state

/-- **Whatever is asked of a session that is over, it is over afterwards.** -/
theorem ask (ended : s.Over) (request : Request) : (s.ask request).2.Over := by
  have state := ended.ask_state request
  obtain ⟨_, _, _, _, _, _, _, same⟩ := ask_frame s request
  rw [same] at state ⊢
  exact ended.congr rfl state rfl rfl rfl

/-- A session that is not connected takes nothing that is to be sent. -/
theorem not_connected (ended : s.Over) : s.state ≠ .connected := by simp [ended.state]

/-- **Whatever is asked of a session that is over, nothing is recorded.** -/
theorem ask_unrecorded (ended : s.Over) (request : Request) :
    Unrecorded s (s.ask request).2 := by
  cases request with
  | connect =>
    rw [Session.ask, ended.requestConnect]
    refine ⟨.refl _, rfl, rfl, rfl, [.connecting, .disconnected], by simp, ?_⟩
    simp [enter, announce]
  | disconnect =>
    rcases requestDisconnect_cases s with ⟨_, made⟩ | ⟨state, -⟩
    · rw [Session.ask, made]
      exact .refl s
    · simp [ended.state] at state
  | subscribe topic qos color =>
    rcases subscribe_cases s topic qos color with ⟨_, made⟩ | ⟨-, connected, -⟩
    · rw [Session.ask, made]
      exact .refl s
    · exact absurd connected ended.not_connected
  | unsubscribe topic =>
    rcases unsubscribe_cases s topic with ⟨_, made⟩ | ⟨-, connected, -⟩
    · rw [Session.ask, made]
      exact .refl s
    · exact absurd connected ended.not_connected
  | publish topic payload qos retain =>
    rcases publish_cases s topic payload qos retain with ⟨_, made⟩ | ⟨-, connected, -⟩
    · rw [Session.ask, made]
      exact .refl s
    · exact absurd connected ended.not_connected
  | setEnabled topic enabled =>
    simp only [Session.ask, setEnabled]
    split
    · rename_i flagged sets
      exact .of_same rfl rfl rfl (Subscriptions.wanted_of_setEnabled? sets) rfl
    · exact .refl s
  | clearHistory =>
    refine ⟨List.nil_sublist _, rfl, rfl, rfl, [], by simp, ?_⟩
    rw [List.map_nil, List.append_nil]
    rfl

/-! ## Moves -/

theorem follow (ended : s.Over) : s.follow.Over ∧ Unrecorded s s.follow := by
  obtain ⟨_, same⟩ := follow_frame s
  rw [same]
  exact ⟨ended.congr rfl ended.state rfl rfl rfl, .of_same rfl rfl rfl rfl rfl⟩

theorem finishTicker? (ended : s.Over) : s.finishTicker? = none :=
  if_neg (by simp [ended.ticker])

theorem tick? (ended : s.Over) : s.tick? = none :=
  if_neg (by simp [ended.ticker])

theorem dispatch? (ended : s.Over) : s.dispatch? = none := by
  rw [Session.dispatch?, ended.reports]

variable [Transport τ]

theorem takeCommand? (ended : s.Over) : s.takeCommand? = none := by
  simp [Session.takeCommand?, ended.worker]

theorem takeEvent? (ended : s.Over) : s.takeEvent? = none := by
  simp [Session.takeEvent?, ended.worker]

theorem work? (ended : s.Over) : s.work? = none := by
  rw [Session.work?, ended.takeCommand?]
  exact ended.takeEvent?

/-- **No move brings a session back that is over**, and nothing is recorded by any. -/
theorem of_move? (ended : s.Over) {s' : Session τ} {move : Move τ} (made : s.move? move = some s') :
    s'.Over ∧ Unrecorded s s' := by
  cases move with
  | ask request =>
    obtain rfl := Option.some.inj made
    exact ⟨ended.ask request, ended.ask_unrecorded request⟩
  | takeCommand => exact absurd (ended.takeCommand?.symm.trans made) (by simp)
  | takeEvent => exact absurd (ended.takeEvent?.symm.trans made) (by simp)
  | dispatch => exact absurd (ended.dispatch?.symm.trans made) (by simp)
  | tick => exact absurd (ended.tick?.symm.trans made) (by simp)
  | finishTicker => exact absurd (ended.finishTicker?.symm.trans made) (by simp)
  | elapse ms =>
    obtain rfl := Option.some.inj made
    exact ⟨ended.congr rfl ended.state rfl rfl rfl, .of_same rfl rfl rfl rfl rfl⟩
  | drift change =>
    obtain rfl := Option.some.inj made
    exact ⟨ended.congr rfl ended.state rfl rfl rfl, .of_same rfl rfl rfl rfl rfl⟩

/-! ## Waiting and closing again -/

/-- When a session is over, nobody but its follower has anything to do. -/
theorem round? (ended : s.Over) : s.round? = none := by
  have worked : s.runWorker = s := exhaust_of_none ended.work? _
  simp [Session.round?, worked, ended.work?, ended.finishTicker?, ended.reports]

theorem settle (ended : s.Over) : s.settle = s.follow :=
  exhaust_of_none ended.follow.1.round? _

/-- Time passes without anything happening. -/
theorem advance (ended : s.Over) (ms : Nat) :
    (s.advance ms).Over ∧ Unrecorded s (s.advance ms) := by
  have later (s' : Session τ) (now : Nat) (kept : s'.Over ∧ Unrecorded s s') :
      Over { s' with now } ∧ Unrecorded s { s' with now } :=
    ⟨kept.1.congr rfl kept.1.state rfl rfl rfl, kept.2.trans (.of_same rfl rfl rfl rfl rfl)⟩
  obtain ⟨followed, unrecorded⟩ := ended.follow
  simp only [Session.advance, ended.settle]
  refine later _ _ ?_
  split
  · -- the ticker has stopped, so that only the follower reads
    rw [followed.tick?, Option.getD_none, followed.settle]
    exact ⟨followed.follow.1, unrecorded.trans followed.follow.2⟩
  · exact ⟨followed, unrecorded⟩

/-- **Whoever waits for a state of a session that is over finds it disconnected.** -/
theorem waitFor (ended : s.Over) (target : ConnectionState) (ms : Nat) :
    (s.waitFor target ms).2.Over ∧ Unrecorded s (s.waitFor target ms).2 := by
  have waited : s.settle.Over ∧ Unrecorded s s.settle := by
    rw [ended.settle]
    exact ended.follow
  simp only [Session.waitFor]
  split
  · exact ⟨ended, .refl s⟩
  · split
    · exact ⟨ended, .refl s⟩
    · split
      · exact waited
      · have late := waited.1.advance ms
        exact ⟨late.1, waited.2.trans late.2⟩

/-- Closing a session that is over does nothing. -/
theorem close (ended : s.Over) : s.close = s := if_pos ended.closed

end Over

end Session

end MqttSessions
