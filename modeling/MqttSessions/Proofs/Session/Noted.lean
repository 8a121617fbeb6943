import MqttSessions.Proofs.Session.Moves

/-! # A transport that notes its calls

What a session's transport is asked for cannot be read off the session. A **`Noted`** transport is
any transport together with a note of the calls made to it, in their order. Noting changes nothing:
without the notes, a run over it is the run over the transport itself (**`Session.run?_unnoted`**).
So the notes tell which calls are made in a run (**`Session.callsIn`**). -/

namespace MqttSessions

/-- A transport that notes the calls made to it. -/
structure Noted (τ : Type) where
  inner : τ
  calls : List Call

namespace Noted

variable {τ : Type}

/-- A transport to which no call has been made. -/
def of (inner : τ) : Noted τ := ⟨inner, []⟩

/-- What the network does to a transport leaves the notes alone. -/
def lift (change : τ → τ) (t : Noted τ) : Noted τ := { t with inner := change t.inner }

instance [Transport τ] : Transport (Noted τ) where
  perform call t :=
    let (answer, inner) := Transport.perform call t.inner
    (answer, ⟨inner, t.calls ++ [call]⟩)
  poll t := (Transport.poll t.inner).map fun (event, inner) => (event, { t with inner })
  load t := Transport.load t.inner

/-- Polling is no call. -/
theorem poll_calls [Transport τ] {t t' : Noted τ} {event : LinkEvent}
    (polled : Transport.poll t = some (event, t')) : t'.calls = t.calls := by
  obtain ⟨_, -, same⟩ := Option.map_eq_some_iff.mp polled
  rw [← (Prod.mk.inj same).2]

end Noted

/-- The same move over a transport that notes its calls. -/
def Session.Move.noted {τ : Type} : Session.Move τ → Session.Move (Noted τ)
  | .ask request => .ask request
  | .takeCommand => .takeCommand
  | .takeEvent => .takeEvent
  | .dispatch => .dispatch
  | .tick => .tick
  | .finishTicker => .finishTicker
  | .elapse ms => .elapse ms
  | .drift change => .drift (Noted.lift change)

/-! ## Noting calls changes nothing -/

/-- A worker without the notes of its transport. -/
def Worker.unnoted {τ : Type} (worker : Worker (Noted τ)) : Worker τ :=
  ⟨worker.footing, worker.link, worker.transport.inner⟩

namespace Session

variable {τ : Type}

/-- A session without the notes of its transport. -/
def unnoted (s : Session (Noted τ)) : Session τ := { s with worker := s.worker.unnoted }

theorem transition?_unnoted (s : Session (Noted τ)) (event : ConnectionEvent) :
    s.unnoted.transition? event = (s.transition? event).map unnoted := by
  unfold transition?
  rw [Option.map_map]
  rfl

theorem apply_unnoted (s : Session (Noted τ)) (event : ConnectionEvent) :
    s.unnoted.apply event = (s.apply event).unnoted := by
  unfold apply
  rw [transition?_unnoted]
  cases s.transition? event <;> rfl

theorem send?_unnoted (s : Session (Noted τ)) (command : Command) :
    s.unnoted.send? command = (s.send? command).map unnoted := by
  unfold send?
  rw [apply_ite (Option.map unnoted)]
  rfl

/-- Callers are answered the same. -/
theorem ask_unnoted (s : Session (Noted τ)) (request : Request) :
    s.unnoted.ask request = ((s.ask request).1, (s.ask request).2.unnoted) := by
  cases request with
  | connect =>
    simp only [ask, requestConnect, transition?_unnoted]
    cases s.transition? .connectRequested with
    | none => rfl
    | some entered =>
      simp only [Option.map_some, show entered.unnoted.profile = entered.profile from rfl,
        send?_unnoted, apply_unnoted]
      cases entered.send? (.connect entered.profile) <;> rfl
  | disconnect =>
    simp only [ask, requestDisconnect, transition?_unnoted]
    cases s.transition? .disconnectRequested with
    | none => rfl
    | some entered =>
      simp only [Option.map_some, send?_unnoted, forceDisconnected]
      cases entered.send? .disconnect with
      | some queued => rfl
      | none =>
        simp only [Option.map_none, show entered.unnoted.state = entered.state from rfl]
        split <;> rfl
  | subscribe topic qos color =>
    simp only [ask, subscribe]
    cases Topic.checkFilter topic with
    | error fault => rfl
    | ok =>
      simp only [show s.unnoted.state = s.state from rfl,
        show s.unnoted.subscriptions = s.subscriptions from rfl]
      split
      · rfl
      · cases s.subscriptions.add? topic qos color with
        | none => rfl
        | some subscriptions =>
          have sent := send?_unnoted { s with subscriptions } (.subscribe topic qos)
          simp only [unnoted] at sent ⊢
          rw [sent]
          cases send? { s with subscriptions } (.subscribe topic qos) <;> rfl
  | unsubscribe topic =>
    simp only [ask, unsubscribe]
    cases Topic.checkFilter topic with
    | error fault => rfl
    | ok =>
      simp only [show s.unnoted.state = s.state from rfl,
        show s.unnoted.subscriptions = s.subscriptions from rfl]
      split
      · rfl
      · cases s.subscriptions.remove? topic with
        | none => rfl
        | some subscriptions =>
          have sent := send?_unnoted { s with subscriptions } (.unsubscribe topic)
          simp only [unnoted] at sent ⊢
          rw [sent]
          cases send? { s with subscriptions } (.unsubscribe topic) <;> rfl
  | publish topic payload qos retain =>
    simp only [ask, publish]
    cases Topic.checkName topic with
    | error fault => rfl
    | ok =>
      simp only [show s.unnoted.state = s.state from rfl, send?_unnoted]
      split
      · rfl
      · cases s.send? (.publish topic payload qos retain) <;> rfl
  | setEnabled topic enabled =>
    simp only [ask, setEnabled, show s.unnoted.subscriptions = s.subscriptions from rfl]
    split <;> rfl
  | clearHistory => rfl

/-- Commands sent one after the other are queued the same. -/
theorem foldl_send?_unnoted (s : Session (Noted τ)) (commands : List Command) :
    commands.foldl (fun s command => (s.send? command).getD s) s.unnoted =
      (commands.foldl (fun s command => (s.send? command).getD s) s).unnoted := by
  induction commands generalizing s with
  | nil => rfl
  | cons command rest ih =>
      rw [List.foldl_cons, List.foldl_cons, ← ih, send?_unnoted]
      cases s.send? command <;> rfl

/-- The dispatcher does the same. -/
theorem dispatch?_unnoted (s : Session (Noted τ)) :
    s.unnoted.dispatch? = s.dispatch?.map unnoted := by
  simp only [dispatch?, show s.unnoted.reports = s.reports from rfl]
  cases s.reports with
  | nil => rfl
  | cons report rest =>
    refine congrArg some ?_
    have unread : ({ s.unnoted with reports := rest } : Session τ) =
      unnoted { s with reports := rest } := rfl
    rw [unread]
    generalize ({ s with reports := rest } : Session (Noted τ)) = s
    cases report with
    | connected =>
      simp only [dispatch, transition?_unnoted]
      cases s.transition? .connectSucceeded with
      | none => rfl
      | some entered => exact foldl_send?_unnoted entered _
    | connectFailed reason => exact apply_unnoted s _
    | connectionLost reason => exact apply_unnoted s _
    | disconnectComplete => exact apply_unnoted s _
    | subscribeAck success => rfl
    | messages batch => rfl

theorem handOver_unnoted (s : Session (Noted τ)) : s.unnoted.handOver = s.handOver.unnoted := by
  simp only [handOver, show s.unnoted.buffer = s.buffer from rfl]
  split <;> rfl

end Session

namespace Worker

variable {τ : Type} [Transport τ]

theorem call_unnoted (worker : Worker (Noted τ)) (c : Call) :
    worker.unnoted.call c = ((worker.call c).1, (worker.call c).2.unnoted) := rfl

theorem teardown_unnoted (worker : Worker (Noted τ)) :
    worker.unnoted.teardown = worker.teardown.unnoted := by
  simp only [teardown, call_unnoted, show worker.unnoted.link = worker.link from rfl]
  split
  · rfl
  · obtain ⟨answer, called⟩ := worker.call .disconnect
    cases answer <;> rfl

theorem send_unnoted (worker : Worker (Noted τ)) (c : Call) :
    worker.unnoted.send c = (worker.send c).unnoted := by
  simp only [send, call_unnoted, show worker.unnoted.link = worker.link from rfl]
  split <;> rfl

/-- A worker does the same about a command. -/
theorem take_unnoted (worker : Worker (Noted τ)) (command : Command) :
    worker.unnoted.take command = ((worker.take command).1.unnoted, (worker.take command).2) := by
  cases command with
  | connect profile =>
    simp only [take, connect, call_unnoted, show worker.unnoted.link = worker.link from rfl]
    split
    · obtain ⟨answer, called⟩ := worker.call (.connect profile)
      cases answer <;> rfl
    · rfl
  | disconnect =>
    simp only [take, teardown_unnoted]
    rfl
  | subscribe topic qos => simp only [take, send_unnoted]
  | unsubscribe topic => simp only [take, send_unnoted]
  | publish topic payload qos retain => simp only [take, send_unnoted]
  | shutdown =>
    simp only [take, teardown_unnoted,
      show worker.teardown.unnoted.footing = worker.teardown.footing from rfl]
    split <;> rfl

omit [Transport τ] in
/-- A worker does the same about an event of its link. -/
theorem heed_unnoted (worker : Worker (Noted τ)) (event : LinkEvent) :
    worker.unnoted.heed event =
      ((worker.heed event).1.unnoted, (worker.heed event).2.1, (worker.heed event).2.2) := by
  cases event with
  | connected =>
    simp only [heed, show worker.unnoted.link = worker.link from rfl]
    split <;> rfl
  | _ => rfl

end Worker

namespace Session

variable {τ : Type} [Transport τ]

theorem takeCommand?_unnoted (s : Session (Noted τ)) :
    s.unnoted.takeCommand? = s.takeCommand?.map unnoted := by
  simp only [takeCommand?, show s.unnoted.commands = s.commands from rfl,
    show s.unnoted.worker = s.worker.unnoted from rfl, Worker.take_unnoted,
    show s.worker.unnoted.footing = s.worker.footing from rfl]
  cases s.worker.footing <;> cases s.commands <;> rfl

theorem takeEvent?_unnoted (s : Session (Noted τ)) :
    s.unnoted.takeEvent? = s.takeEvent?.map unnoted := by
  have polled : Transport.poll s.worker.transport =
    (Transport.poll s.worker.transport.inner).map fun (event, inner) =>
      (event, { s.worker.transport with inner }) := rfl
  simp only [takeEvent?, polled, show s.unnoted.worker = s.worker.unnoted from rfl,
    show s.worker.unnoted.footing = s.worker.footing from rfl,
    show s.worker.unnoted.link = s.worker.link from rfl,
    show s.worker.unnoted.transport = s.worker.transport.inner from rfl]
  split
  · rfl
  · cases Transport.poll s.worker.transport.inner with
    | none => rfl
    | some next =>
      obtain ⟨event, inner⟩ := next
      have heeded := Worker.heed_unnoted
        { s.worker with transport := { s.worker.transport with inner } } event
      simp only [Option.map_some]
      simp only [Worker.unnoted] at heeded ⊢
      rw [heeded]
      rfl
  · rfl

/-- A move does the same. -/
theorem move?_unnoted (s : Session (Noted τ)) (move : Move τ) :
    s.unnoted.move? move = (s.move? move.noted).map unnoted := by
  cases move with
  | ask request => exact congrArg (fun asked => some asked.2) (ask_unnoted s request)
  | takeCommand => exact takeCommand?_unnoted s
  | takeEvent => exact takeEvent?_unnoted s
  | dispatch => exact dispatch?_unnoted s
  | tick =>
    simp only [Move.noted, move?, tick?, handOver_unnoted, show s.unnoted.ticker = s.ticker from rfl]
    split <;> rfl
  | finishTicker =>
    simp only [Move.noted, move?, finishTicker?, handOver_unnoted,
      show s.unnoted.ticker = s.ticker from rfl]
    split <;> rfl
  | elapse ms => rfl
  | drift change => rfl

/-- **Noting calls changes nothing about a run.** -/
theorem run?_unnoted (s : Session (Noted τ)) (moves : List (Move τ)) :
    s.unnoted.run? moves = (s.run? (moves.map Move.noted)).map unnoted := by
  induction moves generalizing s with
  | nil => rfl
  | cons move rest ih =>
      rw [List.map_cons, run?_cons, run?_cons, move?_unnoted]
      cases s.move? move.noted with
      | none => rfl
      | some next => exact ih next

/-! ## The calls made in a run -/

omit [Transport τ] in
/-- A session whose transport has noted nothing yet. -/
def noted (s : Session τ) : Session (Noted τ) :=
  { s with worker := ⟨s.worker.footing, s.worker.link, Noted.of s.worker.transport⟩ }

/-- The calls that are made to the transport in a run. -/
def callsIn (s : Session τ) (moves : List (Move τ)) : List Call :=
  (s.noted.run? (moves.map Move.noted)).elim [] (·.worker.transport.calls)

/-- A run is also a run over a transport that notes its calls, and those are the calls made in it. -/
theorem noted_of_run? {s s' : Session τ} {moves : List (Move τ)} (run : s.run? moves = some s') :
    ∃ t : Session (Noted τ), s.noted.run? (moves.map Move.noted) = some t ∧ t.unnoted = s' ∧
      s.callsIn moves = t.worker.transport.calls := by
  have same := s.noted.run?_unnoted moves
  rw [show s.noted.unnoted = s from rfl, run] at same
  obtain ⟨t, ran, unnoted⟩ := Option.map_eq_some_iff.mp same.symm
  exact ⟨t, ran, unnoted, by rw [callsIn, ran, Option.elim_some]⟩

end Session

end MqttSessions
