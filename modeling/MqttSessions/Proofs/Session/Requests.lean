import MqttSessions.Proofs.Session.Moves
import MqttSessions.Proofs.Subscriptions

/-! # What callers change

A command, a report and a caller's request can each stand for an event of the connection
(**`Command.event?`**, **`Report.event?`** and **`Session.Request.event?`**). What each request does in
full is said by **`Session.requestConnect_cases`** and its like. What it makes of the connection is the
relation **`Session.Asked`**: it makes the transition of its event and queues a command for it, or it
leaves the connection alone, or no worker is left (**`Session.ask_asked`**). -/

namespace MqttSessions

/-! ## Commands and reports as events of the connection -/

/-- The event of the connection that a command stands for: only connecting and disconnecting have
one. -/
def Command.event? : Command → Option ConnectionEvent
  | .connect _ => some .connectRequested
  | .disconnect => some .disconnectRequested
  | _ => none

/-- The event of the connection that a report stands for. Acknowledged subscriptions and inbound
messages say nothing about the connection. -/
def Report.event? : Report → Option ConnectionEvent
  | .connected => some .connectSucceeded
  | .connectFailed _ => some .connectFailed
  | .connectionLost _ => some .connectionLost
  | .disconnectComplete => some .teardownComplete
  | .subscribeAck _ => none
  | .messages _ => none

/-- The event of the connection that a caller's request stands for. -/
def Session.Request.event? : Session.Request → Option ConnectionEvent
  | .connect => some .connectRequested
  | .disconnect => some .disconnectRequested
  | _ => none

/-- The event of the connection that a move stands for: only a caller's request can have one. -/
def Session.Move.event? {τ : Type} : Session.Move τ → Option ConnectionEvent
  | .ask request => request.event?
  | _ => none

/-- A caller asks for a connection or for its end. -/
theorem Session.Request.event?_asked {request : Session.Request} {event : ConnectionEvent}
    (stands : request.event? = some event) :
    event = .connectRequested ∨ event = .disconnectRequested := by
  cases request <;> cases stands
  · exact .inl rfl
  · exact .inr rfl

namespace Session

variable {τ : Type}

/-! ## What a caller's request does -/

@[simp] theorem enter_state (s : Session τ) (state : ConnectionState) :
    (s.enter state).state = state := rfl

@[simp] theorem enter_worker (s : Session τ) (state : ConnectionState) :
    (s.enter state).worker = s.worker := rfl

@[simp] theorem enter_commands (s : Session τ) (state : ConnectionState) :
    (s.enter state).commands = s.commands := rfl

@[simp] theorem enter_reports (s : Session τ) (state : ConnectionState) :
    (s.enter state).reports = s.reports := rfl

@[simp] theorem enter_subscriptions (s : Session τ) (state : ConnectionState) :
    (s.enter state).subscriptions = s.subscriptions := rfl

/-- A session makes a transition exactly when the event is legal, and then enters the next state. -/
theorem transition?_eq_some_iff {s s' : Session τ} {event : ConnectionEvent} :
    s.transition? event = some s' ↔
      ∃ state, s.state.next? event = some state ∧ s' = s.enter state := by
  rw [transition?, Option.map_eq_some_iff]
  exact exists_congr fun state => and_congr_right fun _ => eq_comm

/-- The session with commands queued behind those that wait. -/
def enqueue (s : Session τ) (commands : List Command) : Session τ :=
  { s with commands := s.commands ++ commands }

@[simp] theorem enqueue_state (s : Session τ) (commands : List Command) :
    (s.enqueue commands).state = s.state := rfl

@[simp] theorem enqueue_worker (s : Session τ) (commands : List Command) :
    (s.enqueue commands).worker = s.worker := rfl

@[simp] theorem enqueue_commands (s : Session τ) (commands : List Command) :
    (s.enqueue commands).commands = s.commands ++ commands := rfl

@[simp] theorem enqueue_reports (s : Session τ) (commands : List Command) :
    (s.enqueue commands).reports = s.reports := rfl

@[simp] theorem enqueue_subscriptions (s : Session τ) (commands : List Command) :
    (s.enqueue commands).subscriptions = s.subscriptions := rfl

/-- Commands queued one after the other are queued in their order. -/
theorem enqueue_enqueue (s : Session τ) (first second : List Command) :
    (s.enqueue first).enqueue second = s.enqueue (first ++ second) := by
  simp only [enqueue, List.append_assoc]

/-- A command is queued exactly when the worker has not stopped. -/
theorem send?_eq_some_iff {s s' : Session τ} {command : Command} :
    s.send? command = some s' ↔ s.worker.footing ≠ .stopped ∧ s' = s.enqueue [command] := by
  by_cases stopped : s.worker.footing = .stopped
  · simp [send?, Worker.isStopped, stopped]
  · have accepts : s.worker.isStopped = false := by simpa [Worker.isStopped] using stopped
    rw [send?, if_neg (by simp [accepts]), Option.some_inj]
    exact ⟨fun h => ⟨stopped, h.symm⟩, fun h => h.2.symm⟩

/-- A worker that has not stopped takes every command. -/
theorem send?_of_ne_stopped {s : Session τ} (accepts : s.worker.footing ≠ .stopped)
    (command : Command) : s.send? command = some (s.enqueue [command]) :=
  send?_eq_some_iff.mpr ⟨accepts, rfl⟩

/-- A worker that has stopped takes no command. -/
theorem send?_of_stopped {s : Session τ} (stopped : s.worker.footing = .stopped)
    (command : Command) : s.send? command = none := by
  simp [send?, Worker.isStopped, stopped]

/-- A command that is sent is queued, or lost. -/
theorem send?_getD (s : Session τ) (command : Command) :
    ∃ commands, (s.send? command).getD s = s.enqueue commands := by
  cases sent : s.send? command with
  | none => exact ⟨[], by simp [enqueue]⟩
  | some s' => exact ⟨[command], (send?_eq_some_iff.mp sent).2⟩

/-- Asking to connect when no worker is left fails at once, and the session is disconnected again. -/
theorem requestConnect_forsaken {s : Session τ} (disconnected : s.state = .disconnected)
    (stopped : s.worker.footing = .stopped) :
    s.requestConnect =
      (.error .workerUnavailable, (s.enter .connecting).enter .disconnected) := by
  have made : s.transition? .connectRequested = some (s.enter .connecting) :=
    transition?_eq_some_iff.mpr ⟨_, by rw [disconnected]; rfl, rfl⟩
  simp only [requestConnect, made]
  rw [send?_of_stopped (s := s.enter .connecting) stopped]
  rfl

/-- **Asking to connect** is refused without effect, or makes the transition and queues the command,
or finds that no worker is left: then the session is disconnected again. -/
theorem requestConnect_cases (s : Session τ) :
    (∃ failure, s.requestConnect = (.error failure, s)) ∨
      s.state = .disconnected ∧ s.worker.footing ≠ .stopped ∧
        s.requestConnect = (.ok (), (s.enter .connecting).enqueue [.connect s.profile]) ∨
      s.state = .disconnected ∧ s.worker.footing = .stopped ∧
        s.requestConnect =
          (.error .workerUnavailable, (s.enter .connecting).enter .disconnected) := by
  by_cases disconnected : s.state = .disconnected
  · -- the transition is made, whether or not a worker is left
    by_cases stopped : s.worker.footing = .stopped
    · exact .inr (.inr ⟨disconnected, stopped, requestConnect_forsaken disconnected stopped⟩)
    · have made : s.transition? .connectRequested = some (s.enter .connecting) :=
        transition?_eq_some_iff.mpr ⟨_, by rw [disconnected]; rfl, rfl⟩
      refine .inr (.inl ⟨disconnected, stopped, ?_⟩)
      simp only [requestConnect, made]
      rw [send?_of_ne_stopped (s := s.enter .connecting) stopped]
      rfl
  · have illegal : s.state.next? .connectRequested = none := by
      cases state : s.state <;> first | rfl | exact absurd state disconnected
    refine .inl ⟨.invalidState Operation.connect.text s.state, ?_⟩
    simp only [requestConnect, transition?, illegal, Option.map_none]

/-- **Asking to disconnect** is refused without effect, or makes the transition and queues the
command, or finds that no worker is left: then the session is disconnected at once. -/
theorem requestDisconnect_cases (s : Session τ) :
    (∃ failure, s.requestDisconnect = (.error failure, s)) ∨
      (s.state = .connecting ∨ s.state = .connected) ∧
        (s.worker.footing ≠ .stopped ∧
            s.requestDisconnect = (.ok (), (s.enter .disconnecting).enqueue [.disconnect]) ∨
          s.worker.footing = .stopped ∧
            s.requestDisconnect =
              (.error .workerUnavailable, (s.enter .disconnecting).enter .disconnected)) := by
  by_cases opened : s.state = .connecting ∨ s.state = .connected
  · -- the transition is made, whether or not a worker is left
    have made : s.transition? .disconnectRequested = some (s.enter .disconnecting) := by
      refine transition?_eq_some_iff.mpr ⟨_, ?_, rfl⟩
      rcases opened with state | state <;> rw [state] <;> rfl
    refine .inr ⟨opened, ?_⟩
    by_cases stopped : s.worker.footing = .stopped
    · refine .inr ⟨stopped, ?_⟩
      simp only [requestDisconnect, made]
      rw [send?_of_stopped (s := s.enter .disconnecting) stopped]
      rfl
    · refine .inl ⟨stopped, ?_⟩
      simp only [requestDisconnect, made]
      rw [send?_of_ne_stopped (s := s.enter .disconnecting) stopped]
  · have illegal : s.state.next? .disconnectRequested = none := by
      cases state : s.state <;> first | rfl | exact absurd (by simp [state]) opened
    refine .inl ⟨.invalidState Operation.disconnect.text s.state, ?_⟩
    simp only [requestDisconnect, transition?, illegal, Option.map_none]

/-- **Subscribing** is refused without effect, or the filter is valid, the session is connected, the
subscription is new, and it is recorded and queued. -/
theorem subscribe_cases (s : Session τ) (topic : String) (qos : Qos) (color : String) :
    (∃ failure, s.subscribe topic qos color = (.error failure, s)) ∨
      Topic.checkFilter topic = .ok () ∧ s.state = .connected ∧ s.worker.footing ≠ .stopped ∧
        ∃ subscriptions, s.subscriptions.add? topic qos color = some subscriptions ∧
          s.subscribe topic qos color =
            (.ok (), enqueue { s with subscriptions } [.subscribe topic qos]) := by
  unfold subscribe
  cases valid : Topic.checkFilter topic with
  | error fault => exact .inl ⟨_, rfl⟩
  | ok =>
    by_cases connected : s.state = .connected
    · rw [if_neg (by simp [connected, ConnectionState.acceptsCommands])]
      cases added : s.subscriptions.add? topic qos color with
      | none => exact .inl ⟨_, rfl⟩
      | some subscriptions =>
        by_cases stopped : s.worker.footing = .stopped
        · -- the subscription is taken back, which leaves the list that was there before
          have unsent := send?_of_stopped (s := { s with subscriptions }) stopped
            (.subscribe topic qos)
          simp only [unsent, Subscriptions.remove?_add? added, Option.getD_some]
          exact .inl ⟨_, rfl⟩
        · have sent := send?_of_ne_stopped (s := { s with subscriptions }) stopped
            (.subscribe topic qos)
          simp only [sent]
          exact .inr ⟨trivial, connected, stopped, subscriptions, rfl, rfl⟩
    · rw [if_pos (by simp [connected, ConnectionState.acceptsCommands])]
      exact .inl ⟨_, rfl⟩

/-- **Unsubscribing** is refused without effect, or the filter is valid, the session is connected and
there is such a subscription. Then its removal is recorded, and queued if a worker is left. -/
theorem unsubscribe_cases (s : Session τ) (topic : String) :
    (∃ failure, s.unsubscribe topic = (.error failure, s)) ∨
      Topic.checkFilter topic = .ok () ∧ s.state = .connected ∧
        ∃ subscriptions, s.subscriptions.remove? topic = some subscriptions ∧
          (s.worker.footing ≠ .stopped ∧
              s.unsubscribe topic =
                (.ok (), enqueue { s with subscriptions } [.unsubscribe topic]) ∨
            s.worker.footing = .stopped ∧
              s.unsubscribe topic = (.error .workerUnavailable, { s with subscriptions })) := by
  unfold unsubscribe
  cases valid : Topic.checkFilter topic with
  | error fault => exact .inl ⟨_, rfl⟩
  | ok =>
    by_cases connected : s.state = .connected
    · rw [if_neg (by simp [connected, ConnectionState.acceptsCommands])]
      cases removed : s.subscriptions.remove? topic with
      | none => exact .inl ⟨_, rfl⟩
      | some subscriptions =>
        refine .inr ⟨rfl, connected, subscriptions, rfl, ?_⟩
        by_cases stopped : s.worker.footing = .stopped
        · -- unlike a new subscription, the removal is not taken back
          have unsent := send?_of_stopped (s := { s with subscriptions }) stopped
            (.unsubscribe topic)
          simp only [unsent]
          exact .inr ⟨stopped, trivial⟩
        · have sent := send?_of_ne_stopped (s := { s with subscriptions }) stopped
            (.unsubscribe topic)
          simp only [sent]
          exact .inl ⟨stopped, trivial⟩
    · rw [if_pos (by simp [connected, ConnectionState.acceptsCommands])]
      exact .inl ⟨_, rfl⟩

/-- **Publishing** is refused without effect, or the name is valid, the session is connected, and the
message is queued and recorded. -/
theorem publish_cases (s : Session τ) (topic : String) (payload : List UInt8) (qos : Qos)
    (retain : Bool) :
    (∃ failure, s.publish topic payload qos retain = (.error failure, s)) ∨
      Topic.checkName topic = .ok () ∧ s.state = .connected ∧ s.worker.footing ≠ .stopped ∧
        s.publish topic payload qos retain =
          (.ok (), (s.enqueue [.publish topic payload qos retain]).recordPublished
            ⟨topic, payload, qos, retain, .published⟩) := by
  unfold publish
  cases valid : Topic.checkName topic with
  | error fault => exact .inl ⟨_, rfl⟩
  | ok =>
    by_cases connected : s.state = .connected
    · rw [if_neg (by simp [connected, ConnectionState.acceptsCommands])]
      by_cases stopped : s.worker.footing = .stopped
      · rw [send?_of_stopped stopped]
        exact .inl ⟨_, rfl⟩
      · rw [send?_of_ne_stopped stopped]
        exact .inr ⟨rfl, connected, stopped, rfl⟩
    · rw [if_pos (by simp [connected, ConnectionState.acceptsCommands])]
      exact .inl ⟨_, rfl⟩

/-- What a caller's request makes of the connection: the outcome, and the session afterwards. -/
inductive Asked (s : Session τ) (request : Request) : Outcome → Session τ → Prop
  /-- The transition of the request's event is made, and its command is queued. -/
  | granted {s' : Session τ} {event : ConnectionEvent} {command : Command}
      (stands : request.event? = some event) (accepts : s.worker.footing ≠ .stopped)
      (legal : s.state.next? event = some s'.state) (said : command.event? = some event)
      (queued : s'.commands = s.commands ++ [command]) : Asked s request (.ok ()) s'
  /-- The connection is left alone, though something else may be queued. -/
  | passed {outcome : Outcome} {s' : Session τ} (commands : List Command)
      (other : outcome = .ok () → request.event? = none) (state : s'.state = s.state)
      (silent : ∀ command ∈ commands, command.event? = none)
      (queued : s'.commands = s.commands ++ commands) : Asked s request outcome s'
  /-- No worker is left, and so there is no connection. -/
  | forsaken {s' : Session τ} (stopped : s.worker.footing = .stopped)
      (state : s'.state = .disconnected) (queued : s'.commands = s.commands) :
      Asked s request (.error .workerUnavailable) s'

/-- A request that is refused without effect leaves the connection alone. -/
theorem Asked.refused (s : Session τ) (request : Request) (failure : SessionFailure) :
    Asked s request (.error failure) s :=
  .passed [] (by simp) rfl (by simp) (by simp)

/-- A request that stands for no event and queues one command like it. -/
theorem Asked.queued {s s' : Session τ} {request : Request} (command : Command)
    (other : request.event? = none) (silent : command.event? = none) (state : s'.state = s.state)
    (queued : s'.commands = s.commands ++ [command]) : Asked s request (.ok ()) s' :=
  .passed [command] (fun _ => other) state (by simpa using silent) queued

/-- **What a caller's request makes of the connection.** -/
theorem ask_asked (s : Session τ) (request : Request) :
    Asked s request (s.ask request).1 (s.ask request).2 := by
  cases request with
  | connect =>
    rcases requestConnect_cases s with ⟨failure, same⟩ | ⟨state, accepts, made⟩ | ⟨-, stopped, made⟩
    · rw [ask, same]
      exact .refused s _ failure
    · rw [ask, made]
      exact .granted rfl accepts (by rw [state]; rfl) rfl rfl
    · rw [ask, made]
      exact .forsaken stopped rfl rfl
  | disconnect =>
    rcases requestDisconnect_cases s with
      ⟨failure, same⟩ | ⟨state, ⟨accepts, made⟩ | ⟨stopped, made⟩⟩
    · rw [ask, same]
      exact .refused s _ failure
    · rw [ask, made]
      exact .granted rfl accepts (by rcases state with state | state <;> rw [state] <;> rfl) rfl rfl
    · rw [ask, made]
      exact .forsaken stopped rfl rfl
  | subscribe topic qos color =>
    rcases subscribe_cases s topic qos color with ⟨failure, same⟩ | ⟨-, -, -, _, -, made⟩
    · rw [ask, same]
      exact .refused s _ failure
    · rw [ask, made]
      exact .queued (.subscribe topic qos) rfl rfl rfl rfl
  | unsubscribe topic =>
    rcases unsubscribe_cases s topic with ⟨failure, same⟩ | ⟨-, -, _, -, ⟨-, made⟩ | ⟨-, made⟩⟩
    · rw [ask, same]
      exact .refused s _ failure
    · rw [ask, made]
      exact .queued (.unsubscribe topic) rfl rfl rfl rfl
    · -- nobody is left to take the command, but the connection is not touched
      rw [ask, made]
      exact .passed [] (by simp) rfl (by simp) (by simp)
  | publish topic payload qos retain =>
    rcases publish_cases s topic payload qos retain with ⟨failure, same⟩ | ⟨-, -, -, made⟩
    · rw [ask, same]
      exact .refused s _ failure
    · rw [ask, made]
      exact .queued (.publish topic payload qos retain) rfl rfl rfl rfl
  | setEnabled topic enabled =>
    simp only [ask, setEnabled]
    split <;> exact .passed [] (by simp [Request.event?]) rfl (by simp) (by simp)
  | clearHistory => exact .passed [] (fun _ => rfl) rfl (by simp) (by simp [ask, clearHistory])

/-- Callers take no command away. -/
theorem ask_commands (s : Session τ) (request : Request) :
    ∃ commands, (s.ask request).2.commands = s.commands ++ commands := by
  have asked := ask_asked s request
  generalize (s.ask request).1 = outcome at asked
  cases asked with
  | granted _ _ _ _ queued => exact ⟨_, queued⟩
  | passed commands _ _ _ queued => exact ⟨commands, queued⟩
  | forsaken _ _ queued => exact ⟨[], by rw [queued, List.append_nil]⟩

/-- **What callers can change**: the state, the subscriptions, what is recorded and announced, and
the commands that wait. -/
theorem ask_frame (s : Session τ) (request : Request) :
    ∃ state connectedAt subscriptions history published feed commands, (s.ask request).2 =
      { s with state, connectedAt, subscriptions, history, published, feed, commands } := by
  cases request with
  | connect =>
    rcases requestConnect_cases s with ⟨failure, made⟩ | ⟨-, -, made⟩ | ⟨-, -, made⟩ <;>
      rw [ask, made] <;> exact ⟨_, _, _, _, _, _, _, rfl⟩
  | disconnect =>
    rcases requestDisconnect_cases s with ⟨failure, made⟩ | ⟨-, ⟨-, made⟩ | ⟨-, made⟩⟩ <;>
      rw [ask, made] <;> exact ⟨_, _, _, _, _, _, _, rfl⟩
  | subscribe topic qos color =>
    rcases subscribe_cases s topic qos color with ⟨failure, made⟩ | ⟨-, -, -, _, -, made⟩ <;>
      rw [ask, made] <;> exact ⟨_, _, _, _, _, _, _, rfl⟩
  | unsubscribe topic =>
    rcases unsubscribe_cases s topic with ⟨failure, made⟩ | ⟨-, -, _, -, ⟨-, made⟩ | ⟨-, made⟩⟩ <;>
      rw [ask, made] <;> exact ⟨_, _, _, _, _, _, _, rfl⟩
  | publish topic payload qos retain =>
    rcases publish_cases s topic payload qos retain with ⟨failure, made⟩ | ⟨-, -, -, made⟩ <;>
      rw [ask, made] <;> exact ⟨_, _, _, _, _, _, _, rfl⟩
  | setEnabled topic enabled =>
    simp only [ask, setEnabled]
    split <;> exact ⟨_, _, _, _, _, _, _, rfl⟩
  | clearHistory => exact ⟨_, _, _, _, _, _, _, rfl⟩

/-- Callers touch neither the worker nor the reports. -/
theorem ask_kept (s : Session τ) (request : Request) :
    (s.ask request).2.worker = s.worker ∧ (s.ask request).2.reports = s.reports := by
  obtain ⟨_, _, _, _, _, _, _, made⟩ := ask_frame s request
  rw [made]
  exact ⟨rfl, rfl⟩

@[simp] theorem ask_worker (s : Session τ) (request : Request) :
    (s.ask request).2.worker = s.worker := (ask_kept s request).1

@[simp] theorem ask_reports (s : Session τ) (request : Request) :
    (s.ask request).2.reports = s.reports := (ask_kept s request).2

end Session

end MqttSessions
