import MqttSessions.Proofs.Closing.Announced
import MqttSessions.Proofs.Session.Inbound

/-! # What is announced tells the rest

State, history, counters and the time of the connection are kept in different places and changed by
different parties. Whoever changes one of them announces it, so that all of them can be told from the
announcements alone.

* **`Passes`**: states that follow one another by legal transitions;
* **`Session.Recounted`**: between two moments just these events have been announced, and all that has
  changed is what they tell;
* **`Session.recounted_of_move?`** and **`Closing.recounted_of_acted`**: whatever anybody does is
  recounted, except that a caller clears the history;
* **`Session.Told`**: a session is what its announcements tell. -/

namespace MqttSessions

/-! ## What an announcement tells -/

/-- The state that an announcement is about. -/
def SessionEvent.change? : SessionEvent → Option ConnectionState
  | .stateChanged state => some state
  | _ => none

/-- The published message that an announcement carries. -/
def SessionEvent.sent? : SessionEvent → Option Message
  | .published message => some message
  | _ => none

/-- The messages that an announcement carries, published or received. -/
def SessionEvent.messages : SessionEvent → List Message
  | .published message => [message]
  | .received batch => batch
  | _ => []

/-- A state that another one can be followed by, after some event. -/
def ConnectionState.Leads (state next : ConnectionState) : Prop :=
  ∃ event, state.next? event = some next

/-- Every state but the disconnected one leads to it. -/
theorem ConnectionState.leads_disconnected {state : ConnectionState} (other : state ≠ .disconnected) :
    state.Leads .disconnected := by
  cases state with
  | disconnected => exact absurd rfl other
  | connecting => exact ⟨.connectFailed, rfl⟩
  | connected => exact ⟨.connectionLost, rfl⟩
  | disconnecting => exact ⟨.teardownComplete, rfl⟩

/-- From one state to another through some states, each of which leads to the next. -/
inductive Passes : ConnectionState → List ConnectionState → ConnectionState → Prop
  | done (state : ConnectionState) : Passes state [] state
  | step {first next last : ConnectionState} {states : List ConnectionState}
      (leads : first.Leads next) (rest : Passes next states last) : Passes first (next :: states) last

namespace Passes

variable {first middle last : ConnectionState} {states states' : List ConnectionState}

theorem single {next : ConnectionState} (leads : first.Leads next) : Passes first [next] next :=
  .step leads (.done next)

theorem trans (one : Passes first states middle) (other : Passes middle states' last) :
    Passes first (states ++ states') last := by
  induction one with
  | done => exact other
  | step leads _ ih => exact .step leads (ih other)

/-- Each of the states leads to the next. -/
theorem isChain (passes : Passes first states last) :
    List.IsChain ConnectionState.Leads (first :: states) := by
  induction passes with
  | done => exact .singleton _
  | step leads _ ih => exact .cons_cons leads ih

/-- The last one of the states is the one that is reached. -/
theorem getLast? (passes : Passes first states last) : states.getLast?.getD first = last := by
  induction passes with
  | done => rfl
  | @step first next last states leads rest ih =>
    rw [List.getLast?_cons, Option.getD_some, ih]

end Passes

namespace Session

variable {τ : Type}

/-- The time of the connection is noted just while the session is connected. -/
def Timed (s : Session τ) : Prop := s.connectedAt.isSome = true ↔ s.state = .connected

/-- Between two moments of a session just these events have been announced, and state, history, counters
and the time of the connection have changed as they tell. -/
structure Recounted (events : List SessionEvent) (s s' : Session τ) : Prop where
  feed : s'.feed.toList = s.feed.toList ++ events
  passes : Passes s.state (events.filterMap SessionEvent.change?) s'.state
  history : s'.history = s.history ++ events.flatMap SessionEvent.messages
  published : s'.published = s.published + (events.filterMap SessionEvent.sent?).length
  received : s'.received = s.received + (events.filterMap SessionEvent.batch?).flatten.length
  timed : s.Timed → s'.Timed

namespace Recounted

variable {s s' s'' : Session τ} {events events' : List SessionEvent}

theorem trans (first : Recounted events s s') (second : Recounted events' s' s'') :
    Recounted (events ++ events') s s'' where
  feed := by rw [second.feed, first.feed, List.append_assoc]
  passes := by
    rw [List.filterMap_append]
    exact first.passes.trans second.passes
  history := by rw [second.history, first.history, List.flatMap_append, List.append_assoc]
  published := by
    rw [second.published, first.published, List.filterMap_append, List.length_append, Nat.add_assoc]
  received := by
    rw [second.received, first.received, List.filterMap_append, List.flatten_append,
      List.length_append, Nat.add_assoc]
  timed := second.timed ∘ first.timed

/-- What changes nothing of all this announces nothing. -/
theorem of_same (feed : s'.feed = s.feed) (state : s'.state = s.state)
    (connectedAt : s'.connectedAt = s.connectedAt) (history : s'.history = s.history)
    (published : s'.published = s.published) (received : s'.received = s.received) :
    Recounted [] s s' where
  feed := by rw [feed, List.append_nil]
  passes := state ▸ .done s.state
  history := by rw [history, List.flatMap_nil, List.append_nil]
  published := published
  received := received
  timed timed := by rwa [Timed, connectedAt, state]

theorem refl (s : Session τ) : Recounted [] s s := of_same rfl rfl rfl rfl rfl rfl

theorem enqueue (s : Session τ) (commands : List Command) : Recounted [] s (s.enqueue commands) :=
  of_same rfl rfl rfl rfl rfl rfl

/-- Entering a state that the present one leads to. -/
theorem enter {s : Session τ} {state : ConnectionState} (leads : s.state.Leads state) :
    Recounted [.stateChanged state] s (s.enter state) where
  feed := Feed.toList_push _ _
  passes := .single leads
  history := (List.append_nil _).symm
  published := rfl
  received := rfl
  timed timed := by
    cases state with
    | disconnected | disconnecting => simp [Timed, Session.enter, announce]
    | connected => simp [Timed, Session.enter, announce]
    | connecting =>
      -- only a disconnected session begins to connect, and it has no connection
      obtain ⟨event, legal⟩ := leads
      have idle : s.state = .disconnected := by
        cases state : s.state with
        | disconnected => rfl
        | connecting | connected | disconnecting =>
          rw [state] at legal
          cases event <;> cases legal
      rw [Timed, idle] at timed
      simpa [Timed, Session.enter, announce] using timed

/-- Applying an event. -/
theorem apply (s : Session τ) (event : ConnectionEvent) : ∃ events, Recounted events s (s.apply event) := by
  rw [apply_eq]
  cases legal : s.state.next? event with
  | none => exact ⟨[], .refl s⟩
  | some state => exact ⟨_, .enter ⟨event, legal⟩⟩

theorem forceDisconnected (s : Session τ) : ∃ events, Recounted events s s.forceDisconnected := by
  rw [Session.forceDisconnected]
  split
  · exact ⟨[], .refl s⟩
  · rename_i other
    exact ⟨_, .enter (ConnectionState.leads_disconnected other)⟩

/-- Recording a published message. -/
theorem recordPublished (s : Session τ) (message : Message) :
    Recounted [.published message] s (s.recordPublished message) where
  feed := Feed.toList_push _ _
  passes := .done s.state
  history := rfl
  published := rfl
  received := rfl
  timed := id

/-- **What a caller asks for**, if it is not to forget the history. -/
theorem ask (s : Session τ) {request : Request} (other : request ≠ .clearHistory) :
    ∃ events, Recounted events s (s.ask request).2 := by
  cases request with
  | connect =>
    rcases requestConnect_cases s with ⟨failure, same⟩ | ⟨idle, -, same⟩ | ⟨idle, -, same⟩
    all_goals rw [Session.ask, same]
    · exact ⟨[], .refl s⟩
    · have leads : s.state.Leads .connecting := ⟨.connectRequested, by rw [idle]; rfl⟩
      exact ⟨_, (Recounted.enter leads).trans (.enqueue _ _)⟩
    · have leads : s.state.Leads .connecting := ⟨.connectRequested, by rw [idle]; rfl⟩
      exact ⟨_, (Recounted.enter leads).trans (.enter ⟨.connectFailed, rfl⟩)⟩
  | disconnect =>
    rcases requestDisconnect_cases s with ⟨failure, same⟩ | ⟨opened, ⟨-, same⟩ | ⟨-, same⟩⟩
    all_goals rw [Session.ask, same]
    · exact ⟨[], .refl s⟩
    all_goals
      have leads : s.state.Leads .disconnecting := by
        refine ⟨.disconnectRequested, ?_⟩
        rcases opened with state | state <;> rw [state] <;> rfl
    · exact ⟨_, (Recounted.enter leads).trans (.enqueue _ _)⟩
    · exact ⟨_, (Recounted.enter leads).trans (.enter ⟨.teardownComplete, rfl⟩)⟩
  | subscribe topic qos color =>
    rcases subscribe_cases s topic qos color with ⟨failure, same⟩ | ⟨-, -, -, subscriptions, -, same⟩
    all_goals rw [Session.ask, same]
    · exact ⟨[], .refl s⟩
    · exact ⟨[], .of_same rfl rfl rfl rfl rfl rfl⟩
  | unsubscribe topic =>
    rcases unsubscribe_cases s topic with ⟨failure, same⟩ | ⟨-, -, subscriptions, -, ⟨-, same⟩ | ⟨-, same⟩⟩
    all_goals rw [Session.ask, same]
    · exact ⟨[], .refl s⟩
    · exact ⟨[], .of_same rfl rfl rfl rfl rfl rfl⟩
    · exact ⟨[], .of_same rfl rfl rfl rfl rfl rfl⟩
  | publish topic payload qos retain =>
    rcases publish_cases s topic payload qos retain with ⟨failure, same⟩ | ⟨-, -, -, same⟩
    all_goals rw [Session.ask, same]
    · exact ⟨[], .refl s⟩
    · exact ⟨_, (Recounted.enqueue s _).trans (.recordPublished _ _)⟩
  | setEnabled topic enabled =>
    rw [Session.ask, Session.setEnabled]
    split <;> exact ⟨[], .of_same rfl rfl rfl rfl rfl rfl⟩
  | clearHistory => exact absurd rfl other

/-- **What the dispatcher makes of a report.** -/
theorem dispatch (s : Session τ) (report : Report) : ∃ events, Recounted events s (s.dispatch report) := by
  cases report with
  | connected =>
    simp only [Session.dispatch, transition?]
    cases legal : s.state.next? .connectSucceeded with
    | none => exact ⟨[], .refl s⟩
    | some state =>
      have entered := Recounted.enter (s := s) ⟨_, legal⟩
      simp only [Option.map_some, resubscribe, foldl_send?]
      split
      · exact ⟨_, entered⟩
      · exact ⟨_, entered.trans (.enqueue _ _)⟩
  | connectFailed reason => exact Recounted.apply s _
  | connectionLost reason => exact Recounted.apply s _
  | disconnectComplete => exact Recounted.apply s _
  | subscribeAck success =>
    exact ⟨[.subscriptionAcknowledged success],
      Feed.toList_push _ _, .done s.state, (List.append_nil _).symm, rfl, rfl, id⟩
  | messages batch =>
    refine ⟨[.received batch], Feed.toList_push _ _, .done s.state, ?_, rfl, ?_, id⟩
    · simp [Session.dispatch, announce, SessionEvent.messages]
    · simp [Session.dispatch, announce, SessionEvent.batch?]

theorem handOver (s : Session τ) : Recounted [] s s.handOver := by
  obtain ⟨_, _, same⟩ := handOver_frame s
  rw [same]
  exact .of_same rfl rfl rfl rfl rfl rfl

end Recounted

variable [Transport τ]

/-- **Whatever any party does is recounted**, except that a caller clears the history. -/
theorem recounted_of_move? {s s' : Session τ} {move : Move τ} (made : s.move? move = some s')
    (other : move ≠ .ask .clearHistory) : ∃ events, Recounted events s s' := by
  cases move with
  | ask request =>
    obtain rfl := Option.some.inj made
    exact Recounted.ask s fun clears => other (congrArg Move.ask clears)
  | takeCommand =>
    obtain ⟨-, command, rest, -, rfl⟩ := takeCommand?_eq_some_iff.mp made
    exact ⟨[], .of_same rfl rfl rfl rfl rfl rfl⟩
  | takeEvent =>
    obtain ⟨-, -, event, transport, worker, reports, messages, -, -, rfl⟩ := takeEvent?_inversion made
    exact ⟨[], .of_same rfl rfl rfl rfl rfl rfl⟩
  | dispatch =>
    obtain ⟨report, rest, -, rfl⟩ := dispatch?_eq_some_iff.mp made
    obtain ⟨events, recounted⟩ := Recounted.dispatch { s with reports := rest } report
    have taken : Recounted [] s { s with reports := rest } := .of_same rfl rfl rfl rfl rfl rfl
    exact ⟨_, taken.trans recounted⟩
  | tick =>
    obtain ⟨-, made⟩ := Option.ite_none_right_eq_some.mp made
    obtain rfl := Option.some.inj made
    exact ⟨[], .handOver s⟩
  | finishTicker =>
    obtain ⟨-, made⟩ := Option.ite_none_right_eq_some.mp made
    obtain rfl := Option.some.inj made
    exact ⟨_, (Recounted.handOver s).trans (.of_same rfl rfl rfl rfl rfl rfl)⟩
  | elapse ms =>
    obtain rfl := Option.some.inj made
    exact ⟨[], .of_same rfl rfl rfl rfl rfl rfl⟩
  | drift change =>
    obtain rfl := Option.some.inj made
    exact ⟨[], .of_same rfl rfl rfl rfl rfl rfl⟩

end Session

open Session in
/-- **Whatever anybody does is recounted also while a session is being closed**, the forced end included,
except that a caller clears the history. -/
theorem Closing.recounted_of_acted {τ : Type} [Transport τ] {c c' : Closing τ} {act : Act τ}
    (acted : c.Acted act c') (other : act ≠ .other (.ask .clearHistory)) :
    ∃ events, Recounted events c.session c'.session := by
  cases acted with
  | asked => exact Recounted.ask c.session (by simp)
  | told =>
    obtain ⟨commands, same⟩ := send?_getD c.session .shutdown
    change ∃ events, Recounted events c.session ((c.session.send? .shutdown).getD c.session)
    rw [same]
    exact ⟨[], .enqueue _ _⟩
  | left => exact Recounted.forceDisconnected c.session
  | moved permitted made => exact recounted_of_move? made fun clears => other (congrArg Act.other clears)
  | lateTicked => exact ⟨[], .handOver c.session⟩
  | followed =>
    obtain ⟨_, same⟩ := follow_frame c.session
    change ∃ events, Recounted events c.session c.session.follow
    rw [same]
    exact ⟨[], .of_same rfl rfl rfl rfl rfl rfl⟩
  | _ => exact ⟨[], .of_same rfl rfl rfl rfl rfl rfl⟩

/-! ## What all announcements tell -/

namespace Session

variable {τ : Type}

/-- A session is what its announcements tell: it has come to its state from the disconnected one, its
history is the messages that were announced since it was cleared, after so many announcements, and its
counters are those of all messages. -/
structure Told (s : Session τ) (cleared : Nat) : Prop where
  within : cleared ≤ s.feed.toList.length
  passes : Passes .disconnected (s.feed.toList.filterMap SessionEvent.change?) s.state
  history : s.history = (s.feed.toList.drop cleared).flatMap SessionEvent.messages
  published : s.published = (s.feed.toList.filterMap SessionEvent.sent?).length
  received : s.received = (s.feed.toList.filterMap SessionEvent.batch?).flatten.length
  timed : s.Timed

theorem told_create (profile : Profile) (transport : τ) (settings : SessionSettings) :
    (create profile transport settings).Told 0 where
  within := Nat.zero_le _
  passes := .done _
  history := rfl
  published := rfl
  received := rfl
  timed := iff_of_false (by simp [create]) (by simp [create])

/-- What is recounted is told from then on. -/
theorem Told.recounted {s s' : Session τ} {cleared : Nat} {events : List SessionEvent}
    (told : s.Told cleared) (recounted : Recounted events s s') : s'.Told cleared where
  within := by
    rw [recounted.feed, List.length_append]
    exact Nat.le_add_right_of_le told.within
  passes := by
    rw [recounted.feed, List.filterMap_append]
    exact told.passes.trans recounted.passes
  history := by
    rw [recounted.history, told.history, recounted.feed, List.drop_append_of_le_length told.within,
      List.flatMap_append]
  published := by
    rw [recounted.published, told.published, recounted.feed, List.filterMap_append, List.length_append]
  received := by
    rw [recounted.received, told.received, recounted.feed, List.filterMap_append,
      List.flatten_append, List.length_append]
  timed := recounted.timed told.timed

/-- When the history is cleared, what is announced tells it anew, and all else as before. -/
theorem Told.clear {s : Session τ} {cleared : Nat} (told : s.Told cleared) :
    s.clearHistory.Told s.feed.position where
  within := Nat.le_of_eq (Feed.length_toList s.feed).symm
  passes := told.passes
  history := by
    rw [← Feed.length_toList]
    exact (congrArg (List.flatMap SessionEvent.messages) List.drop_length).symm
  published := told.published
  received := told.received
  timed := told.timed

end Session

end MqttSessions
