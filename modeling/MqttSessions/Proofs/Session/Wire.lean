import MqttSessions.Proofs.Session.Agreement
import MqttSessions.Proofs.Session.Noted

/-! # What the broker is told about subscriptions

A session keeps its subscriptions itself and tells the broker about them through its worker. To see
what the broker is told, runs are taken over a transport that notes its calls, and the calls are
replayed as the broker would (**`replay`**): a connection starts with no subscription.

* **`Session.Proper`**: no filter is subscribed to twice, and whatever is asked of the transport has
  a valid filter or name;
* **`Session.Synced`**: what the transport has been told on the current connection and what is
  queued for it amount to the subscriptions of the session;
* **`Session.replayed_subscriptions`**: so they agree whenever the queue is empty. -/

namespace MqttSessions

/-! ## Calls -/

/-- What a broker makes of a call: what a client is subscribed to on its connection. -/
def Call.told (held : List (String × Qos)) : Call → List (String × Qos)
  | .connect _ => []
  | .subscribe topic qos => held ++ [(topic, qos)]
  | .unsubscribe topic => held.filter (·.1 != topic)
  | .disconnect => held
  | .publish .. => held

/-- What a client is subscribed to after some calls. Only those since the last connection matter. -/
def replay (calls : List Call) : List (String × Qos) := calls.foldl Call.told []

theorem replay_concat (calls : List Call) (call : Call) :
    replay (calls ++ [call]) = call.told (replay calls) := by
  rw [replay, List.foldl_append]
  rfl

/-- What was called before the last connection does not matter. -/
theorem replay_append_connect (before after : List Call) (profile : Profile) :
    replay (before ++ .connect profile :: after) = replay after := by
  rw [replay, List.foldl_append]
  rfl

/-- Whether a call names a valid topic, if it names one. -/
def Call.Valid : Call → Prop
  | .subscribe topic _ => Topic.checkFilter topic = .ok ()
  | .unsubscribe topic => Topic.checkFilter topic = .ok ()
  | .publish topic .. => Topic.checkName topic = .ok ()
  | .connect _ => True
  | .disconnect => True

/-- The call that a command leads to. -/
def Command.call : Command → Call
  | .connect profile => .connect profile
  | .disconnect => .disconnect
  | .subscribe topic qos => .subscribe topic qos
  | .unsubscribe topic => .unsubscribe topic
  | .publish topic payload qos retain => .publish topic payload qos retain
  | .shutdown => .disconnect

/-- Whether a command leads to its call, over a link as it stands. -/
def Command.isHeard (link : Link) : Command → Bool
  | .connect _ => link == .idle
  | .disconnect => link != .idle
  | .shutdown => link != .idle
  | _ => link == .up

/-- Over a link that is up, everything but a connection is heard. -/
theorem Command.isHeard_up {command : Command} (other : command.event? = none) :
    command.isHeard .up = true := by
  cases command <;> first | rfl | cases other

namespace Worker

variable {τ : Type} [Transport τ]

theorem call_transport (worker : Worker τ) (c : Call) :
    (worker.call c).2.transport = (Transport.perform c worker.transport).2 := rfl

/-- Sending something is its call, if the link is up. -/
theorem send_transport (worker : Worker τ) (c : Call) :
    (worker.send c).transport =
      if worker.link == .up then (Transport.perform c worker.transport).2 else worker.transport := by
  unfold send
  by_cases up : worker.link = .up <;> simp [up, call_transport]

/-- A teardown is a call, if there is a link. -/
theorem teardown_transport (worker : Worker τ) :
    worker.teardown.transport =
      if worker.link != .idle then (Transport.perform .disconnect worker.transport).2
      else worker.transport := by
  have called := call_transport worker .disconnect
  unfold teardown
  by_cases idle : worker.link = .idle
  · simp [idle]
  · rw [if_neg idle, if_pos (by simpa using idle), ← called]
    -- whatever the answer
    cases worker.call .disconnect with
    | mk answer worker => cases answer <;> rfl

/-- **What a worker asks of its transport about a command**: its call, if the command is heard. -/
theorem take_transport (worker : Worker τ) (command : Command) :
    (worker.take command).1.transport =
      if command.isHeard worker.link then (Transport.perform command.call worker.transport).2
      else worker.transport := by
  cases command with
  | connect profile =>
    have called := call_transport worker (.connect profile)
    rw [take, connect]
    by_cases idle : worker.link = .idle
    · have heard : (Command.connect profile).isHeard worker.link = true := by rw [idle]; rfl
      rw [if_pos idle, if_pos heard, Command.call, ← called]
      cases worker.call (.connect profile) with
      | mk answer worker => cases answer <;> rfl
    · have unheard : ¬(Command.connect profile).isHeard worker.link = true := by
        simpa [Command.isHeard] using idle
      rw [if_neg idle, if_neg unheard]
  | disconnect => exact teardown_transport worker
  | subscribe topic qos => exact send_transport worker _
  | unsubscribe topic => exact send_transport worker _
  | publish topic payload qos retain => exact send_transport worker _
  | shutdown =>
    simp only [take]
    split <;> exact teardown_transport worker

/-- A transport that notes its calls notes the one that a worker makes about a command, if it is heard. -/
theorem take_calls (worker : Worker (Noted τ)) (command : Command) :
    (worker.take command).1.transport.calls =
      worker.transport.calls ++ if command.isHeard worker.link then [command.call] else [] := by
  rw [take_transport]
  split
  · rfl
  · exact (List.append_nil _).symm

end Worker

namespace Session

variable {τ : Type}

/-! ## Whatever is asked of the transport is valid -/

/-- No filter is subscribed to twice, and the topics of a session's subscriptions, of what is queued
for its transport and of what its transport has been asked are valid. -/
structure Proper (s : Session (Noted τ)) : Prop where
  distinct : s.subscriptions.Distinct
  filters : ∀ entry ∈ s.subscriptions.toList, Topic.checkFilter entry.topic = .ok ()
  commands : ∀ command ∈ s.commands, command.call.Valid
  calls : ∀ call ∈ s.worker.transport.calls, call.Valid

theorem create_proper (profile : Profile) (transport : τ) (settings : SessionSettings) :
    (create profile (Noted.of transport) settings).Proper where
  distinct := Subscriptions.distinct_empty
  filters _ mem := absurd mem List.not_mem_nil
  commands _ mem := absurd mem List.not_mem_nil
  calls _ mem := absurd mem List.not_mem_nil

/-- Queuing a valid command keeps a session proper. -/
theorem Proper.enqueue {s : Session (Noted τ)} (proper : s.Proper) {command : Command}
    (valid : command.call.Valid) : (s.enqueue [command]).Proper where
  distinct := proper.distinct
  filters := proper.filters
  commands other mem := by
    rcases List.mem_append.mp mem with old | new
    · exact proper.commands other old
    · rw [List.mem_singleton.mp new]
      exact valid
  calls := proper.calls

/-- Entering a state keeps a session proper. -/
theorem Proper.enter {s : Session (Noted τ)} (proper : s.Proper) (state : ConnectionState) :
    (s.enter state).Proper :=
  ⟨proper.distinct, proper.filters, proper.commands, proper.calls⟩

/-- Recording a subscription to a valid filter keeps a session proper. -/
theorem Proper.added {s : Session (Noted τ)} (proper : s.Proper) {topic : String} {qos : Qos}
    {color : String} {subscriptions : Subscriptions} (valid : Topic.checkFilter topic = .ok ())
    (adds : s.subscriptions.add? topic qos color = some subscriptions) :
    Proper { s with subscriptions } where
  distinct := proper.distinct.add? adds
  filters entry mem := by
    obtain ⟨-, rfl⟩ := Subscriptions.add?_eq_some_iff.mp adds
    rcases List.mem_append.mp mem with old | new
    · exact proper.filters entry old
    · rw [List.mem_singleton.mp new]
      exact valid
  commands := proper.commands
  calls := proper.calls

/-- Removing a subscription keeps a session proper. -/
theorem Proper.removed {s : Session (Noted τ)} (proper : s.Proper) {topic : String}
    {subscriptions : Subscriptions} (removes : s.subscriptions.remove? topic = some subscriptions) :
    Proper { s with subscriptions } where
  distinct := proper.distinct.remove? removes
  filters entry mem := by
    have left := Subscriptions.entries_of_remove? proper.distinct removes
    exact proper.filters entry (List.mem_of_mem_filter (left ▸ mem))
  commands := proper.commands
  calls := proper.calls

/-- Setting a flag keeps a session proper. -/
theorem Proper.flagged {s : Session (Noted τ)} (proper : s.Proper) {topic : String} {enabled : Bool}
    {subscriptions : Subscriptions}
    (sets : s.subscriptions.setEnabled? topic enabled = some subscriptions) :
    Proper { s with subscriptions } where
  distinct := proper.distinct.setEnabled? sets
  filters entry mem := by
    have topics := Subscriptions.map_of_setEnabled? (·.topic) (fun _ _ => rfl) sets
    have known : entry.topic ∈ s.subscriptions.toList.map (·.topic) :=
      topics ▸ List.mem_map_of_mem mem
    obtain ⟨old, inOld, same⟩ := List.mem_map.mp known
    rw [← same]
    exact proper.filters old inOld
  commands := proper.commands
  calls := proper.calls

/-- Every caller's request keeps a session proper. -/
theorem Proper.ask {s : Session (Noted τ)} (proper : s.Proper) (request : Request) :
    (s.ask request).2.Proper := by
  cases request with
  | connect =>
    rcases requestConnect_cases s with ⟨failure, made⟩ | ⟨-, -, made⟩ | ⟨-, -, made⟩ <;>
      rw [Session.ask, made]
    · exact proper
    · exact (proper.enter _).enqueue trivial
    · exact (proper.enter _).enter _
  | disconnect =>
    rcases requestDisconnect_cases s with ⟨failure, made⟩ | ⟨-, ⟨-, made⟩ | ⟨-, made⟩⟩ <;>
      rw [Session.ask, made]
    · exact proper
    · exact (proper.enter _).enqueue trivial
    · exact (proper.enter _).enter _
  | subscribe topic qos color =>
    rcases subscribe_cases s topic qos color with
      ⟨failure, made⟩ | ⟨valid, -, -, added, adds, made⟩ <;>
      rw [Session.ask, made]
    · exact proper
    · exact (proper.added valid adds).enqueue valid
  | unsubscribe topic =>
    rcases unsubscribe_cases s topic with
      ⟨failure, made⟩ | ⟨valid, -, left, removes, ⟨-, made⟩ | ⟨-, made⟩⟩ <;> rw [Session.ask, made]
    · exact proper
    · exact (proper.removed removes).enqueue valid
    · exact proper.removed removes
  | publish topic payload qos retain =>
    rcases publish_cases s topic payload qos retain with ⟨failure, made⟩ | ⟨valid, -, -, made⟩ <;>
      rw [Session.ask, made]
    · exact proper
    · have queued : (s.enqueue [.publish topic payload qos retain]).Proper := proper.enqueue valid
      exact ⟨queued.distinct, queued.filters, queued.commands, queued.calls⟩
  | setEnabled topic enabled =>
    simp only [Session.ask, setEnabled]
    split
    · rename_i flagged sets
      exact proper.flagged sets
    · exact proper
  | clearHistory => exact ⟨proper.distinct, proper.filters, proper.commands, proper.calls⟩

/-- The dispatcher keeps a session proper: it asks for subscriptions that are there. -/
theorem Proper.dispatch? {s s' : Session (Noted τ)} (proper : s.Proper)
    (made : s.dispatch? = some s') : s'.Proper := by
  obtain ⟨report, -, worker, subscriptions, commands, -⟩ := dispatch?_eq_some made
  refine ⟨?_, ?_, ?_, ?_⟩
  · rw [subscriptions]
    exact proper.distinct
  · rw [subscriptions]
    exact proper.filters
  · -- what is queued anew are subscriptions with a valid filter
    rw [commands]
    intro command mem
    rcases List.mem_append.mp mem with old | new
    · exact proper.commands command old
    · obtain ⟨entry, inList, rfl⟩ := mem_restored new
      exact proper.filters entry inList
  · rw [worker]
    exact proper.calls

variable [Transport τ]

/-- The worker keeps a session proper: it asks its transport for what is queued. -/
theorem Proper.takeCommand? {s s' : Session (Noted τ)} (proper : s.Proper)
    (made : s.takeCommand? = some s') : s'.Proper := by
  obtain ⟨-, command, rest, commands, rfl⟩ := takeCommand?_eq_some_iff.mp made
  have queued := proper.commands
  rw [commands] at queued
  refine ⟨proper.distinct, proper.filters, ?_, ?_⟩
  · -- the commands that are left, if any are
    intro other mem
    simp only [settleWorker] at mem
    split at mem
    · exact absurd mem List.not_mem_nil
    · exact queued other (List.mem_cons_of_mem _ mem)
  · -- the call of the command comes last, if it is made
    intro call mem
    simp only [settleWorker, Worker.take_calls] at mem
    rcases List.mem_append.mp mem with old | new
    · exact proper.calls call old
    · split at new
      · rw [List.mem_singleton.mp new]
        exact queued command List.mem_cons_self
      · exact absurd new List.not_mem_nil

/-- The worker keeps a session proper when it takes an event. -/
theorem Proper.takeEvent? {s s' : Session (Noted τ)} (proper : s.Proper)
    (made : s.takeEvent? = some s') : s'.Proper := by
  obtain ⟨-, -, -, -, commands, subscriptions, ⟨_, polled⟩, -⟩ := takeEvent?_eq_some made
  refine ⟨?_, ?_, ?_, ?_⟩
  · rw [subscriptions]
    exact proper.distinct
  · rw [subscriptions]
    exact proper.filters
  · rw [commands]
    exact proper.commands
  · rw [Noted.poll_calls polled]
    exact proper.calls

/-- What goes on in the background is no call. -/
theorem calls_of_background {s s' : Session (Noted τ)} {move : Move τ}
    (background : move.noted.isBackground = true) (made : s.move? move.noted = some s') :
    s'.worker.transport.calls = s.worker.transport.calls := by
  cases move with
  | ask | takeCommand | takeEvent | dispatch => cases background
  | tick =>
    simp only [Move.noted, move?, tick?, Option.ite_none_right_eq_some] at made
    obtain rfl := Option.some.inj made.2
    rw [handOver_worker]
  | finishTicker =>
    simp only [Move.noted, move?, finishTicker?, Option.ite_none_right_eq_some] at made
    obtain rfl := Option.some.inj made.2
    exact congrArg (·.transport.calls) (handOver_worker s)
  | elapse ms =>
    obtain rfl := Option.some.inj made
    rfl
  | drift change =>
    obtain rfl := Option.some.inj made
    rfl

/-- What goes on in the background keeps a session proper. -/
theorem Proper.background {s s' : Session (Noted τ)} (proper : s.Proper) {move : Move τ}
    (background : move.noted.isBackground = true) (made : s.move? move.noted = some s') :
    s'.Proper := by
  have same := undisturbed_of_move? background made
  refine ⟨?_, ?_, ?_, ?_⟩
  · rw [same.subscriptions]
    exact proper.distinct
  · rw [same.subscriptions]
    exact proper.filters
  · rw [same.commands]
    exact proper.commands
  · rw [calls_of_background background made]
    exact proper.calls

/-- **Every move keeps a session proper.** -/
theorem proper_of_move? {s s' : Session (Noted τ)} {move : Move τ} (proper : s.Proper)
    (made : s.move? move.noted = some s') : s'.Proper := by
  cases move with
  | ask request =>
    obtain rfl := Option.some.inj made
    exact proper.ask request
  | takeCommand => exact proper.takeCommand? made
  | takeEvent => exact proper.takeEvent? made
  | dispatch => exact proper.dispatch? made
  | tick | finishTicker | elapse | drift => exact proper.background rfl made

/-! ## The broker is told what there is -/

/-- What the transport has been told on the current connection, and what is queued for it, amount to
the subscriptions of the session. -/
structure Synced (s : Session (Noted τ)) : Prop where
  /-- While connecting, nothing is queued behind the request to connect. -/
  last : s.state = .connecting → ∀ command ∈ s.commands.dropLast, command.event? ≠ some .connectRequested
  /-- While an attempt is under way or has just succeeded, nothing is queued or has been told. -/
  blank : s.state = .connecting → s.worker.link ≠ .idle →
    s.commands = [] ∧ replay s.worker.transport.calls = []
  /-- Over a connection, the calls made and the commands queued amount to the subscriptions. -/
  told : s.state = .connected → s.worker.link = .up →
    replay (s.worker.transport.calls ++ s.commands.map Command.call) = s.subscriptions.wanted

omit [Transport τ] in
theorem create_synced (profile : Profile) (transport : τ) (settings : SessionSettings) :
    (create profile (Noted.of transport) settings).Synced where
  last _ _ mem := absurd mem List.not_mem_nil
  blank _ active := absurd rfl active
  told connected := by cases connected

omit [Transport τ] in
/-- Whatever changes neither state, link, commands, calls nor subscriptions keeps them in accord. -/
theorem Synced.congr {s s' : Session (Noted τ)} (synced : s.Synced) (state : s'.state = s.state)
    (link : s'.worker.link = s.worker.link) (commands : s'.commands = s.commands)
    (calls : s'.worker.transport.calls = s.worker.transport.calls)
    (subscriptions : s'.subscriptions.wanted = s.subscriptions.wanted) : s'.Synced := by
  refine ⟨?_, ?_, ?_⟩
  · rw [state, commands]
    exact synced.last
  · rw [state, link, commands, calls]
    exact synced.blank
  · rw [state, link, commands, calls, subscriptions]
    exact synced.told

omit [Transport τ] in
/-- Over a connection, a command is queued that amounts to what is recorded. -/
theorem Synced.queued {s : Session (Noted τ)} (synced : s.Synced) (connected : s.state = .connected)
    {subscriptions : Subscriptions} {command : Command}
    (same : command.call.told s.subscriptions.wanted = subscriptions.wanted) :
    (enqueue { s with subscriptions } [command]).Synced where
  last connecting := absurd (connecting.symm.trans connected) (by simp)
  blank connecting := absurd (connecting.symm.trans connected) (by simp)
  told _ up := by
    have before := synced.told connected up
    rw [enqueue_commands, List.map_append, ← List.append_assoc, List.map_singleton, replay_concat]
    exact (congrArg command.call.told before).trans same

omit [Transport τ] in
/-- Subscribing to some filters, one after the other, adds them in their order. -/
theorem foldl_told_subscriptions (held : List (String × Qos)) (entries : List Subscription) :
    ((entries.map fun entry => Command.subscribe entry.topic entry.qos).map Command.call).foldl
      Call.told held = held ++ entries.map fun entry => (entry.topic, entry.qos) := by
  induction entries generalizing held with
  | nil => simp
  | cons entry rest ih =>
      rw [List.map_cons, List.map_cons, List.foldl_cons, ih]
      simp [Command.call, Call.told]

omit [Transport τ] in
/-- Restoring the subscriptions on a new connection tells all of them. -/
theorem replay_resubscriptions {calls : List Call} (blank : replay calls = [])
    (subscriptions : Subscriptions) :
    replay (calls ++ (resubscriptions subscriptions).map Command.call) = subscriptions.wanted := by
  rw [replay, List.foldl_append, show calls.foldl Call.told [] = [] from blank]
  exact foldl_told_subscriptions [] subscriptions.toList

omit [Transport τ] in
/-- While disconnecting or disconnected nothing needs to be in accord. -/
theorem Synced.of_state {s : Session (Noted τ)}
    (state : s.state = .disconnecting ∨ s.state = .disconnected) : s.Synced := by
  constructor
  · intro connecting
    simp [connecting] at state
  · intro connecting
    simp [connecting] at state
  · intro connected
    simp [connected] at state

omit [Transport τ] in
/-- A request to connect comes behind everything that is queued. -/
theorem Fits.synced_connect {s : Session (Noted τ)} (fits : s.Fits)
    (disconnected : s.state = .disconnected) (profile : Profile) :
    ((s.enter .connecting).enqueue [.connect profile]).Synced := by
  have stage := fits.stage
  rw [disconnected] at stage
  obtain ⟨idle, requests, -⟩ := stage.of_disconnected
  constructor
  · -- no other request to connect is queued
    intro _ command mem
    rw [enqueue_commands, List.dropLast_concat] at mem
    rw [List.filterMap_eq_nil_iff.mp requests command mem]
    simp
  · intro _ active
    exact absurd idle active
  · intro connected
    cases connected

omit [Transport τ] in
/-- Every caller's request keeps the transport in accord with the subscriptions. -/
theorem Synced.ask {s : Session (Noted τ)} (synced : s.Synced) (fits : s.Fits)
    (distinct : s.subscriptions.Distinct) (waiting : s.worker.footing = .waiting)
    (request : Request) : (s.ask request).2.Synced := by
  cases request with
  | connect =>
    rcases requestConnect_cases s with ⟨failure, made⟩ | ⟨state, -, made⟩ | ⟨-, stopped, -⟩
    · rw [Session.ask, made]
      exact synced
    · rw [Session.ask, made]
      exact fits.synced_connect state s.profile
    · exact absurd (waiting.symm.trans stopped) (by simp)
  | disconnect =>
    rcases requestDisconnect_cases s with ⟨failure, made⟩ | ⟨-, ⟨-, made⟩ | ⟨-, made⟩⟩ <;>
      rw [Session.ask, made]
    · exact synced
    · exact .of_state (.inl rfl)
    · exact .of_state (.inr rfl)
  | subscribe topic qos color =>
    rcases subscribe_cases s topic qos color with
      ⟨failure, made⟩ | ⟨-, connected, -, added, adds, made⟩ <;> rw [Session.ask, made]
    · exact synced
    · refine synced.queued connected ?_
      obtain ⟨-, rfl⟩ := Subscriptions.add?_eq_some_iff.mp adds
      simp [Command.call, Call.told, Subscriptions.wanted, Subscriptions.toList]
  | unsubscribe topic =>
    rcases unsubscribe_cases s topic with
      ⟨failure, made⟩ | ⟨-, connected, left, removes, ⟨-, made⟩ | ⟨stopped, -⟩⟩
    · rw [Session.ask, made]
      exact synced
    · rw [Session.ask, made]
      refine synced.queued connected ?_
      simp only [Command.call, Call.told, Subscriptions.wanted,
        Subscriptions.entries_of_remove? distinct removes, List.filter_map]
      rfl
    · exact absurd (waiting.symm.trans stopped) (by simp)
  | publish topic payload qos retain =>
    rcases publish_cases s topic payload qos retain with
      ⟨failure, made⟩ | ⟨-, connected, -, made⟩ <;>
      rw [Session.ask, made]
    · exact synced
    · have queued : (s.enqueue [.publish topic payload qos retain]).Synced :=
        synced.queued connected rfl
      exact queued.congr rfl rfl rfl rfl rfl
  | setEnabled topic enabled =>
    simp only [Session.ask, setEnabled]
    split
    · rename_i flagged sets
      exact synced.congr rfl rfl rfl rfl (Subscriptions.wanted_of_setEnabled? sets)
    · exact synced
  | clearHistory => exact synced.congr rfl rfl rfl rfl rfl

/-- The worker keeps its transport in accord with the subscriptions when it takes a command. -/
theorem Synced.takeCommand? {s s' : Session (Noted τ)} (synced : s.Synced) (fits : s.Fits)
    (made : s.takeCommand? = some s') (waiting : s'.worker.footing = .waiting) : s'.Synced := by
  obtain ⟨command, commands, state, subscriptions, worker, -, served⟩ :=
    takeCommand?_waiting made waiting
  have calls := Worker.take_calls s.worker command
  rw [← worker] at calls
  have stage := fits.stage
  rw [commands] at stage
  refine ⟨?_, ?_, ?_⟩
  · -- what was last still is, unless it has been taken
    rw [state]
    intro connecting other mem
    have last := synced.last connecting other
    rw [commands] at last
    cases rest : s'.commands with
    | nil => simp [rest] at mem
    | cons next more =>
      rw [rest, List.dropLast_cons_cons] at last
      exact last (List.mem_cons_of_mem _ (rest ▸ mem))
  · -- an attempt has just been started
    rw [state]
    intro connecting active
    -- over a link nothing is queued, so the command was taken without one
    have idle : s.worker.link = .idle := by
      by_contra link
      have empty := (synced.blank connecting link).1
      rw [commands] at empty
      contradiction
    rw [idle] at served calls
    generalize s'.worker.link = link at served active
    generalize (s.worker.take command).2 = reports at served
    cases served with
    | dialed profile =>
      refine ⟨?_, by rw [calls]; exact replay_concat _ _⟩
      have last := synced.last connecting (.connect profile)
      rw [commands] at last
      cases rest : s'.commands with
      | nil => rfl
      | cons next more =>
        rw [rest, List.dropLast_cons_cons] at last
        exact absurd rfl (last List.mem_cons_self)
    | ignored => contradiction
    | refused | released | passed => contradiction
  · -- over a connection, what was queued is now told
    rw [state, subscriptions]
    intro connected up
    have before := synced.told connected
    rw [commands, List.map_cons] at before
    generalize s.worker.link = origin at served before calls stage
    rw [up] at served
    generalize (s.worker.take command).2 = reports at served
    cases served with
    | ignored profile active => exact absurd stage.idle_of_connect active
    | passed _ other =>
      rw [if_pos (Command.isHeard_up other)] at calls
      rw [calls, List.append_assoc]
      exact before rfl

/-- The worker keeps its transport in accord with the subscriptions when it takes an event. -/
theorem Synced.takeEvent? {s s' : Session (Noted τ)} (synced : s.Synced) (fits : s.Fits)
    (made : s.takeEvent? = some s') : s'.Synced := by
  obtain ⟨-, -, active, state, commands, subscriptions, ⟨_, polled⟩, added, -, heeded⟩ :=
    takeEvent?_eq_some made
  have calls := Noted.poll_calls polled
  refine ⟨?_, ?_, ?_⟩
  · rw [state, commands]
    exact synced.last
  · rw [state, commands, calls]
    exact fun connecting _ => synced.blank connecting active
  · rw [state, commands, calls, subscriptions]
    intro connected up
    have stage := fits.stage
    refine synced.told connected ?_
    generalize s.worker.link = origin at heeded stage ⊢
    rw [up] at heeded
    cases heeded with
    | acknowledged =>
      -- an attempt is only under way while connecting
      rw [connected] at stage
      cases stage
    | passed => rfl

omit [Transport τ] in
/-- The dispatcher keeps the transport in accord with the subscriptions: once a connection is
acknowledged, all of them are queued. -/
theorem Synced.dispatch? {s s' : Session (Noted τ)} (synced : s.Synced)
    (waiting : s.worker.footing = .waiting) (made : s.dispatch? = some s') : s'.Synced := by
  obtain ⟨report, -, worker, subscriptions, commands, state⟩ := dispatch?_eq_some made
  by_cases reached : s.state = .connecting ∧ report = .connected
  · -- acknowledged in time: nothing was queued or told until now
    obtain ⟨connecting, rfl⟩ := reached
    have entered : s'.state = .connected := by
      rw [state, connecting]
      rfl
    have queued : s.restored .connected = resubscriptions s.subscriptions :=
      if_pos ⟨connecting, by simp [waiting]⟩
    constructor
    · intro again
      simp [entered] at again
    · intro again
      simp [entered] at again
    · intro _ up
      rw [worker] at up ⊢
      obtain ⟨empty, blank⟩ := synced.blank connecting (by simp [up])
      rw [commands, queued, empty, subscriptions, List.nil_append]
      exact replay_resubscriptions blank s.subscriptions
  · obtain ⟨quiet, still⟩ := dispatched_elsewise reached
    rw [quiet, List.append_nil] at commands
    rw [← state] at still
    rcases still with same | disconnected
    · exact synced.congr same (by rw [worker]) commands (by rw [worker]) (by rw [subscriptions])
    · exact .of_state (.inr disconnected)

/-- What goes on in the background keeps the transport in accord with the subscriptions. -/
theorem Synced.background {s s' : Session (Noted τ)} (synced : s.Synced) {move : Move τ}
    (background : move.noted.isBackground = true) (made : s.move? move.noted = some s') :
    s'.Synced := by
  have same := undisturbed_of_move? background made
  exact synced.congr same.state same.link same.commands (calls_of_background background made)
    (by rw [same.subscriptions])

/-- **Every move keeps the transport in accord with the subscriptions**, as long as the worker
waits. -/
theorem synced_of_move? {s s' : Session (Noted τ)} {move : Move τ} (synced : s.Synced) (fits : s.Fits)
    (distinct : s.subscriptions.Distinct) (made : s.move? move.noted = some s')
    (waiting : s'.worker.footing = .waiting) : s'.Synced := by
  have before := waiting_of_move? made waiting
  cases move with
  | ask request =>
    obtain rfl := Option.some.inj made
    exact synced.ask fits distinct before request
  | takeCommand => exact synced.takeCommand? fits made waiting
  | takeEvent => exact synced.takeEvent? fits made
  | dispatch => exact synced.dispatch? before made
  | tick | finishTicker | elapse | drift => exact synced.background rfl made

/-! ## Runs -/

/-- What every run over a transport that notes its calls keeps. -/
structure Accorded (s : Session (Noted τ)) : Prop where
  proper : s.Proper
  fits : s.worker.footing = .waiting → s.Fits
  synced : s.worker.footing = .waiting → s.Synced

/-- Every run from a new session keeps the transport in accord with the subscriptions. -/
theorem accorded_of_run? {profile : Profile} {transport : τ} {settings : SessionSettings}
    {moves : List (Move τ)} {s : Session (Noted τ)}
    (run : (create profile (Noted.of transport) settings).run? (moves.map Move.noted) = some s) :
    s.Accorded := by
  refine run?_induct Accorded (fun move => ∃ inner : Move τ, inner.noted = move) ?_ ?_ ?_ run
  · rintro s s' _ ⟨move, rfl⟩ ⟨proper, fits, synced⟩ made
    constructor
    · exact proper_of_move? proper made
    · intro waiting
      have before := waiting_of_move? made waiting
      exact fits_of_move? (fits before) made waiting
    · intro waiting
      have before := waiting_of_move? made waiting
      exact synced_of_move? (synced before) (fits before) proper.distinct made waiting
  · intro move mem
    obtain ⟨inner, -, same⟩ := List.mem_map.mp mem
    exact ⟨inner, same⟩
  · exact ⟨create_proper _ _ _, fun _ => create_fits _ _ _, fun _ => create_synced _ _ _⟩

/-- **The broker has been told what there is.** In every run from a new session, over any transport:
whenever the session is connected, its link is up, its worker waits and no command is queued, the
calls made since the last connection amount to the session's subscriptions, in their order and each
filter once. And all filters and names that the transport was ever asked for are valid. -/
theorem replayed_subscriptions {profile : Profile} {transport : τ} {settings : SessionSettings}
    {moves : List (Move τ)} {s : Session τ}
    (run : (create profile transport settings).run? moves = some s) :
    (s.state = .connected → s.worker.link = .up → s.worker.footing = .waiting → s.commands = [] →
      replay ((create profile transport settings).callsIn moves) = s.subscriptions.wanted ∧
        (s.subscriptions.wanted.map Prod.fst).Nodup) ∧
      ∀ call ∈ (create profile transport settings).callsIn moves, call.Valid := by
  obtain ⟨t, ran, rfl, calls⟩ := noted_of_run? run
  obtain ⟨proper, -, synced⟩ := accorded_of_run? ran
  rw [calls]
  refine ⟨fun connected up waiting commands => ?_, proper.calls⟩
  have told := (synced waiting).told connected up
  rw [show t.commands = [] from commands, List.map_nil, List.append_nil] at told
  have topics : t.subscriptions.wanted.map Prod.fst = t.subscriptions.toList.map (·.topic) := by
    simp [Subscriptions.wanted]
  refine ⟨told, ?_⟩
  rw [show t.unnoted.subscriptions = t.subscriptions from rfl, topics]
  exact proper.distinct

/-- One of two subscriptions is removed, the connection is lost, and the other one is restored on the
next connection. -/
def restoredSubscription : List (Move Rehearsal) :=
  [.ask .connect, .takeCommand, .takeEvent, .dispatch,
    .ask (.subscribe "a/b" .atMostOnce "red"), .ask (.subscribe "c" .atLeastOnce "blue"),
    .takeCommand, .takeCommand, .ask (.unsubscribe "a/b"), .takeCommand,
    .drift fun r => { r with events := [.disconnected "gone"] }, .takeEvent, .dispatch,
    .ask .connect, .takeCommand, .takeEvent, .dispatch, .takeCommand]

/-- The broker has been told of the subscription that is left. -/
theorem replayed_subscriptions_restored :
    ∃ s, (rehearsed {}).run? restoredSubscription = some s ∧
      s.state = .connected ∧ s.worker.link = .up ∧ s.worker.footing = .waiting ∧ s.commands = [] ∧
      s.subscriptions.wanted = [("c", .atLeastOnce)] ∧
      replay ((rehearsed {}).callsIn restoredSubscription) = s.subscriptions.wanted := by
  obtain ⟨s, run, connected, up, waiting, commands, wanted⟩ :
      ∃ s, (rehearsed {}).run? restoredSubscription = some s ∧
        s.state = .connected ∧ s.worker.link = .up ∧ s.worker.footing = .waiting ∧
        s.commands = [] ∧ s.subscriptions.wanted = [("c", .atLeastOnce)] :=
    ⟨_, rfl, rfl, rfl, rfl, rfl, rfl⟩
  obtain ⟨told, -⟩ := (replayed_subscriptions run).1 connected up waiting commands
  exact ⟨s, run, connected, up, waiting, commands, wanted, told⟩

end Session

end MqttSessions
