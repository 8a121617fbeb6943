import MqttSessions.Proofs.Closing.Recounted

/-! # What an observer can tell of a session

A caller that publishes queues its message and then waits for the history before it records it, and the
dispatcher waits between taking a report and applying it. In between anybody else may act. Here the steps
of callers and dispatcher are what they do without waiting, and an observer reads the announcements from
the first one on.

* **`Staggered.step?`** and **`Staggered.run?`**: one step of somebody, and steps one after the other;
* **`Staggered.run?_queue_record`** and **`Staggered.run?_take_apply`**: whoever is not held up does in
  its steps what it does in one;
* **`Staggered.determined`**: an observer that has missed nothing can tell the state of a session, its
  history, its counters and whether it has a connection. -/

namespace MqttSessions

open Session

namespace Session

variable {τ : Type}

/-- The first part of publishing a message: its command is queued, if it can be. -/
def queuePublish? (s : Session τ) (message : Message) : Option (Session τ) :=
  match Topic.checkName message.topic with
  | .error _ => none
  | .ok () =>
    if s.state.acceptsCommands then
      s.send? (.publish message.topic message.payload message.qos message.retain)
    else none

/-- Publishing is queuing the message and recording it. -/
theorem ask_publish (s : Session τ) (topic : String) (payload : List UInt8) (qos : Qos) (retain : Bool) :
    (s.ask (.publish topic payload qos retain)).2 =
      ((s.queuePublish? ⟨topic, payload, qos, retain, .published⟩).map
        (·.recordPublished ⟨topic, payload, qos, retain, .published⟩)).getD s := by
  rw [ask, publish, queuePublish?]
  cases Topic.checkName topic with
  | error fault => rfl
  | ok =>
    cases s.state.acceptsCommands with
    | false => rfl
    | true =>
      cases sent : s.send? (.publish topic payload qos retain) with
      | none => simp
      | some queued => simp

/-- Queuing a message adds its command to what waits for the worker, and nothing else. -/
theorem queued_of_queuePublish? {s s' : Session τ} {message : Message}
    (queued : s.queuePublish? message = some s') : ∃ command, s' = s.enqueue [command] := by
  rw [queuePublish?] at queued
  split at queued
  · contradiction
  · obtain ⟨-, sent⟩ := Option.ite_none_right_eq_some.mp queued
    obtain ⟨-, rfl⟩ := send?_eq_some_iff.mp sent
    exact ⟨_, rfl⟩

/-- Queuing a message is nothing to be recounted. -/
theorem recounted_of_queuePublish? {s s' : Session τ} {message : Message}
    (queued : s.queuePublish? message = some s') : Recounted [] s s' := by
  obtain ⟨command, rfl⟩ := queued_of_queuePublish? queued
  exact .enqueue s _

end Session

/-- A session with the call that closes it, the messages that are queued and whose callers wait for the
history, the report that the dispatcher has taken and not applied, after how many announcements the
history was last cleared, and an observer: how far it has read, and what. -/
structure Staggered (τ : Type) where
  closing : Closing τ
  unrecorded : List Message
  taken : Option Report
  cleared : Nat
  position : Nat
  readings : List (Feed.Reading SessionEvent)

namespace Staggered

variable {τ : Type}

/-- A step of somebody. -/
inductive Step (τ : Type) where
  /-- A party or a caller that does not wait in between. -/
  | act (act : Closing.Act τ)
  /-- A caller queues a message, and waits for the history. -/
  | queue (topic : String) (payload : List UInt8) (qos : Qos) (retain : Bool)
  /-- One of the callers that wait for the history records its message. -/
  | record (index : Nat)
  /-- The dispatcher takes a report, and waits. -/
  | take
  /-- The dispatcher applies the report that it has taken. -/
  | apply
  /-- The observer reads. -/
  | listen

/-- A session that nobody has closed, and an observer from the first announcement on. -/
def start (s : Session τ) : Staggered τ := ⟨.start s, [], none, s.feed.position, s.feed.position, []⟩

/-- The session. -/
def session (s : Staggered τ) : Session τ := s.closing.session

/-- The same with another session. -/
def withSession (s : Staggered τ) (session : Session τ) : Staggered τ :=
  { s with closing := s.closing.withSession session }

/-- What the observer has heard. -/
def heard (s : Staggered τ) : List SessionEvent :=
  s.readings.filterMap fun
    | .item event => some event
    | .missed _ => none

/-- Whether an act has to wait until the dispatcher has applied what it has taken. -/
def holdsUp (s : Staggered τ) : Closing.Act τ → Bool
  | .other .dispatch => s.taken.isSome
  | .proceed => s.closing.phase == .joining .dispatcher && s.taken.isSome
  | _ => false

/-- After how many announcements the history was last cleared, when an act has been made. -/
def clearedBy (s : Staggered τ) : Closing.Act τ → Nat
  | .other (.ask .clearHistory) => s.session.feed.position
  | _ => s.cleared

/-- Only whoever clears the history changes after how many announcements that was last done. -/
theorem clearedBy_of_ne (s : Staggered τ) {act : Closing.Act τ} (other : act ≠ .other (.ask .clearHistory)) :
    s.clearedBy act = s.cleared := by
  unfold clearedBy
  split
  · exact absurd rfl other
  · rfl

/-! ## What a step can do -/

/-- What one step does to the session: all of it is recounted, or the history is cleared. -/
inductive Changed (s s' : Staggered τ) : Prop
  | recounted {events : List SessionEvent} (recounted : Recounted events s.session s'.session)
      (cleared : s'.cleared = s.cleared) : Changed s s'
  | cleared (session : s'.session = s.session.clearHistory)
      (cleared : s'.cleared = s.session.feed.position) : Changed s s'

/-- What was announced stays announced. -/
theorem Changed.grows {s s' : Staggered τ} (changed : Changed s s') :
    ∃ events, s'.session.feed.toList = s.session.feed.toList ++ events := by
  cases changed with
  | recounted recounted => exact ⟨_, recounted.feed⟩
  | cleared session =>
    rw [session]
    exact ⟨[], (List.append_nil _).symm⟩

/-- A session stays what its announcements tell. -/
theorem Changed.told {s s' : Staggered τ} (changed : Changed s s') (told : s.session.Told s.cleared) :
    s'.session.Told s'.cleared := by
  cases changed with
  | recounted recounted cleared => exact cleared ▸ told.recounted recounted
  | cleared session cleared => exact cleared ▸ session ▸ told.clear

/-- What an observer that has missed nothing has read is what was announced first. -/
def Attentive (s : Staggered τ) : Prop :=
  (∀ count, .missed count ∉ s.readings) →
    s.position ≤ s.session.feed.toList.length ∧
      s.readings = (s.session.feed.toList.take s.position).map .item

/-- What an observer has read stays read. -/
theorem Attentive.kept {s s' : Staggered τ} (attentive : s.Attentive) {events : List SessionEvent}
    (feed : s'.session.feed.toList = s.session.feed.toList ++ events)
    (position : s'.position = s.position) (readings : s'.readings = s.readings) : s'.Attentive := by
  intro unmissed
  rw [readings] at unmissed
  obtain ⟨within, read⟩ := attentive unmissed
  rw [position, readings, feed]
  refine ⟨?_, ?_⟩
  · rw [List.length_append]
    exact Nat.le_add_right_of_le within
  · rw [List.take_append_of_le_length within]
    exact read

/-- An observer reads one announcement after the other. -/
theorem Attentive.listen {s : Staggered τ} (attentive : s.Attentive)
    {reading : Feed.Reading SessionEvent} {after : Nat}
    (next : s.session.feed.next? s.position = some (reading, after)) :
    Attentive { s with position := after, readings := s.readings ++ [reading] } := by
  intro unmissed
  have before : ∀ count, .missed count ∉ s.readings := fun count mem =>
    unmissed count (List.mem_append_left _ mem)
  obtain ⟨within, read⟩ := attentive before
  cases reading with
  | missed count => exact absurd (List.mem_append_right _ (List.mem_singleton.mpr rfl)) (unmissed count)
  | item event =>
    have atMost := (Feed.next?_eq_item next).1
    rw [← Feed.length_toList] at atMost
    obtain ⟨there, one⟩ := Feed.getElem?_of_next?_eq_item next
    refine ⟨atMost, ?_⟩
    change s.readings ++ [.item event] = (s.session.feed.toList.take after).map .item
    rw [read, one, List.take_add_one, there, List.map_append]
    rfl

/-! ## Steps -/

variable [Transport τ]

/-- One step of somebody, `none` if it cannot be made. -/
def step? (s : Staggered τ) : Step τ → Option (Staggered τ)
  | .act act =>
    if s.holdsUp act then none
    else (s.closing.act? act).map fun closing => { s with closing, cleared := s.clearedBy act }
  | .queue topic payload qos retain =>
    let message : Message := ⟨topic, payload, qos, retain, .published⟩
    (s.session.queuePublish? message).map fun session =>
      { s.withSession session with unrecorded := s.unrecorded ++ [message] }
  | .record index =>
    s.unrecorded[index]?.map fun message =>
      { s.withSession (s.session.recordPublished message) with
        unrecorded := s.unrecorded.eraseIdx index }
  | .take =>
    if s.closing.permits .dispatch && s.taken.isNone then
      match s.session.reports with
      | [] => none
      | report :: rest =>
        some { s.withSession { s.session with reports := rest } with taken := some report }
    else none
  | .apply =>
    s.taken.map fun report =>
      { s.withSession (s.session.dispatch report) with taken := none }
  | .listen =>
    (s.session.feed.next? s.position).map fun (reading, position) =>
      { s with position, readings := s.readings ++ [reading] }

/-- Steps made one after the other; `none` if one of them cannot be made. -/
def run? : Staggered τ → List (Step τ) → Option (Staggered τ)
  | s, [] => some s
  | s, step :: rest => (s.step? step).bind (run? · rest)

theorem run?_cons (s : Staggered τ) (step : Step τ) (rest : List (Step τ)) :
    s.run? (step :: rest) = (s.step? step).bind (run? · rest) := rfl

/-! ## Whoever is not held up -/

/-- A caller that publishes and is not held up does so in one step. -/
theorem run?_queue_record (s : Staggered τ) {topic : String} {payload : List UInt8} {qos : Qos}
    {retain : Bool} {queued : Session τ}
    (queues : s.session.queuePublish? ⟨topic, payload, qos, retain, .published⟩ = some queued) :
    s.run? [.queue topic payload qos retain, .record s.unrecorded.length] =
      s.step? (.act (.other (.ask (.publish topic payload qos retain)))) := by
  have asked := s.session.ask_publish topic payload qos retain
  rw [queues] at asked
  generalize made : (⟨topic, payload, qos, retain, .published⟩ : Message) = message at asked queues
  have first : s.step? (.queue topic payload qos retain) =
      some { s.withSession queued with unrecorded := s.unrecorded ++ [message] } := by
    rw [step?, made, queues]
    rfl
  have last : (s.unrecorded ++ [message])[s.unrecorded.length]? = some message :=
    List.getElem?_concat_length
  have rest : (s.unrecorded ++ [message]).eraseIdx s.unrecorded.length = s.unrecorded := by
    rw [List.eraseIdx_append_of_length_le (Nat.le_refl _), Nat.sub_self]
    exact List.append_nil _
  have second :
      step? { s.withSession queued with unrecorded := s.unrecorded ++ [message] }
        (.record s.unrecorded.length) = some (s.withSession (queued.recordPublished message)) := by
    simp only [step?, last, rest, Option.map_some]
    rfl
  have one : s.step? (.act (.other (.ask (.publish topic payload qos retain)))) =
      some (s.withSession (s.session.ask (.publish topic payload qos retain)).2) := rfl
  rw [run?_cons, first, Option.bind_some, run?_cons, second, one, asked]
  rfl

/-- A dispatcher that is not held up takes a report and applies it in one step. -/
theorem run?_take_apply (s : Staggered τ) (idle : s.taken = none) :
    s.run? [.take, .apply] = s.step? (.act (.other .dispatch)) := by
  rw [run?_cons, step?, step?, holdsUp, idle, Closing.act?]
  cases s.closing.permits .dispatch with
  | false => rfl
  | true =>
    have same : s.closing.session.move? .dispatch = s.session.dispatch? := rfl
    rw [same, dispatch?]
    cases s.session.reports with
    | nil => rfl
    | cons report rest => rfl

/-! ## What a step keeps -/

/-- What one step of somebody comes to. -/
inductive Stepped (s : Staggered τ) : Step τ → Staggered τ → Prop
  | acted {act : Closing.Act τ} {closing : Closing τ} (acted : s.closing.Acted act closing) :
      Stepped s (.act act) { s with closing, cleared := s.clearedBy act }
  | queued {topic : String} {payload : List UInt8} {qos : Qos} {retain : Bool} {session : Session τ}
      (queued : s.session.queuePublish? ⟨topic, payload, qos, retain, .published⟩ = some session) :
      Stepped s (.queue topic payload qos retain)
        { s.withSession session with
          unrecorded := s.unrecorded ++ [⟨topic, payload, qos, retain, .published⟩] }
  | recorded {index : Nat} {message : Message} (waits : s.unrecorded[index]? = some message) :
      Stepped s (.record index)
        { s.withSession (s.session.recordPublished message) with
          unrecorded := s.unrecorded.eraseIdx index }
  | took {report : Report} {rest : List Report} (reports : s.session.reports = report :: rest) :
      Stepped s .take { s.withSession { s.session with reports := rest } with taken := some report }
  | applied {report : Report} (taken : s.taken = some report) :
      Stepped s .apply { s.withSession (s.session.dispatch report) with taken := none }
  | listened {reading : Feed.Reading SessionEvent} {position : Nat}
      (next : s.session.feed.next? s.position = some (reading, position)) :
      Stepped s .listen { s with position, readings := s.readings ++ [reading] }

/-- **A step that is made comes to one of these.** -/
theorem stepped_of_step? {s s' : Staggered τ} {step : Step τ} (made : s.step? step = some s') :
    s.Stepped step s' := by
  cases step with
  | act act =>
    simp only [step?, Option.ite_none_left_eq_some] at made
    obtain ⟨-, made⟩ := made
    obtain ⟨closing, acts, rfl⟩ := Option.map_eq_some_iff.mp made
    exact .acted (Closing.acted_of_act? acts)
  | queue topic payload qos retain =>
    obtain ⟨session, queued, rfl⟩ := Option.map_eq_some_iff.mp made
    exact .queued queued
  | record index =>
    obtain ⟨message, waits, rfl⟩ := Option.map_eq_some_iff.mp made
    exact .recorded waits
  | take =>
    simp only [step?, Option.ite_none_right_eq_some] at made
    obtain ⟨-, made⟩ := made
    split at made
    · contradiction
    · rename_i reports
      obtain rfl := Option.some.inj made
      exact .took reports
  | apply =>
    obtain ⟨report, taken, rfl⟩ := Option.map_eq_some_iff.mp made
    exact .applied taken
  | listen =>
    obtain ⟨⟨reading, position⟩, next, rfl⟩ := Option.map_eq_some_iff.mp made
    exact .listened next

/-- **What one step does to the session.** -/
theorem Stepped.changed {s s' : Staggered τ} {step : Step τ} (stepped : s.Stepped step s') :
    Changed s s' := by
  cases stepped with
  | @acted act closing acted =>
    by_cases clears : act = .other (.ask .clearHistory)
    · subst clears
      cases acted with
      | moved permitted made =>
        obtain rfl := Option.some.inj made
        exact .cleared rfl rfl
    · obtain ⟨events, recounted⟩ := Closing.recounted_of_acted acted clears
      exact .recounted recounted (s.clearedBy_of_ne clears)
  | queued queued => exact .recounted (recounted_of_queuePublish? queued) rfl
  | recorded => exact .recounted (.recordPublished s.session _) rfl
  | took => exact .recounted (.of_same rfl rfl rfl rfl rfl rfl) rfl
  | @applied report =>
    obtain ⟨events, recounted⟩ := Recounted.dispatch s.session report
    exact .recounted recounted rfl
  | listened => exact .recounted (.refl s.session) rfl

/-- Each step keeps an observer attentive. -/
theorem Stepped.attentive {s s' : Staggered τ} {step : Step τ} (stepped : s.Stepped step s')
    (attentive : s.Attentive) : s'.Attentive := by
  obtain ⟨events, feed⟩ := stepped.changed.grows
  cases stepped with
  | acted | queued | recorded | took | applied => exact attentive.kept feed rfl rfl
  | listened next => exact attentive.listen next

/-! ## Runs -/

/-- **A session stays what its announcements tell, and an observer attentive, in every run.** -/
theorem kept_of_run? {s s' : Staggered τ} {steps : List (Step τ)} (told : s.session.Told s.cleared)
    (attentive : s.Attentive) (run : s.run? steps = some s') :
    s'.session.Told s'.cleared ∧ s'.Attentive := by
  induction steps generalizing s with
  | nil =>
    obtain rfl := Option.some.inj run
    exact ⟨told, attentive⟩
  | cons step rest ih =>
    rw [run?_cons] at run
    obtain ⟨next, made, remaining⟩ := Option.bind_eq_some_iff.mp run
    have stepped := stepped_of_step? made
    exact ih (stepped.changed.told told) (stepped.attentive attentive) remaining

omit [Transport τ] in
/-- An observer that has missed nothing and has nothing left to read has heard all that was announced. -/
theorem Attentive.heard_eq {s : Staggered τ} (attentive : s.Attentive)
    (unmissed : ∀ count, .missed count ∉ s.readings)
    (caughtUp : s.session.feed.next? s.position = none) : s.heard = s.session.feed.toList := by
  obtain ⟨within, read⟩ := attentive unmissed
  have all : s.session.feed.toList.length ≤ s.position := by
    rw [Feed.length_toList]
    simp only [Feed.next?] at caughtUp
    split at caughtUp
    · contradiction
    · exact Array.getElem?_eq_none_iff.mp (Option.map_eq_none_iff.mp caughtUp)
  rw [List.take_of_length_le all] at read
  rw [heard, read, List.filterMap_map]
  exact List.filterMap_some

/-- **What an observer can tell of a session.** Whatever callers, parties and network do, in whatever
order, and also when the session is torn down, an observer that was there before the first announcement,
has missed nothing and has nothing left to read has heard this:

* the changes of state begin with the disconnected state, each one is a legal transition of the state
  before it, and the last one is the state of the session;
* the history is the messages, published and received, that were announced since it was last cleared, in
  the order of the announcements;
* as many messages have been published and received as were announced in all;
* the time of the connection is noted just if the last change was that the session is connected. -/
theorem determined {profile : Profile} {transport : τ} {settings : SessionSettings}
    {steps : List (Step τ)} {s : Staggered τ}
    (run : (start (create profile transport settings)).run? steps = some s)
    (unmissed : ∀ count, .missed count ∉ s.readings)
    (caughtUp : s.session.feed.next? s.position = none) :
    List.IsChain (fun state next => ∃ event, state.next? event = some next)
        (.disconnected :: s.heard.filterMap SessionEvent.change?) ∧
      (s.heard.filterMap SessionEvent.change?).getLast?.getD .disconnected = s.session.state ∧
      s.session.history = (s.heard.drop s.cleared).flatMap SessionEvent.messages ∧
      s.session.published = (s.heard.filterMap SessionEvent.sent?).length ∧
      s.session.received = (s.heard.filterMap SessionEvent.batch?).flatten.length ∧
      (s.session.connectedAt.isSome = true ↔
        (s.heard.filterMap SessionEvent.change?).getLast? = some .connected) := by
  have attentive : (start (create profile transport settings)).Attentive := fun _ => ⟨Nat.le_refl _, rfl⟩
  have told : (start (create profile transport settings)).session.Told 0 :=
    told_create profile transport settings
  obtain ⟨told, attentive⟩ := kept_of_run? told attentive run
  have timed : s.session.connectedAt.isSome = true ↔ s.session.state = .connected := told.timed
  have last := told.passes.getLast?
  rw [attentive.heard_eq unmissed caughtUp]
  refine ⟨told.passes.isChain, last, told.history, told.published, told.received, ?_⟩
  rw [timed, ← last]
  -- where nothing has changed the session is disconnected
  cases (s.session.feed.toList.filterMap SessionEvent.change?).getLast? with
  | none => simp
  | some state => simp

/-- While a message is about to be recorded and a batch about to be announced the history is cleared;
later the session is torn down over a transport that hangs. -/
def heldUp : List (Step Rehearsal) :=
  [.act (.other (.ask .connect)), .act (.other .takeCommand), .act (.other .takeEvent),
    .act (.other .dispatch), .queue "a" [120] .atMostOnce false, .act (.other .takeCommand),
    .act (.other (.drift (·.queue (.message "b" [121] .atMostOnce false)))), .act (.other .takeEvent),
    .act (.other .tick), .take, .listen, .act (.other (.ask (.publish "c" [122] .atMostOnce false))),
    .act (.other (.ask .clearHistory)), .apply, .record 0, .listen, .listen,
    .act .proceed, .act .proceed, .act (.other .takeCommand), .act (.other .takeCommand), .act .expire,
    .act .proceed, .act .proceed, .act .expire, .act .expire, .act .expire, .act .proceed,
    .listen, .listen, .listen, .listen]

/-- What was recorded and announced after the history was cleared is what is left of it, though both were
queued and taken before, and the forced end is the last change. -/
theorem determined_heldUp :
    ∃ s, (start (rehearsed { hang := [.disconnect] })).run? heldUp = some s ∧
      s.readings = [.item (.stateChanged .connecting), .item (.stateChanged .connected),
        .item (.published ⟨"c", [122], .atMostOnce, false, .published⟩),
        .item (.received [⟨"b", [121], .atMostOnce, false, .received⟩]),
        .item (.published ⟨"a", [120], .atMostOnce, false, .published⟩),
        .item (.stateChanged .disconnecting), .item (.stateChanged .disconnected)] ∧
      s.session.history = [⟨"b", [121], .atMostOnce, false, .received⟩,
        ⟨"a", [120], .atMostOnce, false, .published⟩] ∧
      s.session.published = 2 ∧ s.session.received = 1 ∧ s.session.state = .disconnected := by
  obtain ⟨s, run, readings, cleared, caughtUp⟩ :
      ∃ s, (start (rehearsed { hang := [.disconnect] })).run? heldUp = some s ∧
        s.readings = [.item (.stateChanged .connecting), .item (.stateChanged .connected),
          .item (.published ⟨"c", [122], .atMostOnce, false, .published⟩),
          .item (.received [⟨"b", [121], .atMostOnce, false, .received⟩]),
          .item (.published ⟨"a", [120], .atMostOnce, false, .published⟩),
          .item (.stateChanged .disconnecting), .item (.stateChanged .disconnected)] ∧
        s.cleared = 3 ∧ s.session.feed.next? s.position = none := ⟨_, rfl, rfl, rfl, rfl⟩
  obtain ⟨-, last, history, published, received, -⟩ := determined run (by simp [readings]) caughtUp
  rw [heard, readings] at last history published received
  rw [cleared] at history
  exact ⟨s, run, readings, history, published, received, last.symm⟩

end Staggered

end MqttSessions
