import MqttSessions.Proofs.Session.Effects

/-! # The way of inbound messages

An inbound message comes in with an event of the link, waits in the buffer, goes to the dispatcher in
a batch, and is announced with that batch. A session's **`Traffic`** is what has gone each part of this
way, and a step moves it on in one of four ways (**`Conveyed`**). Hence nothing is lost, doubled or
reordered, and no batch is empty.

* **`Session.conveyed_of_move?`**: what each move does to the traffic;
* **`Conveyed.inbound`** and **`Conveyed.full`**: what this means for the messages and the batches. -/

namespace MqttSessions

/-! ## Traffic -/

/-- The inbound message that an event of the link carries. -/
def LinkEvent.message? : LinkEvent → Option Message
  | .message topic payload qos retain => some ⟨topic, payload, qos, retain, .received⟩
  | _ => none

/-- The batch of inbound messages that an announcement carries. -/
def SessionEvent.batch? : SessionEvent → Option (List Message)
  | .received batch => some batch
  | _ => none

/-- The batch of inbound messages that a report carries. -/
def Report.batch? : Report → Option (List Message)
  | .messages batch => some batch
  | _ => none

/-- How far inbound messages have come: the batches that have been announced, the batches that wait
for the dispatcher, and the messages that are in no batch yet. -/
structure Traffic where
  delivered : List (List Message)
  underway : List (List Message)
  buffered : List Message

/-- All that has come in, oldest first. -/
def Traffic.inbound (t : Traffic) : List Message :=
  t.delivered.flatten ++ t.underway.flatten ++ t.buffered

/-- No batch is empty. -/
structure Traffic.Full (t : Traffic) : Prop where
  delivered : ∀ batch ∈ t.delivered, batch ≠ []
  underway : ∀ batch ∈ t.underway, batch ≠ []

/-- One step of inbound messages on their way, with the messages that come in by it. -/
inductive Conveyed (t : Traffic) : List Message → Traffic → Prop
  /-- Nothing moves. -/
  | still : Conveyed t [] t
  /-- Messages come in. -/
  | heard (messages : List Message) :
      Conveyed t messages { t with buffered := t.buffered ++ messages }
  /-- All that is buffered becomes a batch. -/
  | handedOver (full : t.buffered ≠ []) :
      Conveyed t [] { t with underway := t.underway ++ [t.buffered], buffered := [] }
  /-- The first batch that waits is announced. -/
  | announced {batch : List Message} {rest : List (List Message)} (first : t.underway = batch :: rest) :
      Conveyed t [] { t with delivered := t.delivered ++ [batch], underway := rest }

namespace Conveyed

variable {t t' : Traffic} {messages : List Message}

/-- What has not moved is still. -/
theorem of_eq (same : t' = t) : Conveyed t [] t' := by
  rw [same]
  exact .still

/-- **Nothing is lost, doubled or reordered.** What has come in is what had come in before, and then
what comes in now. -/
theorem inbound (conveyed : Conveyed t messages t') : t'.inbound = t.inbound ++ messages := by
  cases conveyed with
  | still => rw [List.append_nil]
  | heard => simp [Traffic.inbound]
  | handedOver => simp [Traffic.inbound]
  | announced first => simp [Traffic.inbound, first]

/-- Batches that are made and passed on are not empty. -/
theorem full (conveyed : Conveyed t messages t') (full : t.Full) : t'.Full := by
  obtain ⟨delivered, underway⟩ := full
  cases conveyed with
  | still => exact ⟨delivered, underway⟩
  | heard => exact ⟨delivered, underway⟩
  | handedOver buffered =>
    refine ⟨delivered, fun batch mem => ?_⟩
    rcases List.mem_append.mp mem with before | new
    · exact underway batch before
    · rwa [List.mem_singleton.mp new]
  | announced first =>
    rw [first] at underway
    refine ⟨fun batch mem => ?_, fun batch mem => underway batch (List.mem_cons_of_mem _ mem)⟩
    rcases List.mem_append.mp mem with before | new
    · exact delivered batch before
    · rw [List.mem_singleton.mp new]
      exact underway _ List.mem_cons_self

/-- Unless a message comes in, an empty buffer stays empty. -/
theorem emptied (conveyed : Conveyed t messages t') (silent : messages = []) (empty : t.buffered = []) :
    t'.buffered = [] := by
  cases conveyed with
  | still => exact empty
  | heard => rw [silent, List.append_nil, empty]
  | handedOver => rfl
  | announced => exact empty

/-- Behind batches that are on their way already everything goes on alike, as long as none is
announced. -/
theorem behind (conveyed : Conveyed t messages t') (ahead : List (List Message))
    {later : List (List Message)} (grows : t'.underway = t.underway ++ later) :
    Conveyed { t with underway := ahead ++ t.underway } messages
      { t' with underway := ahead ++ t'.underway } := by
  cases conveyed with
  | still => exact .still
  | heard => exact .heard messages
  | handedOver full =>
    rw [← List.append_assoc]
    exact .handedOver full
  | @announced batch rest first =>
    -- what waits would have become less
    have fewer : rest.length = (t.underway ++ later).length := congrArg List.length grows
    rw [first, List.length_append, List.length_cons] at fewer
    omega

end Conveyed

namespace Session

variable {τ : Type}

/-- How far the inbound messages of a session have come. -/
def traffic (s : Session τ) : Traffic where
  delivered := s.feed.toList.filterMap SessionEvent.batch?
  underway := s.reports.filterMap Report.batch?
  buffered := s.buffer.messages

/-! ## What leaves the traffic alone -/

/-- An announcement that carries no batch leaves the traffic alone. -/
theorem announce_traffic (s : Session τ) {event : SessionEvent} (bare : event.batch? = none) :
    (s.announce event).traffic = s.traffic := by
  simp [traffic, announce, bare]

@[simp] theorem enter_traffic (s : Session τ) (state : ConnectionState) :
    (s.enter state).traffic = s.traffic := announce_traffic _ rfl

@[simp] theorem enqueue_traffic (s : Session τ) (commands : List Command) :
    (s.enqueue commands).traffic = s.traffic := rfl

@[simp] theorem recordPublished_traffic (s : Session τ) (message : Message) :
    (s.recordPublished message).traffic = s.traffic := announce_traffic _ rfl

@[simp] theorem apply_traffic (s : Session τ) (event : ConnectionEvent) :
    (s.apply event).traffic = s.traffic := by
  rw [apply_eq]
  cases s.state.next? event with
  | none => rfl
  | some state => exact enter_traffic s state

@[simp] theorem forceDisconnected_traffic (s : Session τ) :
    s.forceDisconnected.traffic = s.traffic := by
  unfold forceDisconnected
  split
  · rfl
  · exact enter_traffic s _

@[simp] theorem follow_traffic (s : Session τ) : s.follow.traffic = s.traffic := by
  obtain ⟨_, same⟩ := follow_frame s
  rw [same]
  rfl

/-- Reports that carry no batch leave the traffic alone. -/
theorem settleWorker_traffic (s : Session τ) (worker : Worker τ) {reports : List Report}
    (bare : reports.filterMap Report.batch? = []) :
    (s.settleWorker worker reports).traffic = s.traffic := by
  simp [traffic, settleWorker, bare]

/-- What callers do has nothing to do with inbound messages. -/
@[simp] theorem ask_traffic (s : Session τ) (request : Request) :
    (s.ask request).2.traffic = s.traffic := by
  cases request with
  | connect =>
    rcases requestConnect_cases s with ⟨_, made⟩ | ⟨-, -, made⟩ | ⟨-, -, made⟩ <;>
      simp [ask, made]
  | disconnect =>
    rcases requestDisconnect_cases s with ⟨_, made⟩ | ⟨-, ⟨-, made⟩ | ⟨-, made⟩⟩ <;> simp [ask, made]
  | subscribe topic qos color =>
    rcases subscribe_cases s topic qos color with ⟨_, made⟩ | ⟨-, -, -, _, -, made⟩
    · rw [ask, made]
    · rw [ask, made]
      rfl
  | unsubscribe topic =>
    rcases unsubscribe_cases s topic with ⟨_, made⟩ | ⟨-, -, _, -, ⟨-, made⟩ | ⟨-, made⟩⟩
    · rw [ask, made]
    · rw [ask, made]
      rfl
    · rw [ask, made]
      rfl
  | publish topic payload qos retain =>
    rcases publish_cases s topic payload qos retain with ⟨_, made⟩ | ⟨-, -, -, made⟩ <;>
      simp [ask, made]
  | setEnabled topic enabled =>
    simp only [ask, setEnabled]
    split
    · rfl
    · rfl
  | clearHistory => rfl

/-! ## What moves it on -/

/-- Handing over makes a batch of all that is buffered, if anything is. -/
theorem handOver_conveyed (s : Session τ) : Conveyed s.traffic [] s.handOver.traffic := by
  unfold handOver Batch.Buffer.take
  cases buffered : s.buffer.messages with
  | nil => exact .still
  | cons message rest =>
    have full : s.traffic.buffered ≠ [] := by simp [traffic, buffered]
    have handed := Conveyed.handedOver full
    simpa [traffic, buffered, Report.batch?, Batch.Buffer.messages_empty] using handed

/-- After handing over nothing is buffered. -/
@[simp] theorem handOver_buffered (s : Session τ) : s.handOver.traffic.buffered = [] := by
  unfold handOver Batch.Buffer.take
  cases buffered : s.buffer.messages with
  | nil => exact buffered
  | cons message rest => rfl

/-- The dispatcher announces the batch that a report carries, and other reports carry none. -/
theorem dispatch_traffic (s : Session τ) (report : Report) :
    (s.dispatch report).traffic =
      { s.traffic with delivered := s.traffic.delivered ++ report.batch?.toList } := by
  cases report with
  | connected =>
    simp only [dispatch, transition?, resubscribe]
    cases s.state.next? .connectSucceeded with
    | none => simp [Report.batch?]
    | some state =>
      simp only [Option.map_some, foldl_send?]
      split <;> simp [Report.batch?]
  | connectFailed reason | connectionLost reason | disconnectComplete =>
    simp [dispatch, Report.batch?]
  | subscribeAck success =>
    rw [dispatch, announce_traffic _ rfl]
    simp [Report.batch?]
  | messages batch => simp [traffic, dispatch, announce, SessionEvent.batch?, Report.batch?]

/-- A report carries the first batch that waits, or none. -/
theorem underway_of_reports {s : Session τ} {report : Report} {rest : List Report}
    (reports : s.reports = report :: rest) :
    s.traffic.underway = report.batch?.toList ++ rest.filterMap Report.batch? := by
  cases carried : report.batch? <;> simp [traffic, reports, carried]

/-- A report that is applied moves the batch on that it carries, if it does. -/
theorem dispatch?_conveyed {s s' : Session τ} (made : s.dispatch? = some s') :
    Conveyed s.traffic [] s'.traffic := by
  obtain ⟨report, rest, reports, rfl⟩ := dispatch?_eq_some_iff.mp made
  have underway := underway_of_reports reports
  rw [dispatch_traffic]
  cases carried : report.batch? with
  | none =>
    have same : traffic { s with reports := rest } = s.traffic := by
      simp [traffic, reports, carried]
    rw [same, Option.toList_none, List.append_nil]
    exact .still
  | some batch =>
    rw [carried, Option.toList_some, List.singleton_append] at underway
    exact .announced underway

variable [Transport τ]

/-- The inbound message that comes in by a move: only the worker polls its link. -/
def heardBy (s : Session τ) : Move τ → List Message
  | .takeEvent =>
    ((Transport.poll s.worker.transport).bind fun (event, _) => event.message?).toList
  | _ => []

omit [Transport τ] in
/-- What a worker makes of an event has no batch in it, and its message goes into the buffer. -/
theorem heed_messages (worker : Worker τ) (event : LinkEvent) :
    (worker.heed event).2.1.filterMap Report.batch? = [] ∧
      (worker.heed event).2.2 = event.message?.toList := by
  cases event with
  | connected =>
    simp only [Worker.heed]
    split <;> exact ⟨rfl, rfl⟩
  | disconnected reason =>
    simp only [Worker.heed]
    cases worker.link <;> exact ⟨rfl, rfl⟩
  | subscribeAck success => exact ⟨rfl, rfl⟩
  | message topic payload qos retain => exact ⟨rfl, rfl⟩

/-- What a worker makes of a command has no batch in it. -/
theorem take_batchless (worker : Worker τ) (command : Command) :
    (worker.take command).2.filterMap Report.batch? = [] := by
  cases command with
  | connect profile =>
    simp only [Worker.take, Worker.connect]
    split
    · split <;> rfl
    · rfl
  | disconnect =>
    simp only [Worker.take]
    split <;> rfl
  | subscribe | unsubscribe | publish | shutdown => rfl

/-- **What a move does to the traffic.** -/
theorem conveyed_of_move? {s s' : Session τ} {move : Move τ} (made : s.move? move = some s') :
    Conveyed s.traffic (s.heardBy move) s'.traffic := by
  cases move with
  | ask request =>
    obtain rfl := Option.some.inj made
    rw [ask_traffic]
    exact .still
  | takeCommand =>
    obtain ⟨-, command, rest, -, rfl⟩ := takeCommand?_eq_some_iff.mp made
    rw [settleWorker_traffic _ _ (take_batchless s.worker command)]
    exact .still
  | takeEvent =>
    obtain ⟨-, -, event, transport, worker, reports, messages, polled, heeded, rfl⟩ :=
      takeEvent?_inversion made
    have came := heed_messages { s.worker with transport } event
    rw [heeded] at came
    obtain ⟨bare, rfl⟩ := came
    rw [settleWorker_traffic _ _ bare, heardBy, polled]
    have heard := Conveyed.heard (t := s.traffic) event.message?.toList
    cases message : event.message? <;> simpa [traffic, message] using heard
  | dispatch => exact dispatch?_conveyed made
  | tick =>
    obtain ⟨-, made⟩ := Option.ite_none_right_eq_some.mp made
    obtain rfl := Option.some.inj made
    exact handOver_conveyed s
  | finishTicker =>
    obtain ⟨-, made⟩ := Option.ite_none_right_eq_some.mp made
    obtain rfl := Option.some.inj made
    exact handOver_conveyed s
  | elapse ms =>
    obtain rfl := Option.some.inj made
    exact .still
  | drift change =>
    obtain rfl := Option.some.inj made
    exact .still

end Session

end MqttSessions
