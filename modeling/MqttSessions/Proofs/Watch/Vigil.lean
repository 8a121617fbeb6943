import MqttSessions.Mqtt.Endpoint
import MqttSessions.Proofs.Lists
import MqttSessions.Proofs.Watch.Tardy

/-! # What a watch prints before the connection is lost

A watch is started on a connected session. From then on worker, ticker, dispatcher, network and callers
move, in any order, and the watch reads whenever there is something to read, until it reads that the
session is disconnected. Messages that come in wait in the buffer for the next tick, and what the ticker has
taken is in its hand until it hands it over; the loss of the link is reported to the dispatcher at once. So
whatever the ticker holds and whatever is in the buffer when the worker hears of the loss is announced behind
the change of state, where the watch does not read any more.

* **`Watch.Reads`**: what a watch that has not fallen behind has printed, told from the announcements;
* **`Tardy.Passage`**: what has been announced, reported and not reported yet while there is a connection, once
  the loss has been reported, and once it has been announced;
* **`Vigil`**: a session and a watch on it, with what the worker has heard since the watch was started and
  what had not been reported when it heard of the loss;
* **`Vigil.printed_until_loss`**: the messages printed, and then those that the ticker held and those that were
  buffered, are all that came in, in order;
* **`Vigil.unprinted`**: a message that comes in right before the loss is not printed. -/

namespace MqttSessions

/-- That the connection has been lost, as a session announces it. -/
def SessionEvent.lost : SessionEvent := .stateChanged .disconnected

/-- The inbound messages that announcements carry. -/
def SessionEvent.inbound (events : List SessionEvent) : List Message :=
  (events.filterMap SessionEvent.batch?).flatten

@[simp] theorem SessionEvent.inbound_append (events others : List SessionEvent) :
    SessionEvent.inbound (events ++ others) = SessionEvent.inbound events ++ SessionEvent.inbound others := by
  rw [inbound, List.filterMap_append, List.flatten_append, inbound, inbound]

/-! ## The watch -/

namespace Watch

/-- A watch has never fallen behind: it has not said so. -/
def KeptUp (w : Watch) : Prop :=
  ∀ count, .entry .warn target "Output fell behind" [("skipped", .natural count)] ∉ w.lines

/-- A watch that has printed only messages and the loss has never fallen behind. -/
theorem keptUp_of_lines {w : Watch} (messages : List Message)
    (lines : w.lines = messages.map .message ++ [.entry .error target "Connection lost" []]) : w.KeptUp := by
  intro count
  rw [lines]
  simp [Line.entry]

/-- A watch has read some announcements since it was started, and those only: it has printed their
messages. It has ended just if it has come to the loss of the connection. -/
inductive Reads (old feed : List SessionEvent) (w : Watch) : Prop
  /-- The watch is to go on. -/
  | going (read : List SessionEvent) (all : feed = old ++ read ++ feed.drop w.position)
      (within : w.position ≤ feed.length) (goes : w.ended = false)
      (printed : w.messages = SessionEvent.inbound read) (unlost : SessionEvent.lost ∉ read)
  /-- The watch has come to the loss. -/
  | quit (read ahead : List SessionEvent) (all : feed = old ++ (read ++ SessionEvent.lost :: ahead))
      (ended : w.ended = true) (printed : w.messages = SessionEvent.inbound read)
      (unlost : SessionEvent.lost ∉ read)

theorem reads_start (feed : Feed SessionEvent) : (start feed).Reads feed.toList feed.toList := by
  have position : (start feed).position = feed.toList.length := (Feed.length_toList feed).symm
  refine .going [] ?_ (Nat.le_of_eq position) rfl rfl (by simp)
  rw [position, List.drop_length, List.append_nil, List.append_nil]

/-- What is announced later is there to be read. -/
theorem Reads.announced {old feed : List SessionEvent} {w : Watch} (reads : w.Reads old feed)
    (events : List SessionEvent) : w.Reads old (feed ++ events) := by
  cases reads with
  | going read all within goes printed unlost =>
    refine .going read ?_ (Nat.le_trans within (by simp)) goes printed unlost
    rw [List.drop_append_of_le_length within, ← List.append_assoc, ← all]
  | quit read ahead all ended printed unlost =>
    exact .quit read (ahead ++ events) (by rw [all]; simp) ended printed unlost

/-- What a watch does with an announcement. -/
theorem take_item (w : Watch) (event : SessionEvent) :
    (w.take (.item event)).position = w.position ∧
      (w.take (.item event)).messages = w.messages ++ SessionEvent.inbound [event] ∧
      (w.take (.item event)).ended = (w.ended || event = SessionEvent.lost) := by
  cases event with
  | received batch =>
    simp [take, messages, SessionEvent.inbound, SessionEvent.batch?, SessionEvent.lost]
  | published message => simp [take, SessionEvent.inbound, SessionEvent.batch?, SessionEvent.lost]
  | stateChanged state =>
    cases state <;>
      simp [take, messages, SessionEvent.inbound, SessionEvent.batch?, SessionEvent.lost, print, Line.entry]
  | subscriptionAcknowledged success =>
    cases success <;>
      simp [take, messages, SessionEvent.inbound, SessionEvent.batch?, SessionEvent.lost, print, Line.entry]

/-- What has been printed stays printed. -/
theorem mem_lines_take {w : Watch} {line : Line} (mem : line ∈ w.lines) (reading : Feed.Reading SessionEvent) :
    line ∈ (w.take reading).lines := by
  unfold take print
  split <;> simp [mem]

/-- A watch that goes on takes what it gets next. -/
theorem read?_eq_some {w w' : Watch} {feed : Feed SessionEvent} (read : w.read? feed = some w') :
    w.ended = false ∧ ∃ reading position, feed.next? w.position = some (reading, position) ∧
      w' = { w with position }.take reading := by
  obtain ⟨going, read⟩ := Option.ite_none_left_eq_some.mp read
  obtain ⟨⟨reading, position⟩, next, same⟩ := Option.map_eq_some_iff.mp read
  exact ⟨by simpa using going, reading, position, next, same.symm⟩

/-- A watch that has kept up after a step had kept up before it. -/
theorem KeptUp.of_read? {w w' : Watch} {feed : Feed SessionEvent} (read : w.read? feed = some w')
    (kept : w'.KeptUp) : w.KeptUp := by
  obtain ⟨-, reading, position, -, rfl⟩ := read?_eq_some read
  exact fun count mem => kept count (mem_lines_take (w := { w with position }) mem reading)

/-- **A step of a watch that keeps up.** -/
theorem Reads.read? {old : List SessionEvent} {feed : Feed SessionEvent} {w w' : Watch}
    (reads : w.Reads old feed.toList) (read : w.read? feed = some w') (kept : w'.KeptUp) :
    w'.Reads old feed.toList := by
  obtain ⟨going, reading, position, next, rfl⟩ := read?_eq_some read
  cases reads with
  | quit _ _ _ ended => exact Bool.noConfusion (going.symm.trans ended)
  | going before all within goes printed unlost =>
    cases reading with
    | missed count => exact absurd (by simp [take, print]) (kept count)
    | item event =>
      obtain ⟨within', here⟩ := Feed.next?_eq_item next
      obtain ⟨stands, prints, ends⟩ := take_item { w with position } event
      replace prints := prints.trans (congrArg (· ++ SessionEvent.inbound [event]) printed)
      rw [← SessionEvent.inbound_append] at prints
      replace all : feed.toList = old ++ (before ++ event :: feed.toList.drop position) := by
        rw [← here, ← List.append_assoc, ← all]
      -- the watch ends with the first loss that it reads, and with nothing else
      by_cases lost : event = SessionEvent.lost
      · subst lost
        refine .quit before _ all (by rw [ends]; simp) ?_ unlost
        rw [prints, SessionEvent.inbound_append]
        exact List.append_nil _
      · refine .going (before ++ [event]) ?_ ?_ ?_ prints ?_
        · rw [stands, List.append_assoc, List.append_assoc, List.singleton_append, ← all]
        · rw [stands, Feed.length_toList]
          exact within'
        · rw [ends]
          simp [lost, goes]
        · simp [unlost, Ne.symm lost]

end Watch

namespace Session

variable {τ : Type}

/-! ## What the dispatcher passes on -/

/-- A report that says nothing about the connection leaves the state alone. The dispatcher announces one
event, with the messages of the report. -/
theorem passed_of_dispatch? {s s' : Session τ} {report : Report} {rest : List Report}
    (made : s.dispatch? = some s') (reports : s.reports = report :: rest) (silent : report.event? = none) :
    s'.state = s.state ∧ s'.reports = rest ∧ ∃ event, s'.feed.toList = s.feed.toList ++ [event] ∧
      event ≠ .lost ∧ event.batch? = report.batch? := by
  obtain ⟨_, _, queued, rfl⟩ := dispatch?_eq_some_iff.mp made
  obtain ⟨rfl, rfl⟩ := List.cons.inj (reports.symm.trans queued)
  cases report with
  | connected | connectFailed | connectionLost | disconnectComplete => cases silent
  | subscribeAck success =>
    exact ⟨rfl, rfl, .subscriptionAcknowledged success, Feed.toList_push .., by simp [SessionEvent.lost], rfl⟩
  | messages batch =>
    exact ⟨rfl, rfl, .received batch, Feed.toList_push .., by simp [SessionEvent.lost], rfl⟩

/-- The report of the loss ends the connection, and that is announced. -/
theorem lost_of_dispatch? {s s' : Session τ} {reason : String} {rest : List Report}
    (made : s.dispatch? = some s') (reports : s.reports = .connectionLost reason :: rest)
    (connected : s.state = .connected) : s'.feed.toList = s.feed.toList ++ [.lost] := by
  obtain ⟨_, _, queued, rfl⟩ := dispatch?_eq_some_iff.mp made
  obtain ⟨rfl, rfl⟩ := List.cons.inj (reports.symm.trans queued)
  simp [dispatch, apply_eq, connected, ConnectionState.next?, enter, announce, SessionEvent.lost]

variable [Transport τ]

/-! ## The worker's link -/

/-- While the worker waits its link stands in some way, and nothing that it is to do changes that. -/
def Holds (s : Session τ) (link : Link) : Prop :=
  s.worker.footing = .waiting → s.worker.link = link ∧ s.commands.filterMap Command.event? = []

omit [Transport τ] in
/-- The next command, if there is one, does not change that either. -/
theorem Holds.next {s : Session τ} {link : Link} (holds : s.Holds link) (waiting : s.worker.footing = .waiting)
    {command : Command} {rest : List Command} (commands : s.commands = command :: rest) :
    command.event? = none ∧ rest.filterMap Command.event? = [] := by
  have silent := (holds waiting).2
  rw [commands] at silent
  cases said : command.event? with
  | none => exact ⟨rfl, by rwa [List.filterMap_cons_none said] at silent⟩
  | some event => rw [List.filterMap_cons_some said] at silent; cases silent

/-- Nobody but the network changes how the link stands, unless somebody asks for it. -/
theorem Holds.move? {s s' : Session τ} {link : Link} {move : Move τ} (holds : s.Holds link)
    (other : move.event? = none) (unheard : move ≠ .takeEvent) (made : s.move? move = some s') :
    s'.Holds link := by
  intro waiting
  obtain ⟨stands, silent⟩ := holds (waiting_of_move? made waiting)
  cases move with
  | ask request =>
    obtain rfl := Option.some.inj made
    have asked := ask_asked s request
    rw [ask_worker] at waiting ⊢
    generalize (s.ask request).1 = outcome at asked
    cases asked with
    | granted asks => exact nomatch asks.symm.trans other
    | passed commands _ _ added queued =>
      rw [queued, List.filterMap_append, silent, List.filterMap_eq_nil_iff.mpr added]
      exact ⟨stands, rfl⟩
    | forsaken stopped => exact nomatch waiting.symm.trans stopped
  | takeCommand =>
    obtain ⟨command, commands, -, -, -, -, served⟩ := takeCommand?_waiting made waiting
    obtain ⟨quiet, rest⟩ := holds.next (waiting_of_move? made waiting) commands
    rw [stands] at served
    generalize s'.worker.link = after at served ⊢
    generalize (s.worker.take command).2 = reports at served
    cases served with
    | passed => exact ⟨rfl, rest⟩
    | dialed | refused | ignored | released => cases quiet
  | takeEvent => exact absurd rfl unheard
  | dispatch =>
    obtain ⟨report, -, worker, -, commands, -⟩ := dispatch?_eq_some made
    rw [worker, commands, List.filterMap_append, silent, restored_event?]
    exact ⟨stands, rfl⟩
  | tick | finishTicker | elapse | drift =>
    have same := undisturbed_of_move? rfl made
    rw [same.link, same.commands]
    exact ⟨stands, silent⟩

/-- Without a link the worker takes no event. -/
theorem Holds.deaf {s s' : Session τ} {move : Move τ} (holds : s.Holds .idle)
    (made : s.move? move = some s') : move ≠ .takeEvent := by
  rintro rfl
  obtain ⟨waiting, active, -⟩ := takeEvent?_inversion made
  exact active (holds waiting).1

/-! ## Aside from the dispatcher -/

omit [Transport τ] in
/-- A request that asks for nothing of the connection leaves the state alone, and what it announces is
neither the loss nor an inbound message. -/
theorem ask_aside (s : Session τ) {request : Request} (other : request.event? = none) :
    (s.ask request).2.state = s.state ∧
      ∃ events, (s.ask request).2.feed.toList = s.feed.toList ++ events ∧
        SessionEvent.inbound events = [] ∧ SessionEvent.lost ∉ events := by
  obtain ⟨events, announced, published⟩ := Announced.ask_other s other
  have unchanged : ∀ event ∈ events, event.isChange = false := by
    intro event mem
    obtain ⟨message, rfl⟩ := published event mem
    rfl
  have bare : events.filterMap SessionEvent.batch? = [] := by
    refine List.filterMap_eq_nil_iff.mpr fun event mem => ?_
    obtain ⟨message, rfl⟩ := published event mem
    rfl
  refine ⟨?_, events, ?_, ?_, fun mem => ?_⟩
  · rw [announced.state, SessionEvent.known_of_unchanged s.state unchanged]
  · rw [announced.feed, Feed.toList_foldl_push]
  · rw [SessionEvent.inbound, bare, List.flatten_nil]
  · exact nomatch unchanged _ mem

omit [Transport τ] in
/-- A ticker that hands over reports nothing about the connection, and announces nothing. -/
theorem handOver_queued (s : Session τ) :
    s.handOver.state = s.state ∧ s.handOver.feed = s.feed ∧
      ∃ reports, s.handOver.reports = s.reports ++ reports ∧ ∀ report ∈ reports, report.event? = none := by
  obtain ⟨reports, silent, queued⟩ := (handOver_undisturbed s).reports
  obtain ⟨buffer, others, same⟩ := handOver_frame s
  exact ⟨by rw [same], by rw [same], reports, queued, silent⟩

/-- While nothing is to change how the link stands, whoever moves but the dispatcher leaves the state alone,
reports nothing about the connection unless the worker has heard it, and announces at most what is
published. -/
theorem Holds.aside {s s' : Session τ} {link : Link} {move : Move τ} (holds : s.Holds link)
    (other : move.event? = none) (unheard : move ≠ .takeEvent) (aside : move ≠ .dispatch)
    (made : s.move? move = some s') :
    s'.state = s.state ∧
      (∃ reports, s'.reports = s.reports ++ reports ∧ ∀ report ∈ reports, report.event? = none) ∧
      ∃ events, s'.feed.toList = s.feed.toList ++ events ∧ SessionEvent.inbound events = [] ∧
        SessionEvent.lost ∉ events := by
  have nothing {reports : List Report} : reports = reports ++ [] ∧
      ∀ report ∈ ([] : List Report), report.event? = none := ⟨(List.append_nil _).symm, by simp⟩
  have unannounced {feed : List SessionEvent} :
      feed = feed ++ [] ∧ SessionEvent.inbound [] = [] ∧ SessionEvent.lost ∉ [] :=
    ⟨(List.append_nil _).symm, rfl, List.not_mem_nil⟩
  cases move with
  | ask request =>
    obtain rfl := Option.some.inj made
    obtain ⟨state, announced⟩ := ask_aside s other
    exact ⟨state, ⟨[], by rw [ask_reports]; exact nothing⟩, announced⟩
  | takeCommand =>
    obtain ⟨waiting, command, rest, commands, rfl⟩ := takeCommand?_eq_some_iff.mp made
    rw [Worker.take_unreported s.worker (holds.next waiting commands).1]
    exact ⟨rfl, ⟨[], rfl, by simp⟩, [], unannounced⟩
  | takeEvent => exact absurd rfl unheard
  | dispatch => exact absurd rfl aside
  | tick | finishTicker =>
    obtain ⟨-, made⟩ := Option.ite_none_right_eq_some.mp made
    obtain rfl := Option.some.inj made
    obtain ⟨state, feed, reports⟩ := handOver_queued s
    refine ⟨state, reports, [], ?_⟩
    rw [show (Feed.toList _) = s.feed.toList from congrArg Feed.toList feed]
    exact unannounced
  | elapse | drift =>
    obtain rfl := Option.some.inj made
    exact ⟨rfl, ⟨[], nothing⟩, [], unannounced⟩

end Session

namespace Tardy

variable {τ : Type} [Transport τ]

/-- What had not been reported when the worker heard of the loss of its link, if it does so in a move. -/
def leftBy? (t : Tardy τ) : Move τ → Option (List Message)
  | .whole .takeEvent =>
    (Transport.poll t.session.worker.transport).bind fun (event, _) =>
      if Mqtt.isLast event then some t.unreported else none
  | _ => none

section Asides

variable {t t' : Tardy τ} {link : Link} {move : Move τ}

/-- A move other than the worker's at its link brings no message and no loss. -/
theorem unheard_of_other (unheard : move ≠ .whole .takeEvent) :
    t.heardBy move = [] ∧ t.leftBy? move = none := by
  cases move with
  | whole move => cases move <;> first | exact absurd rfl unheard | exact ⟨rfl, rfl⟩
  | take | hand => exact ⟨rfl, rfl⟩

/-- Without a link the worker takes no event. -/
theorem deaf_of_idle (idle : t.session.Holds .idle) (made : t.move? move = some t') :
    move ≠ .whole .takeEvent := by
  rintro rfl
  obtain ⟨-, s, moved, -⟩ := whole_of_move? made
  exact idle.deaf moved rfl

/-- Nobody but the network changes how the link stands, unless somebody asks for it. -/
theorem holds_of_move? (holds : t.session.Holds link) (other : move.event? = none)
    (unheard : move ≠ .whole .takeEvent) (made : t.move? move = some t') : t'.session.Holds link := by
  cases move with
  | whole move =>
    obtain ⟨-, s, moved, rfl⟩ := whole_of_move? made
    exact holds.move? other (fun same => unheard (congrArg _ same)) moved
  | take | hand =>
    have same := (quiet_of_background rfl made).1
    intro waiting
    rw [same.link, same.commands]
    exact holds (same.footing ▸ waiting)

/-- While nothing is to change how the link stands, whoever moves but the dispatcher leaves the state alone,
reports nothing about the connection unless the worker has heard it, and announces at most what is
published. This holds of a ticker as well that makes its move in two parts. -/
theorem aside_of_move? (holds : t.session.Holds link) (other : move.event? = none)
    (unheard : move ≠ .whole .takeEvent) (aside : move ≠ .whole .dispatch) (made : t.move? move = some t') :
    t'.session.state = t.session.state ∧
      (∃ reports, t'.session.reports = t.session.reports ++ reports ∧
        ∀ report ∈ reports, report.event? = none) ∧
      ∃ events, t'.session.feed.toList = t.session.feed.toList ++ events ∧
        SessionEvent.inbound events = [] ∧ SessionEvent.lost ∉ events := by
  cases move with
  | whole move =>
    obtain ⟨-, s, moved, rfl⟩ := whole_of_move? made
    exact holds.aside other (fun same => unheard (congrArg _ same)) (fun same => aside (congrArg _ same)) moved
  | take | hand =>
    obtain ⟨same, quiet⟩ := quiet_of_background rfl made
    obtain ⟨reports, silent, queued⟩ := same.reports
    refine ⟨quiet.state, ⟨reports, queued, silent⟩, [], ?_, rfl, List.not_mem_nil⟩
    rw [quiet.feed, List.append_nil]

end Asides

/-! ## Before and after the loss -/

/-- There is a connection, and some news have been announced, given what had been announced and what had come
in before, and what the worker has heard since. -/
structure Live (t : Tardy τ) (old : List SessionEvent) (came heard : List Message)
    (news : List SessionEvent) : Prop where
  state : t.session.state = .connected
  up : t.session.Holds .up
  silent : ∀ report ∈ t.session.reports, report.event? = none
  feed : t.session.feed.toList = old ++ news
  unlost : SessionEvent.lost ∉ news
  inbound : t.inbound = came ++ heard

/-- The loss has been reported, behind some other reports. What had not been reported then comes behind it, and
the reports ahead of it carry all that is still to be announced before it. -/
structure Severed (t : Tardy τ) (old : List SessionEvent) (came heard left : List Message)
    (news : List SessionEvent) (ahead : List Report) : Prop where
  state : t.session.state = .connected
  idle : t.session.Holds .idle
  reports : ∃ reason behind, t.session.reports = ahead ++ .connectionLost reason :: behind
  silent : ∀ report ∈ ahead, report.event? = none
  feed : t.session.feed.toList = old ++ news
  unlost : SessionEvent.lost ∉ news
  told : SessionEvent.inbound (old ++ news) ++ (ahead.filterMap Report.batch?).flatten ++ left =
    came ++ heard

/-- The loss has been announced. What had not been reported at the loss has not been announced before. -/
structure Ended (t : Tardy τ) (old : List SessionEvent) (came heard left : List Message)
    (news : List SessionEvent) : Prop where
  idle : t.session.Holds .idle
  feed : ∃ later, t.session.feed.toList = old ++ (news ++ .lost :: later)
  unlost : SessionEvent.lost ∉ news
  told : SessionEvent.inbound (old ++ news) ++ left = came ++ heard

/-- How a session stands on which a watch was started while it was connected, with what the worker has heard
since and what had not been reported when it heard of the loss. -/
inductive Passage (old : List SessionEvent) (came : List Message) (t : Tardy τ) :
    List Message → Option (List Message) → Prop
  | live {heard : List Message} {news : List SessionEvent} (live : t.Live old came heard news) :
      Passage old came t heard none
  | severed {heard left : List Message} {news : List SessionEvent} {ahead : List Report}
      (severed : t.Severed old came heard left news ahead) : Passage old came t heard (some left)
  | ended {heard left : List Message} {news : List SessionEvent}
      (ended : t.Ended old came heard left news) : Passage old came t heard (some left)
  /-- There has been no link since the beginning. -/
  | deaf (idle : t.session.Holds .idle) : Passage old came t [] none

variable {t t' : Tardy τ} {old news : List SessionEvent} {came heard left : List Message}

/-- The worker takes an event of a link that is up: it hears of the loss, or the connection lives on. -/
theorem Live.takeEvent (live : t.Live old came heard news) (made : t.move? (.whole .takeEvent) = some t') :
    Passage old came t' (heard ++ t.heardBy (.whole .takeEvent)) (t.leftBy? (.whole .takeEvent)) := by
  have inbound := inbound_of_move? made
  rw [live.inbound, List.append_assoc] at inbound
  obtain ⟨-, s, moved, rfl⟩ := whole_of_move? made
  obtain ⟨waiting, -, event, transport, worker, reports, messages, polled, heeded, rfl⟩ :=
    Session.takeEvent?_inversion moved
  obtain ⟨link, queued⟩ := live.up waiting
  have hears : t.leftBy? (.whole .takeEvent) = if Mqtt.isLast event then some t.unreported else none := by
    rw [leftBy?, polled, Option.bind_some]
  cases event with
  | disconnected reason =>
    have silence : t.heardBy (.whole .takeEvent) = [] := by rw [heardBy, Session.heardBy, polled]; rfl
    simp only [Worker.heed, link, Prod.mk.injEq] at heeded
    obtain ⟨rfl, rfl, rfl⟩ := heeded
    rw [hears, silence, List.append_nil]
    refine .severed ⟨live.state, fun _ => ⟨rfl, ?_⟩, ⟨reason, [], rfl⟩, live.silent, live.feed, live.unlost, ?_⟩
    · rw [Session.settleWorker_commands _ _ (by simp [waiting])]
      exact queued
    · -- all that has come in is announced, reported or not reported yet
      rw [← live.feed, ← live.inbound, List.append_assoc]
      rfl
  | connected | subscribeAck | message =>
    simp only [Worker.heed, link, reduceCtorEq, if_false, Prod.mk.injEq] at heeded
    obtain ⟨rfl, rfl, rfl⟩ := heeded
    rw [hears]
    refine .live ⟨live.state, fun _ => ⟨rfl, ?_⟩, fun report mem => ?_, live.feed, live.unlost, inbound⟩
    · rw [Session.settleWorker_commands _ _ (by simp [waiting])]
      exact queued
    · rcases List.mem_append.mp mem with before | new
      · exact live.silent report before
      · -- an acknowledged subscription is reported, but says nothing about the connection
        first | (rw [List.mem_singleton.mp new]; rfl) | cases new

/-- The dispatcher takes a report while the connection lives. -/
theorem Live.dispatch (live : t.Live old came heard news) (made : t.move? (.whole .dispatch) = some t') :
    ∃ event, t'.Live old came heard (news ++ [event]) := by
  have inbound := inbound_of_move? made
  rw [live.inbound, (unheard_of_other (by simp)).1, List.append_nil] at inbound
  have up := holds_of_move? live.up rfl (by simp) made
  obtain ⟨-, s, moved, rfl⟩ := whole_of_move? made
  obtain ⟨report, rest, reports, -⟩ := Session.dispatch?_eq_some_iff.mp moved
  have silent := live.silent
  rw [reports] at silent
  obtain ⟨quiet, others⟩ := List.forall_mem_cons.mp silent
  obtain ⟨state, left, event, feed, other, -⟩ := Session.passed_of_dispatch? moved reports quiet
  refine ⟨event, state.trans live.state, up, left ▸ others, ?_, ?_, inbound⟩
  · rw [feed, live.feed, List.append_assoc]
  · simp [live.unlost, Ne.symm other]

/-- Anybody else moves while the connection lives. -/
theorem Live.aside (live : t.Live old came heard news) {move : Move τ} (other : move.event? = none)
    (unheard : move ≠ .whole .takeEvent) (aside : move ≠ .whole .dispatch) (made : t.move? move = some t') :
    ∃ events, t'.Live old came heard (news ++ events) := by
  obtain ⟨state, ⟨added, queued, quiet⟩, events, feed, -, harmless⟩ :=
    aside_of_move? live.up other unheard aside made
  have inbound := inbound_of_move? made
  rw [live.inbound, (unheard_of_other unheard).1, List.append_nil] at inbound
  refine ⟨events, state.trans live.state, holds_of_move? live.up other unheard made, ?_, ?_, ?_, inbound⟩
  · rw [queued]
    exact fun report mem => (List.mem_append.mp mem).elim (live.silent report) (quiet report)
  · rw [feed, live.feed, List.append_assoc]
  · simp [live.unlost, harmless]

/-- The dispatcher takes a report once the loss has been reported: the loss, or one that came before. -/
theorem Severed.dispatch {ahead : List Report} (severed : t.Severed old came heard left news ahead)
    (made : t.move? (.whole .dispatch) = some t') : Passage old came t' heard (some left) := by
  obtain ⟨state, idle, ⟨reason, behind, reports⟩, silent, feed, unlost, told⟩ := severed
  have holds := holds_of_move? idle rfl (by simp) made
  obtain ⟨-, s, moved, rfl⟩ := whole_of_move? made
  cases ahead with
  | nil =>
    rw [List.filterMap_nil, List.flatten_nil, List.append_nil] at told
    refine .ended ⟨holds, ⟨[], ?_⟩, unlost, told⟩
    rw [Session.lost_of_dispatch? moved reports state, feed, List.append_assoc]
  | cons first ahead =>
    obtain ⟨quiet, others⟩ := List.forall_mem_cons.mp silent
    obtain ⟨same, rest, event, announced, other, batch⟩ := Session.passed_of_dispatch? moved reports quiet
    suffices later : Severed { t with session := s } old came heard left (news ++ [event]) ahead from
      .severed later
    refine ⟨same.trans state, holds, ⟨reason, behind, rest⟩, others, ?_, ?_, ?_⟩
    · rw [announced, feed, List.append_assoc]
    · simp [unlost, Ne.symm other]
    · -- the batch goes from the reports to the announcements
      rw [← told, ← List.append_assoc, SessionEvent.inbound_append]
      cases carried : first.batch? <;> simp [SessionEvent.inbound, batch, carried]

/-- Anybody else moves once the loss has been reported. What is reported now comes behind it. -/
theorem Severed.aside {ahead : List Report} (severed : t.Severed old came heard left news ahead)
    {move : Move τ} (other : move.event? = none) (aside : move ≠ .whole .dispatch)
    (made : t.move? move = some t') : ∃ events, t'.Severed old came heard left (news ++ events) ahead := by
  obtain ⟨state, idle, ⟨reason, behind, reports⟩, silent, feed, unlost, told⟩ := severed
  have unheard := deaf_of_idle idle made
  obtain ⟨same, ⟨added, queued, -⟩, events, announced, bare, harmless⟩ :=
    aside_of_move? idle other unheard aside made
  refine ⟨events, same.trans state, holds_of_move? idle other unheard made, ⟨reason, behind ++ added, ?_⟩,
    silent, ?_, ?_, ?_⟩
  · rw [queued, reports, List.append_assoc, List.cons_append]
  · rw [announced, feed, List.append_assoc]
  · simp [unlost, harmless]
  · rw [← told, ← List.append_assoc, SessionEvent.inbound_append, bare, List.append_nil]

/-- What is announced behind the loss changes nothing any more. -/
theorem Ended.announced (ended : t.Ended old came heard left news) {move : Move τ}
    (other : move.event? = none) (made : t.move? move = some t') : t'.Ended old came heard left news := by
  obtain ⟨idle, ⟨later, feed⟩, unlost, told⟩ := ended
  obtain ⟨events, announced⟩ := feed_of_move? made
  refine ⟨holds_of_move? idle other (deaf_of_idle idle made) made, ⟨later ++ events, ?_⟩, unlost, told⟩
  rw [announced, Feed.toList_foldl_push, feed]
  simp

/-- **What a move leads to**, whoever makes it, unless somebody asks for the connection to change. -/
theorem Passage.move? {left? : Option (List Message)} (passage : Passage old came t heard left?)
    {move : Move τ} (other : move.event? = none) (made : t.move? move = some t') :
    Passage old came t' (heard ++ t.heardBy move) (left? <|> t.leftBy? move) := by
  by_cases hears : move = .whole .takeEvent
  · subst hears
    cases passage with
    | live live => exact live.takeEvent made
    | severed severed => exact absurd rfl (deaf_of_idle severed.idle made)
    | ended ended => exact absurd rfl (deaf_of_idle ended.idle made)
    | deaf idle => exact absurd rfl (deaf_of_idle idle made)
  · obtain ⟨unheard, unlike⟩ := unheard_of_other (t := t) hears
    rw [unheard, unlike, List.append_nil]
    cases passage with
    | live live =>
      by_cases dispatches : move = .whole .dispatch
      · subst dispatches
        obtain ⟨event, live⟩ := live.dispatch made
        exact .live live
      · obtain ⟨events, live⟩ := live.aside other hears dispatches made
        exact .live live
    | severed severed =>
      by_cases dispatches : move = .whole .dispatch
      · subst dispatches
        exact severed.dispatch made
      · obtain ⟨events, severed⟩ := severed.aside other dispatches made
        exact .severed severed
    | ended ended => exact .ended (ended.announced other made)
    | deaf idle => exact .deaf (holds_of_move? idle other hears made)

end Tardy

/-! ## A session that is watched -/

/-- A session and a watch on it, with what the worker has heard since the watch was started, and what had not
been reported when the worker heard of the loss of its link, if it has. -/
structure Vigil (τ : Type) where
  lookout : Lookout τ
  heard : List Message := []
  left? : Option (List Message) := none

namespace Vigil

variable {τ : Type}

/-- A watch is started on a session. -/
def start (t : Tardy τ) : Vigil τ := { lookout := .start t }

/-- The session. -/
def tardy (v : Vigil τ) : Tardy τ := v.lookout.tardy

/-- The watch. -/
def watch (v : Vigil τ) : Watch := v.lookout.watch

variable [Transport τ]

/-- The inbound message that comes in by an act. -/
def heardBy (v : Vigil τ) : Lookout.Act τ → List Message
  | .move move => v.tardy.heardBy move
  | .read => []

/-- What had not been reported when the worker heard of the loss of its link, if it does so in an act. -/
def leftBy? (v : Vigil τ) : Lookout.Act τ → Option (List Message)
  | .move move => v.tardy.leftBy? move
  | .read => none

/-- What an act does, `none` if it cannot be done. Nobody asks for the connection to change. -/
def step? (v : Vigil τ) (act : Lookout.Act τ) : Option (Vigil τ) :=
  (v.lookout.step? act).map fun lookout =>
    { lookout
      heard := v.heard ++ v.heardBy act
      left? := v.left? <|> v.leftBy? act }

/-- Acts done one after the other; `none` if one of them cannot be done. -/
def run? : Vigil τ → List (Lookout.Act τ) → Option (Vigil τ)
  | v, [] => some v
  | v, act :: rest => (v.step? act).bind (run? · rest)

/-- What holds since a watch was started: the connection and the messages have come so far, and the watch has
printed what it has read, if it has kept up. -/
structure Sound (old : List SessionEvent) (came : List Message) (v : Vigil τ) : Prop where
  passage : v.tardy.Passage old came v.heard v.left?
  reads : v.watch.KeptUp → v.watch.Reads old v.tardy.session.feed.toList

/-- A session that is connected when a watch is started. -/
theorem start_sound {profile : Profile} {transport : τ} {settings : SessionSettings}
    {before : List (Tardy.Move τ)} {t : Tardy τ}
    (run : (Tardy.create profile transport settings).run? before = some t)
    (connected : t.session.state = .connected) : (start t).Sound t.session.feed.toList t.inbound := by
  refine ⟨?_, fun _ => Watch.reads_start t.session.feed⟩
  by_cases waiting : t.session.worker.footing = .waiting
  · have stage := ((Tardy.standing_of_run? run).fits waiting).stage
    rw [connected] at stage
    generalize link : t.session.worker.link = l at stage
    generalize requests : t.session.commands.filterMap Command.event? = r at stage
    generalize outcomes : t.session.reports.filterMap Report.event? = o at stage
    -- while connected the link is up, or its loss is on the way to the dispatcher
    cases stage with
    | live =>
      have silent := List.filterMap_eq_nil_iff.mp outcomes
      exact .live ⟨connected, fun _ => ⟨link, requests⟩, silent, (List.append_nil _).symm,
        List.not_mem_nil, (List.append_nil _).symm⟩
    | lost => exact .deaf fun _ => ⟨link, requests⟩
  · exact .deaf fun waits => absurd waits waiting

variable {old : List SessionEvent} {came : List Message} {v v' : Vigil τ}

/-- **Every act keeps a vigil sound.** -/
theorem Sound.step? (sound : v.Sound old came) {act : Lookout.Act τ} (done : v.step? act = some v') :
    v'.Sound old came := by
  obtain ⟨lookout, acted, rfl⟩ := Option.map_eq_some_iff.mp done
  cases act with
  | move move =>
    obtain ⟨other, acted⟩ := Option.ite_none_right_eq_some.mp acted
    obtain ⟨tardy, made, rfl⟩ := Option.map_eq_some_iff.mp acted
    refine ⟨sound.passage.move? other made, fun kept => ?_⟩
    obtain ⟨events, feed⟩ := Tardy.feed_of_move? (t := v.tardy) made
    have later := (sound.reads kept).announced events
    rwa [← Feed.toList_foldl_push, ← feed] at later
  | read =>
    obtain ⟨watch, read, rfl⟩ := Option.map_eq_some_iff.mp acted
    refine ⟨?_, fun kept => (sound.reads (kept.of_read? read)).read? read kept⟩
    have heard : v.heard ++ v.heardBy .read = v.heard := List.append_nil _
    have left : (v.left? <|> v.leftBy? .read) = v.left? := by simp [leftBy?]
    rw [heard, left]
    exact sound.passage

/-- **Every run keeps a vigil sound.** -/
theorem Sound.run? {acts : List (Lookout.Act τ)} (sound : v.Sound old came) (went : v.run? acts = some v') :
    v'.Sound old came := by
  induction acts generalizing v with
  | nil => exact Option.some.inj went ▸ sound
  | cons act rest ih =>
    obtain ⟨next, done, remaining⟩ := Option.bind_eq_some_iff.mp went
    exact ih (sound.step? done) remaining

/-- **A watch prints what comes in until the loss, except for what has not been reported then.** A watch is
started on a connected session, and nobody asks for the connection to change. The ticker may be held up between
taking a batch and handing it over. When the watch has ended and has never fallen behind, the messages that it
has printed, and then those that the ticker held and those that were buffered when the worker heard of the loss,
are those that had come in and were still to be announced when the watch was started, and then those that the
worker has heard since. So everything has been printed, once and in order, just if the ticker held nothing and
nothing was buffered at the loss. If the loss was known before the watch was started, nothing was heard. -/
theorem printed_until_loss {profile : Profile} {transport : τ} {settings : SessionSettings}
    {before : List (Tardy.Move τ)} {t : Tardy τ} {acts : List (Lookout.Act τ)}
    (run : (Tardy.create profile transport settings).run? before = some t)
    (connected : t.session.state = .connected) (went : (start t).run? acts = some v)
    (ended : v.watch.ended = true) (kept : v.watch.KeptUp) :
    match v.left? with
    | some left =>
      v.watch.messages ++ left = t.unannounced ++ v.heard ∧
        (v.watch.messages = t.unannounced ++ v.heard ↔ left = [])
    | none => v.heard = [] := by
  obtain ⟨passage, reads⟩ := (start_sound run connected).run? went
  generalize v.heard = heard at passage ⊢
  generalize v.left? = left? at passage ⊢
  cases reads kept with
  | going _ _ _ goes => exact Bool.noConfusion (goes.symm.trans ended)
  | quit read ahead all _ printed unlost =>
    have there {news : List SessionEvent} (feed : v.tardy.session.feed.toList = t.session.feed.toList ++ news) :
        news = read ++ SessionEvent.lost :: ahead := List.append_cancel_left (feed.symm.trans all)
    -- the loss has been announced, since the watch has read it, and both know its first place
    cases passage with
    | live live => exact absurd (by simp [there live.feed]) live.unlost
    | severed severed => exact absurd (by simp [there severed.feed]) severed.unlost
    | ended ended =>
      obtain ⟨later, feed⟩ := ended.feed
      obtain ⟨rfl, -⟩ := append_cons_inj_of_first ended.unlost unlost (there feed)
      have told := ended.told
      have came : t.inbound = SessionEvent.inbound t.session.feed.toList ++ t.unannounced := rfl
      rw [came, SessionEvent.inbound_append, List.append_assoc, List.append_assoc, ← printed] at told
      have total := List.append_cancel_left told
      refine ⟨total, ?_⟩
      rw [← total]
      exact List.self_eq_append_right
    | deaf => rfl

/-! ## Up to the loss of a rehearsed link -/

/-- A rehearsed link is set up. -/
def connecting : List (Session.Move Rehearsal) := [.ask .connect, .takeCommand, .takeEvent, .dispatch]

/-- A message of a broker. -/
def reading (payload : List UInt8) : LinkEvent := .message "a" payload .atMostOnce false

/-- Three messages come in. The first one is handed over, and the ticker is held up with the second one. The
connection is lost right after the third one. -/
def cutShort : List (Lookout.Act Rehearsal) :=
  [.move (.whole (.ask (.subscribe "a" .atMostOnce ""))), .move (.whole .takeCommand),
      .move (.whole .takeEvent)] ++
    Lookout.hearing (reading [1]) ++ [.move (.whole .tick)] ++ Lookout.hearing (reading [2]) ++ [.move .take] ++
    Lookout.hearing (reading [3]) ++ Lookout.hearing (.disconnected "gone") ++
    [.move .hand, .move (.whole .dispatch), .move (.whole .dispatch), .move (.whole .dispatch),
      .move (.whole .dispatch), .read, .read, .read]

/-- The first message is printed. At the loss the ticker held the second one, and the third one was buffered. -/
theorem printed_until_loss_cutShort :
    ∃ t v first second third,
      (⟨Session.rehearsed {}, none⟩ : Tardy Rehearsal).run? (connecting.map .whole) = some t ∧
      t.session.state = .connected ∧ (start t).run? cutShort = some v ∧ v.watch.ended = true ∧
      v.watch.KeptUp ∧ v.heard = [first, second, third] ∧ v.left? = some [second, third] ∧
      v.watch.messages ++ [second, third] = [first, second, third] := by
  obtain ⟨t, v, first, second, third, run, connected, went, ended, lines, heard, left, pending⟩ :
      ∃ t v first second third,
        (⟨Session.rehearsed {}, none⟩ : Tardy Rehearsal).run? (connecting.map .whole) = some t ∧
        t.session.state = .connected ∧ (start t).run? cutShort = some v ∧ v.watch.ended = true ∧
        v.watch.lines = [first].map .message ++ [.entry .error Watch.target "Connection lost" []] ∧
        v.heard = [first, second, third] ∧ v.left? = some [second, third] ∧ t.unannounced = [] :=
    ⟨_, _, _, _, _, rfl, rfl, rfl, rfl, rfl, rfl, rfl, rfl⟩
  have kept := Watch.keptUp_of_lines [first] lines
  have printed := printed_until_loss run connected went ended kept
  rw [left, heard, pending] at printed
  exact ⟨t, v, first, second, third, run, connected, went, ended, kept, heard, left, printed.1⟩

/-- **The last message is not printed.** A message comes in right before the connection is lost, and no tick
falls between: the watch ends without having printed it, though it has read everything that was announced
until then. -/
theorem unprinted :
    ∃ t v message, (⟨Session.rehearsed {}, none⟩ : Tardy Rehearsal).run? (connecting.map .whole) = some t ∧
      t.session.state = .connected ∧
      (start t).run? (Lookout.hearing (reading [1]) ++ Lookout.hearing (.disconnected "gone") ++
        [.move (.whole .dispatch), .read, .move (.whole .tick), .move (.whole .dispatch)]) = some v ∧
      v.watch.ended = true ∧ v.watch.KeptUp ∧ v.heard = [message] ∧ v.watch.messages = [] :=
  ⟨_, _, _, rfl, rfl, rfl, rfl, Watch.keptUp_of_lines [] rfl, rfl, rfl⟩

end Vigil

end MqttSessions
