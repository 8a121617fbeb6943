import MqttSessions.Proofs.Session.Requests
import MqttSessions.Session.Follower

/-! # What one move of a session changes

Each party's move is described once, by what it does to the state, the worker, the queued commands
and reports, and the subscriptions. A worker that is stuck in a call or has stopped never waits
again (**`Session.waiting_of_move?`**), so most of what is said of the worker is said of one that
waits.

* **`Session.dispatch?_eq_some`**: what the dispatcher makes of a report;
* **`Worker.take_waiting`** and **`Worker.heed_heeded`**: what the worker makes of a command and of an
  event of its link, as relations **`Worker.Served`** and **`Worker.Heeded`**;
* **`Session.takeCommand?_waiting`** and **`Session.takeEvent?_eq_some`**: the same for the session;
* **`Session.undisturbed_of_move?`**: what ticker, clock and network do. -/

namespace MqttSessions

namespace Session

variable {τ : Type}

/-! ## What the dispatcher makes of a report -/

/-- Applying an event makes its transition, or none if it is not legal. -/
theorem apply_eq (s : Session τ) (event : ConnectionEvent) :
    s.apply event = ((s.state.next? event).map s.enter).getD s := rfl

@[simp] theorem apply_worker (s : Session τ) (event : ConnectionEvent) :
    (s.apply event).worker = s.worker := by
  rw [apply_eq]
  cases s.state.next? event <;> rfl

@[simp] theorem apply_commands (s : Session τ) (event : ConnectionEvent) :
    (s.apply event).commands = s.commands := by
  rw [apply_eq]
  cases s.state.next? event <;> rfl

@[simp] theorem apply_reports (s : Session τ) (event : ConnectionEvent) :
    (s.apply event).reports = s.reports := by
  rw [apply_eq]
  cases s.state.next? event <;> rfl

@[simp] theorem apply_subscriptions (s : Session τ) (event : ConnectionEvent) :
    (s.apply event).subscriptions = s.subscriptions := by
  rw [apply_eq]
  cases s.state.next? event <;> rfl

@[simp] theorem forceDisconnected_state (s : Session τ) : s.forceDisconnected.state = .disconnected := by
  unfold forceDisconnected
  split
  · assumption
  · rfl

@[simp] theorem forceDisconnected_closed (s : Session τ) : s.forceDisconnected.closed = s.closed := by
  unfold forceDisconnected
  split <;> rfl

@[simp] theorem forceDisconnected_worker (s : Session τ) :
    s.forceDisconnected.worker = s.worker := by
  unfold forceDisconnected
  split <;> rfl

@[simp] theorem forceDisconnected_commands (s : Session τ) :
    s.forceDisconnected.commands = s.commands := by
  unfold forceDisconnected
  split <;> rfl

@[simp] theorem forceDisconnected_subscriptions (s : Session τ) :
    s.forceDisconnected.subscriptions = s.subscriptions := by
  unfold forceDisconnected
  split <;> rfl

@[simp] theorem forceDisconnected_ticker (s : Session τ) :
    s.forceDisconnected.ticker = s.ticker := by
  unfold forceDisconnected
  split <;> rfl

@[simp] theorem forceDisconnected_reports (s : Session τ) :
    s.forceDisconnected.reports = s.reports := by
  unfold forceDisconnected
  split <;> rfl

theorem apply_state (s : Session τ) (event : ConnectionEvent) :
    (s.apply event).state = (s.state.next? event).getD s.state := by
  rw [apply_eq]
  cases s.state.next? event <;> rfl

/-- Commands queued one after the other are queued in their order, if there is a worker to take
them. -/
theorem foldl_send? (s : Session τ) (commands : List Command) :
    commands.foldl (fun s command => (s.send? command).getD s) s =
      if s.worker.footing = .stopped then s else s.enqueue commands := by
  induction commands generalizing s with
  | nil => simp [enqueue]
  | cons command rest ih =>
      rw [List.foldl_cons, ih]
      by_cases stopped : s.worker.footing = .stopped
      · rw [send?_of_stopped stopped, Option.getD_none, if_pos stopped, if_pos stopped]
      · rw [send?_of_ne_stopped stopped, Option.getD_some, enqueue_worker, if_neg stopped,
          if_neg stopped, enqueue_enqueue, List.singleton_append]

/-- The commands that a report makes the dispatcher queue: a connection that is acknowledged in time
has its subscriptions restored, if there is a worker left to do so. -/
def restored (s : Session τ) : Report → List Command
  | .connected =>
    if s.state = .connecting ∧ s.worker.footing ≠ .stopped then resubscriptions s.subscriptions
    else []
  | _ => []

/-- **What the dispatcher makes of a report.** A report that stands for an event applies it, an
acknowledged connection has its subscriptions restored, and nothing else changes among worker,
reports, subscriptions, commands and state. -/
theorem dispatch_kept (s : Session τ) (report : Report) :
    (s.dispatch report).worker = s.worker ∧ (s.dispatch report).reports = s.reports ∧
      (s.dispatch report).subscriptions = s.subscriptions ∧
      (s.dispatch report).commands = s.commands ++ s.restored report ∧
      (s.dispatch report).state =
        (report.event?.elim s.state fun event => (s.state.next? event).getD s.state) := by
  cases report with
  | connected =>
    by_cases connecting : s.state = .connecting
    · -- in time: the registry is queued behind what waits
      have made : s.transition? .connectSucceeded = some (s.enter .connected) :=
        transition?_eq_some_iff.mpr ⟨_, by rw [connecting]; rfl, rfl⟩
      simp only [dispatch, made, resubscribe, foldl_send?]
      by_cases stopped : s.worker.footing = .stopped <;>
        simp [restored, connecting, stopped, Report.event?, ConnectionState.next?]
    · -- too late: an acknowledgment is legal in no other state
      have refused : s.state.next? .connectSucceeded = none := by
        cases state : s.state <;> first | rfl | exact absurd state connecting
      simp [dispatch, transition?, refused, restored, connecting, Report.event?]
  | connectFailed reason => simp [dispatch, restored, Report.event?, apply_state]
  | connectionLost reason => simp [dispatch, restored, Report.event?, apply_state]
  | disconnectComplete => simp [dispatch, restored, Report.event?, apply_state]
  | subscribeAck success => simp [dispatch, restored, Report.event?, announce]
  | messages batch => simp [dispatch, restored, Report.event?, announce]

/-- **What the dispatcher can change**: the state, what is recorded and announced, and the commands
that wait. -/
theorem dispatch_frame (s : Session τ) (report : Report) :
    ∃ state connectedAt history received feed commands, s.dispatch report =
      { s with state, connectedAt, history, received, feed, commands } := by
  have applied (event : ConnectionEvent) :
      ∃ state connectedAt history received feed commands, s.apply event =
        { s with state, connectedAt, history, received, feed, commands } := by
    rw [apply_eq]
    cases s.state.next? event <;> exact ⟨_, _, _, _, _, _, rfl⟩
  cases report with
  | connected =>
    simp only [dispatch, transition?, resubscribe]
    cases s.state.next? .connectSucceeded with
    | none => exact ⟨_, _, _, _, _, _, rfl⟩
    | some state =>
      simp only [Option.map_some, foldl_send?]
      split <;> exact ⟨_, _, _, _, _, _, rfl⟩
  | connectFailed reason => exact applied _
  | connectionLost reason => exact applied _
  | disconnectComplete => exact applied _
  | subscribeAck success => exact ⟨_, _, _, _, _, _, rfl⟩
  | messages batch => exact ⟨_, _, _, _, _, _, rfl⟩

/-- Only subscriptions that are there are restored. -/
theorem mem_restored {s : Session τ} {report : Report} {command : Command}
    (mem : command ∈ s.restored report) :
    ∃ entry ∈ s.subscriptions.toList, .subscribe entry.topic entry.qos = command := by
  cases report <;> try exact absurd mem List.not_mem_nil
  simp only [restored] at mem
  split at mem
  · exact List.mem_map.mp mem
  · exact absurd mem List.not_mem_nil

/-- Restoring subscriptions asks for nothing that stands for an event. -/
theorem restored_event? (s : Session τ) (report : Report) :
    (s.restored report).filterMap Command.event? = [] := by
  rw [List.filterMap_eq_nil_iff]
  intro command mem
  obtain ⟨entry, -, rfl⟩ := mem_restored mem
  rfl

/-- Unless an attempt is acknowledged in time, the dispatcher restores nothing, and leaves the state
alone or ends the connection. -/
theorem dispatched_elsewise {s : Session τ} {report : Report}
    (other : ¬(s.state = .connecting ∧ report = .connected)) :
    s.restored report = [] ∧
      ((report.event?.elim s.state fun event => (s.state.next? event).getD s.state) = s.state ∨
        (report.event?.elim s.state fun event => (s.state.next? event).getD s.state) =
          .disconnected) := by
  cases report <;> cases state : s.state <;>
    simp_all [restored, Report.event?, ConnectionState.next?]

/-- The dispatcher takes the first report that waits. -/
theorem dispatch?_eq_some_iff {s s' : Session τ} :
    s.dispatch? = some s' ↔ ∃ report rest, s.reports = report :: rest ∧
      s' = dispatch { s with reports := rest } report := by
  unfold dispatch?
  cases s.reports with
  | nil => simp
  | cons report rest =>
    constructor
    · intro made
      exact ⟨report, rest, rfl, (Option.some.inj made).symm⟩
    · rintro ⟨_, _, ⟨rfl, rfl⟩, rfl⟩
      rfl

/-- **What dispatching does.** -/
theorem dispatch?_eq_some {s s' : Session τ} (made : s.dispatch? = some s') :
    ∃ report, s.reports = report :: s'.reports ∧ s'.worker = s.worker ∧
      s'.subscriptions = s.subscriptions ∧ s'.commands = s.commands ++ s.restored report ∧
      s'.state = report.event?.elim s.state fun event => (s.state.next? event).getD s.state := by
  obtain ⟨report, rest, queued, rfl⟩ := dispatch?_eq_some_iff.mp made
  obtain ⟨worker, reports, subscriptions, commands, state⟩ :=
    dispatch_kept { s with reports := rest } report
  exact ⟨report, by rw [queued, reports], worker, subscriptions, commands, state⟩

end Session

/-! ## What the worker makes of a command and of an event -/

namespace Worker

variable {τ : Type}

/-- What a worker that goes on waiting makes of a command: how its link stands before and after, and
what it reports. -/
inductive Served : Link → Command → Link → List Report → Prop
  /-- An attempt has been started. -/
  | dialed (profile : Profile) : Served .idle (.connect profile) .connecting []
  /-- An attempt could not be started. -/
  | refused (profile : Profile) (reason : String) :
      Served .idle (.connect profile) .idle [.connectFailed reason]
  /-- An attempt is ignored, for there is a link. -/
  | ignored {link : Link} (profile : Profile) (active : link ≠ .idle) :
      Served link (.connect profile) link []
  /-- The link, if there was one, has been torn down. -/
  | released (link : Link) : Served link .disconnect .idle [.disconnectComplete]
  /-- Whatever else is asked does nothing to the link. -/
  | passed (link : Link) {command : Command} (other : command.event? = none) :
      Served link command link []

/-- What a worker makes of an event of its link: how its link stands before and after, and what it
reports. -/
inductive Heeded : Link → Link → List Report → Prop
  /-- The attempt has been acknowledged. -/
  | acknowledged : Heeded .connecting .up [.connected]
  /-- The attempt has failed. -/
  | failed (reason : String) : Heeded .connecting .idle [.connectFailed reason]
  /-- The connection has been lost. -/
  | lost (reason : String) : Heeded .up .idle [.connectionLost reason]
  /-- Whatever else comes in does nothing to the link. -/
  | passed (link : Link) {reports : List Report} (other : ∀ report ∈ reports, report.event? = none) :
      Heeded link link reports

variable [Transport τ]

@[simp] theorem call_link (worker : Worker τ) (c : Call) : (worker.call c).2.link = worker.link :=
  rfl

/-- Where a worker stands after a call depends on the answer. -/
theorem call_footing (worker : Worker τ) (c : Call) :
    (worker.call c).2.footing =
      match (worker.call c).1 with
      | .never => .stuck
      | .fatal => .stopped
      | _ => worker.footing := rfl

/-- A worker waits after a call only if the call was answered, and it waited before. -/
theorem call_waiting (worker : Worker τ) (c : Call)
    (waiting : (worker.call c).2.footing = .waiting) :
    worker.footing = .waiting ∧
      ((worker.call c).1 = .done ∨ ∃ error, (worker.call c).1 = .failed error) := by
  simp only [call] at waiting ⊢
  cases answer : (Transport.perform c worker.transport).1 <;> simp_all

/-- A worker that waits after a teardown has no link, and waited before. -/
theorem teardown_waiting {worker : Worker τ} (waiting : worker.teardown.footing = .waiting) :
    worker.footing = .waiting ∧ worker.teardown.link = .idle := by
  unfold teardown at waiting ⊢
  by_cases idle : worker.link = .idle
  · rw [if_pos idle] at waiting ⊢
    exact ⟨waiting, idle⟩
  · rw [if_neg idle] at waiting ⊢
    -- the answer decides both the footing and the link
    have after := call_waiting worker .disconnect
    revert waiting after
    obtain ⟨answer, called⟩ := worker.call .disconnect
    cases answer <;> simp_all

/-- A worker that waits after sending waited before, and its link is the same. -/
theorem send_waiting {worker : Worker τ} {c : Call}
    (waiting : (worker.send c).footing = .waiting) :
    worker.footing = .waiting ∧ (worker.send c).link = worker.link := by
  unfold send at waiting ⊢
  by_cases up : worker.link = .up
  · rw [if_pos up] at waiting ⊢
    exact ⟨(call_waiting worker c waiting).1, rfl⟩
  · rw [if_neg up] at waiting ⊢
    exact ⟨waiting, rfl⟩

/-- A worker that waits after a request to connect waited before. It has ignored the request if it
had a link, and has started an attempt or reported why it could not if it had none. -/
theorem connect_waiting {worker : Worker τ} {profile : Profile}
    (waiting : (worker.connect profile).1.footing = .waiting) :
    worker.footing = .waiting ∧
      Served worker.link (.connect profile) (worker.connect profile).1.link
        (worker.connect profile).2 := by
  unfold connect at waiting ⊢
  by_cases idle : worker.link = .idle
  · rw [if_pos idle] at waiting ⊢
    rw [idle]
    have after := call_waiting worker (.connect profile)
    have link := call_link worker (.connect profile)
    revert waiting after link
    obtain ⟨answer, called⟩ := worker.call (.connect profile)
    rw [idle]
    intro waiting after link
    -- only an answer lets the worker wait on
    cases answer with
    | done => exact ⟨(after waiting).1, .dialed profile⟩
    | failed error =>
      simp only at link ⊢
      rw [link]
      exact ⟨(after waiting).1, .refused profile error.message⟩
    | never => simp at after waiting; exact absurd waiting after
    | fatal => simp at after waiting; exact absurd waiting after
  · rw [if_neg idle] at waiting ⊢
    exact ⟨waiting, .ignored profile idle⟩

/-- A worker that is told to shut down stops, or is kept from it by its last call. -/
theorem take_shutdown (worker : Worker τ) : (worker.take .shutdown).1.footing ≠ .waiting := by
  intro waiting
  simp only [take] at waiting
  split at waiting
  · exact absurd waiting (by simp [stop])
  · contradiction

/-- **What a worker makes of a command**, if it waits afterwards. -/
theorem take_waiting {worker : Worker τ} {command : Command}
    (waiting : (worker.take command).1.footing = .waiting) :
    worker.footing = .waiting ∧
      Served worker.link command (worker.take command).1.link (worker.take command).2 := by
  cases command with
  | connect profile => exact connect_waiting waiting
  | disconnect =>
    obtain ⟨before, idle⟩ := teardown_waiting waiting
    have reported : (worker.take .disconnect).2 = [.disconnectComplete] := if_pos waiting
    rw [reported, show (worker.take .disconnect).1.link = .idle from idle]
    exact ⟨before, .released worker.link⟩
  | subscribe topic qos =>
    obtain ⟨before, same⟩ := send_waiting waiting
    simp only [take, same]
    exact ⟨before, .passed worker.link rfl⟩
  | unsubscribe topic =>
    obtain ⟨before, same⟩ := send_waiting waiting
    simp only [take, same]
    exact ⟨before, .passed worker.link rfl⟩
  | publish topic payload qos retain =>
    obtain ⟨before, same⟩ := send_waiting waiting
    simp only [take, same]
    exact ⟨before, .passed worker.link rfl⟩
  | shutdown => exact absurd waiting (take_shutdown worker)

/-- A worker reports nothing of a command that leaves the connection as it is. -/
theorem take_unreported (worker : Worker τ) {command : Command} (other : command.event? = none) :
    (worker.take command).2 = [] := by
  cases command with
  | connect | disconnect => cases other
  | subscribe | unsubscribe | publish | shutdown => rfl

/-- A worker that has waited, and does not after a command, reports nothing. -/
theorem take_silent {worker : Worker τ} {command : Command} (before : worker.footing = .waiting)
    (after : (worker.take command).1.footing ≠ .waiting) : (worker.take command).2 = [] := by
  cases command with
  | connect profile =>
    simp only [take, connect] at after ⊢
    split at after
    · rename_i idle
      rw [if_pos idle]
      have footing := call_footing worker (.connect profile)
      revert after footing
      obtain ⟨answer, called⟩ := worker.call (.connect profile)
      intro after footing
      -- a worker that has an answer goes on waiting
      cases answer with
      | done => rfl
      | failed error => exact absurd (footing.trans before) after
      | never => rfl
      | fatal => rfl
    · exact absurd before after
  | disconnect => exact if_neg after
  | subscribe topic qos => rfl
  | unsubscribe topic => rfl
  | publish topic payload qos retain => rfl
  | shutdown => rfl

/-- Without a link nothing is sent, so a worker that gets stuck while it sends has one. -/
theorem send_stuck {worker : Worker τ} {c : Call} (before : worker.footing = .waiting)
    (stuck : (worker.send c).footing = .stuck) : worker.link ≠ .idle := by
  intro idle
  simp [send, idle, before] at stuck

/-- Without a link there is nothing to tear down. -/
theorem teardown_stuck {worker : Worker τ} (before : worker.footing = .waiting)
    (stuck : worker.teardown.footing = .stuck) : worker.link ≠ .idle := by
  intro idle
  simp [teardown, idle, before] at stuck

/-- A worker gets stuck over a link or in an attempt to get one. -/
theorem take_stuck {worker : Worker τ} {command : Command} (before : worker.footing = .waiting)
    (stuck : (worker.take command).1.footing = .stuck) :
    worker.link ≠ .idle ∨ command.event? = some .connectRequested := by
  cases command with
  | connect profile => exact .inr rfl
  | disconnect => exact .inl (teardown_stuck before stuck)
  | subscribe topic qos => exact .inl (send_stuck before stuck)
  | unsubscribe topic => exact .inl (send_stuck before stuck)
  | publish topic payload qos retain => exact .inl (send_stuck before stuck)
  | shutdown =>
    simp only [take] at stuck
    split at stuck
    · exact absurd stuck (by simp [stop])
    · exact .inl (teardown_stuck before stuck)

omit [Transport τ] in
/-- Heeding an event leaves the footing and the transport of a worker alone. -/
theorem heed_kept (worker : Worker τ) (event : LinkEvent) :
    (worker.heed event).1.footing = worker.footing ∧
      (worker.heed event).1.transport = worker.transport := by
  cases event with
  | connected =>
    simp only [heed]
    split <;> exact ⟨rfl, rfl⟩
  | _ => exact ⟨rfl, rfl⟩

omit [Transport τ] in
/-- **What a worker makes of an event of its link**, if it has one. -/
theorem heed_heeded (worker : Worker τ) (active : worker.link ≠ .idle) (event : LinkEvent) :
    Heeded worker.link (worker.heed event).1.link (worker.heed event).2.1 := by
  cases event with
  | connected =>
    by_cases connecting : worker.link = .connecting
    · simp only [heed, if_pos connecting]
      rw [connecting]
      exact .acknowledged
    · simp only [heed, if_neg connecting]
      exact .passed _ (by simp)
  | disconnected reason =>
    simp only [heed]
    cases link : worker.link with
    | idle => exact absurd link active
    | connecting => exact .failed reason
    | up => exact .lost reason
  | subscribeAck success => exact .passed _ fun _ mem => by rw [List.mem_singleton.mp mem]; rfl
  | message topic payload qos retain => exact .passed _ fun _ mem => absurd mem List.not_mem_nil

end Worker

namespace Session

variable {τ : Type} [Transport τ]

omit [Transport τ] in
/-- What is queued is dropped only by a worker that stops. -/
theorem settleWorker_commands (s : Session τ) {worker : Worker τ} (reports : List Report)
    (running : worker.footing ≠ .stopped) :
    (s.settleWorker worker reports).commands = s.commands := by
  simp [settleWorker, Worker.isStopped, running]

/-- The worker takes a command exactly when it waits and a command does. -/
theorem takeCommand?_eq_some_iff {s s' : Session τ} :
    s.takeCommand? = some s' ↔
      s.worker.footing = .waiting ∧ ∃ command rest, s.commands = command :: rest ∧
        s' = settleWorker { s with commands := rest } (s.worker.take command).1
          (s.worker.take command).2 := by
  unfold takeCommand?
  cases footing : s.worker.footing with
  | waiting =>
    cases commands : s.commands with
    | nil => simp
    | cons command rest =>
      simp only [List.cons.injEq, true_and, Option.some.injEq]
      constructor
      · rintro rfl
        exact ⟨command, rest, ⟨rfl, rfl⟩, rfl⟩
      · rintro ⟨_, _, ⟨rfl, rfl⟩, rfl⟩
        rfl
  | stuck => simp
  | stopped => simp

/-- **What taking a command does**, if the worker waits afterwards. -/
theorem takeCommand?_waiting {s s' : Session τ} (made : s.takeCommand? = some s')
    (waiting : s'.worker.footing = .waiting) :
    ∃ command, s.commands = command :: s'.commands ∧ s'.state = s.state ∧
      s'.subscriptions = s.subscriptions ∧ s'.worker = (s.worker.take command).1 ∧
      s'.reports = s.reports ++ (s.worker.take command).2 ∧
      Worker.Served s.worker.link command s'.worker.link (s.worker.take command).2 := by
  obtain ⟨-, command, rest, commands, rfl⟩ := takeCommand?_eq_some_iff.mp made
  have after : (s.worker.take command).1.footing = .waiting := waiting
  refine ⟨command, ?_, rfl, rfl, rfl, rfl, (Worker.take_waiting after).2⟩
  rw [commands, settleWorker_commands _ _ (by simp [after])]

/-- **What taking a command does** if the worker gets stuck over it. -/
theorem takeCommand?_stuck {s s' : Session τ} (made : s.takeCommand? = some s')
    (stuck : s'.worker.footing = .stuck) :
    ∃ command, s.commands = command :: s'.commands ∧ s'.state = s.state ∧
      s'.reports = s.reports ∧
      (s.worker.link ≠ .idle ∨ command.event? = some .connectRequested) := by
  obtain ⟨waiting, command, rest, commands, rfl⟩ := takeCommand?_eq_some_iff.mp made
  have after : (s.worker.take command).1.footing = .stuck := stuck
  have silent : (s.worker.take command).2 = [] := Worker.take_silent waiting (by simp [after])
  refine ⟨command, ?_, rfl, ?_, Worker.take_stuck waiting after⟩
  · rw [commands, settleWorker_commands _ _ (by simp [after])]
  · simp [settleWorker, silent]

/-- The worker takes an event only when it waits, has a link, and the transport yields one. -/
theorem takeEvent?_inversion {s s' : Session τ} (made : s.takeEvent? = some s') :
    s.worker.footing = .waiting ∧ s.worker.link ≠ .idle ∧
      ∃ event transport worker reports messages,
        Transport.poll s.worker.transport = some (event, transport) ∧
        Worker.heed { s.worker with transport } event = (worker, reports, messages) ∧
        s' = settleWorker { s with buffer := messages.foldl Batch.Buffer.enqueue s.buffer }
          worker reports := by
  unfold takeEvent? at made
  split at made
  · contradiction
  · rename_i footing active
    split at made
    · contradiction
    · rename_i event transport polled
      refine ⟨footing, active, event, transport, _, _, _, polled, rfl, ?_⟩
      exact (Option.some.inj made).symm
  · contradiction

/-- **What taking an event does.** The worker waits before and after, and has a link before. -/
theorem takeEvent?_eq_some {s s' : Session τ} (made : s.takeEvent? = some s') :
    s.worker.footing = .waiting ∧ s'.worker.footing = .waiting ∧ s.worker.link ≠ .idle ∧
      s'.state = s.state ∧ s'.commands = s.commands ∧ s'.subscriptions = s.subscriptions ∧
      (∃ event, Transport.poll s.worker.transport = some (event, s'.worker.transport)) ∧
      ∃ reports, s'.reports = s.reports ++ reports ∧
        Worker.Heeded s.worker.link s'.worker.link reports := by
  obtain ⟨waiting, active, event, transport, worker, reports, messages, polled, heeded, rfl⟩ :=
    takeEvent?_inversion made
  have kept := Worker.heed_kept { s.worker with transport } event
  have moved := Worker.heed_heeded { s.worker with transport } active event
  rw [heeded] at kept moved
  obtain ⟨footing, transported⟩ := kept
  have still : worker.footing = .waiting := footing.trans waiting
  refine ⟨waiting, still, active, rfl, ?_, rfl, ⟨event, ?_⟩, reports, rfl, moved⟩
  · exact settleWorker_commands _ _ (by simp [still])
  · exact polled.trans (congrArg (fun transport => some (event, transport)) transported.symm)

/-! ## What the ticker, the clock and the network do -/

/-- What goes on in the background leaves state, commands, subscriptions, footing and link alone, and
adds at most reports that stand for no event. -/
structure Undisturbed (s s' : Session τ) : Prop where
  state : s'.state = s.state
  commands : s'.commands = s.commands
  subscriptions : s'.subscriptions = s.subscriptions
  footing : s'.worker.footing = s.worker.footing
  link : s'.worker.link = s.worker.link
  reports : ∃ reports, (∀ report ∈ reports, report.event? = none) ∧
    s'.reports = s.reports ++ reports

omit [Transport τ] in
@[simp] theorem handOver_worker (s : Session τ) : s.handOver.worker = s.worker := by
  unfold handOver
  split <;> rfl

omit [Transport τ] in
/-- Handing a batch over adds a report of inbound messages at most. -/
theorem handOver_undisturbed (s : Session τ) : Undisturbed s s.handOver := by
  unfold handOver
  split
  · exact ⟨rfl, rfl, rfl, rfl, rfl, [], by simp, by simp⟩
  · rename_i batch buffer taken
    refine ⟨rfl, rfl, rfl, rfl, rfl, [.messages batch], ?_, rfl⟩
    intro report mem
    rw [List.mem_singleton.mp mem]
    rfl

/-- **What a move in the background does.** -/
theorem undisturbed_of_move? {s s' : Session τ} {move : Move τ}
    (background : move.isBackground = true) (made : s.move? move = some s') : Undisturbed s s' := by
  cases move with
  | ask | takeCommand | takeEvent | dispatch => cases background
  | tick =>
    simp only [move?, tick?, Option.ite_none_right_eq_some] at made
    obtain rfl := Option.some.inj made.2
    exact handOver_undisturbed s
  | finishTicker =>
    simp only [move?, finishTicker?, Option.ite_none_right_eq_some] at made
    obtain rfl := Option.some.inj made.2
    obtain ⟨state, commands, subscriptions, footing, link, reports⟩ := handOver_undisturbed s
    exact ⟨state, commands, subscriptions, footing, link, reports⟩
  | elapse ms =>
    obtain rfl := Option.some.inj made
    exact ⟨rfl, rfl, rfl, rfl, rfl, [], by simp, by simp⟩
  | drift change =>
    obtain rfl := Option.some.inj made
    exact ⟨rfl, rfl, rfl, rfl, rfl, [], by simp, by simp [drift]⟩

omit [Transport τ] in
/-- A follower only changes what it has read. -/
theorem follow_frame (s : Session τ) : ∃ follower, s.follow = { s with follower } := by
  unfold follow
  split <;> exact ⟨_, rfl⟩

omit [Transport τ] in
/-- Handing over only changes the buffer and the reports. -/
theorem handOver_frame (s : Session τ) : ∃ buffer reports, s.handOver = { s with buffer, reports } := by
  unfold handOver
  split <;> exact ⟨_, _, rfl⟩

/-- Only a ticker that has been told to stop stops, after it has handed over what is buffered, and no
other ticker changes in a move. -/
theorem ticker_of_move? {s s' : Session τ} {move : Move τ} (made : s.move? move = some s') :
    s'.ticker = s.ticker ∨ s.ticker = .stopping ∧ s' = { s.handOver with ticker := .stopped } := by
  cases move with
  | ask request =>
    obtain rfl := Option.some.inj made
    obtain ⟨_, _, _, _, _, _, _, same⟩ := ask_frame s request
    exact .inl (by rw [same])
  | takeCommand =>
    obtain ⟨-, _, _, -, rfl⟩ := takeCommand?_eq_some_iff.mp made
    exact .inl rfl
  | takeEvent =>
    obtain ⟨-, -, _, _, _, _, _, -, -, rfl⟩ := takeEvent?_inversion made
    exact .inl rfl
  | dispatch =>
    obtain ⟨report, rest, -, rfl⟩ := dispatch?_eq_some_iff.mp made
    obtain ⟨_, _, _, _, _, _, same⟩ := dispatch_frame { s with reports := rest } report
    exact .inl (by rw [same])
  | tick =>
    obtain ⟨-, made⟩ := Option.ite_none_right_eq_some.mp made
    obtain rfl := Option.some.inj made
    obtain ⟨_, _, same⟩ := handOver_frame s
    exact .inl (by rw [same])
  | finishTicker =>
    obtain ⟨stopping, made⟩ := Option.ite_none_right_eq_some.mp made
    obtain rfl := Option.some.inj made
    exact .inr ⟨stopping, rfl⟩
  | elapse ms =>
    obtain rfl := Option.some.inj made
    exact .inl rfl
  | drift change =>
    obtain rfl := Option.some.inj made
    exact .inl rfl

/-! ## A worker that does not wait never waits again -/

/-- No move changes whose session it is and how it is set up, nor opens a session that has been closed,
or closes one. -/
theorem fixed_of_move? {s s' : Session τ} {move : Move τ} (made : s.move? move = some s') :
    s'.profile = s.profile ∧ s'.settings = s.settings ∧ s'.closed = s.closed := by
  cases move with
  | ask request =>
    obtain rfl := Option.some.inj made
    obtain ⟨_, _, _, _, _, _, _, same⟩ := ask_frame s request
    rw [same]
    exact ⟨rfl, rfl, rfl⟩
  | takeCommand =>
    obtain ⟨-, _, _, -, rfl⟩ := takeCommand?_eq_some_iff.mp made
    exact ⟨rfl, rfl, rfl⟩
  | takeEvent =>
    obtain ⟨-, -, _, _, _, _, _, -, -, rfl⟩ := takeEvent?_inversion made
    exact ⟨rfl, rfl, rfl⟩
  | dispatch =>
    obtain ⟨report, rest, -, rfl⟩ := dispatch?_eq_some_iff.mp made
    obtain ⟨_, _, _, _, _, _, same⟩ := dispatch_frame { s with reports := rest } report
    rw [same]
    exact ⟨rfl, rfl, rfl⟩
  | tick =>
    obtain ⟨-, made⟩ := Option.ite_none_right_eq_some.mp made
    obtain rfl := Option.some.inj made
    obtain ⟨_, _, same⟩ := handOver_frame s
    rw [same]
    exact ⟨rfl, rfl, rfl⟩
  | finishTicker =>
    obtain ⟨-, made⟩ := Option.ite_none_right_eq_some.mp made
    obtain rfl := Option.some.inj made
    obtain ⟨_, _, same⟩ := handOver_frame s
    rw [same]
    exact ⟨rfl, rfl, rfl⟩
  | elapse ms =>
    obtain rfl := Option.some.inj made
    exact ⟨rfl, rfl, rfl⟩
  | drift change =>
    obtain rfl := Option.some.inj made
    exact ⟨rfl, rfl, rfl⟩

/-- No move opens a session that has been closed, or closes one. -/
theorem closed_of_move? {s s' : Session τ} {move : Move τ} (made : s.move? move = some s') :
    s'.closed = s.closed :=
  (fixed_of_move? made).2.2

/-- Only a worker that waits changes its footing. -/
theorem footing_of_move? {s s' : Session τ} {move : Move τ} (made : s.move? move = some s') :
    s'.worker.footing = s.worker.footing ∨ s.worker.footing = .waiting := by
  cases move with
  | ask request =>
    obtain rfl := Option.some.inj made
    exact .inl (by rw [ask_worker])
  | takeCommand => exact .inr (takeCommand?_eq_some_iff.mp made).1
  | takeEvent => exact .inr (takeEvent?_eq_some made).1
  | dispatch =>
    obtain ⟨report, -, worker, -⟩ := dispatch?_eq_some made
    exact .inl (by rw [worker])
  | tick | finishTicker | elapse | drift =>
    exact .inl (undisturbed_of_move? rfl made).footing

/-- **A worker that does not wait never waits again**: no move brings it back. -/
theorem waiting_of_move? {s s' : Session τ} {move : Move τ} (made : s.move? move = some s')
    (waiting : s'.worker.footing = .waiting) : s.worker.footing = .waiting :=
  (footing_of_move? made).elim (fun same => same.symm.trans waiting) id

end Session

end MqttSessions
