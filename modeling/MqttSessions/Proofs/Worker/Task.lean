import MqttSessions.Proofs.Session.Wire

/-! # A worker by itself

A worker can be looked at without its session: commands are issued to it in any order, until nobody is
left who could, and its transport answers and yields what it likes. What happens to the worker and what
it asks of its transport is written to a log.

* **`Worker.exchanged`**: the calls that a worker makes about a command, with their answers;
* **`Worker.Task`**: a worker with the queue of its commands and the log, and **`Worker.Task.step?`**, one
  step of the worker, of those who issue commands, or of the network;
* **`Worker.take_handled`**: what comes of a command, as a relation **`Worker.Handled`**;
* **`Worker.Task.stepped_of_step?`**: what one step does to worker and log;
* **`Worker.Task.exists_run?_of_run?`**: what a session's worker does in a run of the session, it can do
  by itself. -/

namespace MqttSessions

/-- The calls made to a transport one after the other, with their answers. -/
def Transport.answered {τ : Type} [Transport τ] : τ → List Call → List (Call × Answer)
  | _, [] => []
  | transport, call :: rest =>
    let (answer, after) := Transport.perform call transport
    (call, answer) :: Transport.answered after rest

/-- Whether a command asks for something to be sent over a link that is up. -/
def Command.isSent : Command → Bool
  | .subscribe .. => true
  | .unsubscribe .. => true
  | .publish .. => true
  | _ => false

/-- Where a worker stands when it is done with a command. -/
def Command.footing : Command → Footing
  | .shutdown => .stopped
  | _ => .waiting

/-- What is to be sent is heard over a link that is up. -/
theorem Command.isHeard_of_isSent {command : Command} (isSent : command.isSent = true) (link : Link) :
    command.isHeard link = (link == .up) := by
  cases command with
  | subscribe | unsubscribe | publish => rfl
  | connect | disconnect | shutdown => cases isSent

/-- Whoever has sent something goes on waiting. -/
theorem Command.footing_of_isSent {command : Command} (isSent : command.isSent = true) :
    command.footing = .waiting := by
  cases command with
  | subscribe | unsubscribe | publish => rfl
  | connect | disconnect | shutdown => cases isSent

/-- What ends a link is heard if there is one. -/
theorem Command.isHeard_of_ends {command : Command} (ends : command.call = .disconnect) (link : Link) :
    command.isHeard link = (link != .idle) := by
  cases command with
  | disconnect | shutdown => rfl
  | connect | subscribe | unsubscribe | publish => cases ends

namespace Worker

variable {τ : Type}

/-! ## What comes of a command -/

/-- A worker whose transport has noted nothing yet. -/
def noted (worker : Worker τ) : Worker (Noted τ) :=
  ⟨worker.footing, worker.link, Noted.of worker.transport⟩

/-- What a worker makes of a command: the calls with their answers, where it stands afterwards, and its
link before and after. -/
inductive Handled (link : Link) : Command → List (Call × Answer) → Footing → Link → Prop
  /-- Nothing is asked of the transport. -/
  | unheard {command : Command} (unheard : command.isHeard link = false) :
      Handled link command [] command.footing link
  /-- A connection attempt has been started. -/
  | dialed (profile : Profile) (idle : link = .idle) :
      Handled link (.connect profile) [(.connect profile, .done)] .waiting .connecting
  /-- A connection attempt could not be started. -/
  | refused (profile : Profile) (error : TransportError) (idle : link = .idle) :
      Handled link (.connect profile) [(.connect profile, .failed error)] .waiting .idle
  /-- The link has been torn down. -/
  | released {command : Command} {answer : Answer} (active : link ≠ .idle)
      (ends : command.call = .disconnect) (safe : answer ≠ .fatal) :
      Handled link command [(.disconnect, answer)] command.footing .idle
  /-- Something has been sent over the link. -/
  | sent {command : Command} {answer : Answer} (up : link = .up) (sent : command.isSent = true)
      (safe : answer ≠ .fatal) : Handled link command [(command.call, answer)] .waiting .up
  /-- The call never answers. -/
  | stuck {command : Command} (heard : command.isHeard link = true) :
      Handled link command [(command.call, .never)] .stuck link
  /-- The call brings the worker down. -/
  | crashed {command : Command} (heard : command.isHeard link = true) :
      Handled link command [(command.call, .fatal)] .stopped link

variable [Transport τ]

/-- The calls that a worker makes about a command, with their answers. -/
def exchanged (worker : Worker τ) (command : Command) : List (Call × Answer) :=
  Transport.answered worker.transport (worker.noted.take command).1.transport.calls

/-- A command that is not heard leads to no call. -/
theorem exchanged_unheard {worker : Worker τ} {command : Command}
    (unheard : command.isHeard worker.link = false) : worker.exchanged command = [] := by
  have noted : (worker.noted.take command).1.transport.calls =
      [] ++ if command.isHeard worker.link then [command.call] else [] := take_calls worker.noted command
  rw [exchanged, noted, unheard]
  rfl

/-- A command that is heard leads to its call. -/
theorem exchanged_heard {worker : Worker τ} {command : Command}
    (heard : command.isHeard worker.link = true) :
    worker.exchanged command =
      [(command.call, (Transport.perform command.call worker.transport).1)] := by
  have noted : (worker.noted.take command).1.transport.calls =
      [] ++ if command.isHeard worker.link then [command.call] else [] := take_calls worker.noted command
  rw [exchanged, noted, heard]
  rfl

/-- A transport that notes its calls notes those that a worker makes about a command. -/
theorem take_calls_exchanged (worker : Worker (Noted τ)) (command : Command) :
    (worker.take command).1.transport.calls =
      worker.transport.calls ++ (worker.unnoted.exchanged command).map Prod.fst := by
  have link : worker.unnoted.link = worker.link := rfl
  rw [take_calls]
  cases heard : command.isHeard worker.link with
  | false =>
    rw [exchanged_unheard (link ▸ heard)]
    rfl
  | true =>
    rw [exchanged_heard (link ▸ heard)]
    rfl

/-- What comes of an attempt to connect. -/
theorem connect_handled {worker : Worker τ} (waiting : worker.footing = .waiting) (profile : Profile) :
    Handled worker.link (.connect profile) (worker.exchanged (.connect profile))
      (worker.connect profile).1.footing (worker.connect profile).1.link := by
  by_cases idle : worker.link = .idle
  · have heard : (Command.connect profile).isHeard worker.link = true := by
      rw [idle]
      rfl
    rw [exchanged_heard heard, connect, if_pos idle, call, Command.call]
    obtain ⟨answer, transport⟩ := Transport.perform (.connect profile) worker.transport
    cases answer with
    | done => exact waiting ▸ .dialed profile idle
    | failed error =>
      simp only [waiting, idle]
      exact .refused profile error rfl
    | never => exact .stuck heard
    | fatal => exact .crashed heard
  · have unheard : (Command.connect profile).isHeard worker.link = false := beq_eq_false_iff_ne.mpr idle
    rw [exchanged_unheard unheard, connect, if_neg idle]
    exact waiting ▸ .unheard unheard

/-- What comes of tearing the link down, for a command that asks for it. -/
theorem teardown_handled {worker : Worker τ} (waiting : worker.footing = .waiting) {command : Command}
    (ends : command.call = .disconnect) :
    Handled worker.link command (worker.exchanged command)
      (if worker.teardown.footing = .waiting then command.footing else worker.teardown.footing)
      worker.teardown.link := by
  have hears := Command.isHeard_of_ends ends worker.link
  by_cases idle : worker.link = .idle
  · have unheard : command.isHeard worker.link = false := by
      rw [hears, idle]
      rfl
    rw [exchanged_unheard unheard, teardown, if_pos idle, if_pos waiting]
    exact .unheard unheard
  · have heard : command.isHeard worker.link = true := by
      rw [hears]
      exact bne_iff_ne.mpr idle
    rw [exchanged_heard heard, ends, teardown, if_neg idle, call]
    obtain ⟨answer, transport⟩ := Transport.perform .disconnect worker.transport
    -- whatever the transport answers, the link is gone
    cases answer with
    | done =>
      rw [if_pos waiting]
      exact .released idle ends (by simp)
    | failed error =>
      rw [if_pos waiting]
      exact .released idle ends (by simp)
    | never => exact ends ▸ .stuck heard
    | fatal => exact ends ▸ .crashed heard

/-- What comes of sending something. -/
theorem send_handled {worker : Worker τ} (waiting : worker.footing = .waiting) {command : Command}
    (isSent : command.isSent = true) :
    Handled worker.link command (worker.exchanged command) (worker.send command.call).footing
      (worker.send command.call).link := by
  have hears := Command.isHeard_of_isSent isSent worker.link
  by_cases up : worker.link = .up
  · have heard : command.isHeard worker.link = true := by
      rw [hears]
      exact beq_iff_eq.mpr up
    rw [exchanged_heard heard, send, if_pos up, call]
    obtain ⟨answer, transport⟩ := Transport.perform command.call worker.transport
    cases answer with
    | done =>
      simp only [waiting, up]
      exact .sent rfl isSent (by simp)
    | failed error =>
      simp only [waiting, up]
      exact .sent rfl isSent (by simp)
    | never => exact .stuck heard
    | fatal => exact .crashed heard
  · have unheard : command.isHeard worker.link = false := by
      rw [hears]
      exact beq_eq_false_iff_ne.mpr up
    rw [exchanged_unheard unheard, send, if_neg up, waiting,
      ← Command.footing_of_isSent isSent]
    exact .unheard unheard

/-- **What comes of a command.** -/
theorem take_handled {worker : Worker τ} (waiting : worker.footing = .waiting) (command : Command) :
    Handled worker.link command (worker.exchanged command) (worker.take command).1.footing
      (worker.take command).1.link := by
  cases command with
  | connect profile => exact connect_handled waiting profile
  | disconnect =>
    have handled := teardown_handled waiting (show Command.disconnect.call = .disconnect from rfl)
    by_cases waits : worker.teardown.footing = .waiting
    · rw [if_pos waits] at handled
      rw [take, waits]
      exact handled
    · rw [if_neg waits] at handled
      exact handled
  | subscribe topic qos => exact send_handled waiting rfl
  | unsubscribe topic => exact send_handled waiting rfl
  | publish topic payload qos retain => exact send_handled waiting rfl
  | shutdown =>
    have handled := teardown_handled waiting (show Command.shutdown.call = .disconnect from rfl)
    by_cases waits : worker.teardown.footing = .waiting
    · rw [if_pos waits] at handled
      simp only [take, if_pos waits]
      exact handled
    · rw [if_neg waits] at handled
      simp only [take, if_neg waits]
      exact handled

omit [Transport τ] in
/-- What an event makes of the link. -/
theorem heed_link (worker : Worker τ) (event : LinkEvent) :
    (worker.heed event).1.link =
      match event with
      | .connected => if worker.link = .connecting then .up else worker.link
      | .disconnected _ => .idle
      | _ => worker.link := by
  cases event with
  | connected =>
    rw [heed]
    split <;> rfl
  | _ => rfl

end Worker

/-! ## A worker and its queue -/

/-- What happens around a worker. -/
inductive Happening where
  /-- The worker takes a command, or finds that no other will come. -/
  | taken (command : Option Command)
  /-- The transport is asked something, and answers. -/
  | called (call : Call) (answer : Answer)
  /-- The transport yields an event. -/
  | polled (event : LinkEvent)
  /-- The worker is stopped from outside. -/
  | aborted
  deriving DecidableEq, Repr

/-- What the worker takes. -/
def Happening.taking? : Happening → Option (Option Command)
  | .taken received => some received
  | _ => none

/-- What the transport is asked. -/
def Happening.call? : Happening → Option Call
  | .called call _ => some call
  | _ => none

namespace Worker

variable {τ : Type}

/-- Some calls with their answers, as they happen. -/
def happened (exchanged : List (Call × Answer)) : List Happening :=
  exchanged.map fun (call, answer) => .called call answer

/-- What a worker has taken: commands, and that no other will come. -/
def takings (log : List Happening) : List (Option Command) := log.filterMap Happening.taking?

/-- What a worker has asked of its transport. -/
def calls (log : List Happening) : List Call := log.filterMap Happening.call?

/-- What is no taking adds nothing to what has been taken. -/
theorem takings_passed (log : List Happening) {happening : Happening}
    (other : happening.taking? = none) : takings (log ++ [happening]) = takings log := by
  rw [takings, List.filterMap_append, List.filterMap_cons_none other, List.filterMap_nil,
    List.append_nil]
  rfl

/-- What is no call adds nothing to the calls. -/
theorem calls_passed (log : List Happening) {happening : Happening} (other : happening.call? = none) :
    calls (log ++ [happening]) = calls log := by
  rw [calls, List.filterMap_append, List.filterMap_cons_none other, List.filterMap_nil,
    List.append_nil]
  rfl

/-- Calls take nothing. -/
theorem takings_taken (log : List Happening) (received : Option Command)
    (exchanged : List (Call × Answer)) :
    takings (log ++ .taken received :: happened exchanged) = takings log ++ [received] := by
  have silent : (happened exchanged).filterMap Happening.taking? = [] := by
    simp [happened, Happening.taking?]
  have takes : (Happening.taken received).taking? = some received := rfl
  rw [takings, List.filterMap_append, List.filterMap_cons_some takes, silent]
  rfl

/-- Taking something is no call. -/
theorem calls_taken (log : List Happening) (received : Option Command)
    (exchanged : List (Call × Answer)) :
    calls (log ++ .taken received :: happened exchanged) = calls log ++ exchanged.map Prod.fst := by
  have made : (happened exchanged).filterMap Happening.call? = exchanged.map Prod.fst := by
    rw [happened, List.filterMap_map, ← List.filterMap_eq_map]
    rfl
  have silent : (Happening.taken received).call? = none := rfl
  rw [calls, List.filterMap_append, List.filterMap_cons_none silent, made]
  rfl

/-- A worker with the commands that wait for it, whether no other will come, and what has happened. -/
structure Task (τ : Type) where
  worker : Worker τ
  queue : List Command
  closed : Bool
  log : List Happening

/-- One step around a worker. The network may do to the transport what it likes. -/
inductive Step (τ : Type) where
  /-- A command is issued. -/
  | issue (command : Command)
  /-- Nobody is left who could issue a command. -/
  | close
  /-- The worker takes a command, or finds that no other will come. -/
  | take
  /-- The worker polls its transport. -/
  | poll
  | drift (change : τ → τ)
  /-- The worker is stopped where it stands. -/
  | abort

/-- The commands issued in some steps. -/
def issued (steps : List (Step τ)) : List Command :=
  steps.filterMap fun
    | .issue command => some command
    | _ => none

namespace Task

/-- A new worker. -/
def start (transport : τ) : Task τ := ⟨.start transport, [], false, []⟩

variable [Transport τ]

/-- The worker does what is asked of it, and shuts down if there is nobody to ask. -/
def handle (task : Task τ) (received : Option Command) : Task τ :=
  let command := received.getD .shutdown
  { task with
    worker := (task.worker.take command).1
    log := task.log ++ .taken received :: happened (task.worker.exchanged command) }

/-- One step, `none` if it cannot be made. The worker polls only over a link. It may do so also while a
command waits, since a command can be issued after the worker has looked for one. -/
def step? (task : Task τ) : Step τ → Option (Task τ)
  | .issue command =>
    if task.closed then none else some { task with queue := task.queue ++ [command] }
  | .close => some { task with closed := true }
  | .take =>
    match task.worker.footing, task.queue with
    | .waiting, command :: rest => some (handle { task with queue := rest } (some command))
    | .waiting, [] => if task.closed then some (task.handle none) else none
    | _, _ => none
  | .poll =>
    match task.worker.footing, task.worker.link with
    | .waiting, .idle => none
    | .waiting, _ =>
      match Transport.poll task.worker.transport with
      | none => none
      | some (event, transport) =>
        some { task with
          worker := ({ task.worker with transport }.heed event).1
          log := task.log ++ [.polled event] }
    | _, _ => none
  | .drift change =>
    some { task with worker := { task.worker with transport := change task.worker.transport } }
  | .abort =>
    if task.worker.isStopped then none
    else some { task with worker := task.worker.stop, log := task.log ++ [.aborted] }

/-- Steps made one after the other; `none` if one of them cannot be made. -/
def run? : Task τ → List (Step τ) → Option (Task τ)
  | task, [] => some task
  | task, step :: rest => (task.step? step).bind (run? · rest)

theorem run?_cons (task : Task τ) (step : Step τ) (rest : List (Step τ)) :
    task.run? (step :: rest) = (task.step? step).bind (run? · rest) := rfl

/-- A step is a run of one. -/
theorem run?_of_step? {task task' : Task τ} {step : Step τ} (made : task.step? step = some task') :
    task.run? [step] = some task' := by
  rw [run?_cons, made]
  rfl

/-- What one step does. -/
inductive Stepped (task : Task τ) : Step τ → Task τ → Prop
  | issued (command : Command) (opened : task.closed = false) :
      Stepped task (.issue command) { task with queue := task.queue ++ [command] }
  | closed : Stepped task .close { task with closed := true }
  | took {command : Command} {rest : List Command} (waiting : task.worker.footing = .waiting)
      (queued : task.queue = command :: rest) :
      Stepped task .take (handle { task with queue := rest } (some command))
  | ended (waiting : task.worker.footing = .waiting) (empty : task.queue = [])
      (closed : task.closed = true) : Stepped task .take (task.handle none)
  | polled {event : LinkEvent} {transport : τ} (waiting : task.worker.footing = .waiting)
      (active : task.worker.link ≠ .idle)
      (yields : Transport.poll task.worker.transport = some (event, transport)) :
      Stepped task .poll
        { task with
          worker := ({ task.worker with transport }.heed event).1
          log := task.log ++ [.polled event] }
  | drifted (change : τ → τ) :
      Stepped task (.drift change)
        { task with worker := { task.worker with transport := change task.worker.transport } }
  | aborted (running : task.worker.footing ≠ .stopped) :
      Stepped task .abort { task with worker := task.worker.stop, log := task.log ++ [.aborted] }

/-- **What one step does.** -/
theorem stepped_of_step? {task task' : Task τ} {step : Step τ} (made : task.step? step = some task') :
    task.Stepped step task' := by
  cases step with
  | issue command =>
    simp only [step?, Option.ite_none_left_eq_some] at made
    obtain ⟨opened, made⟩ := made
    obtain rfl := Option.some.inj made
    exact .issued command (Bool.not_eq_true _ ▸ opened)
  | close =>
    obtain rfl := Option.some.inj made
    exact .closed
  | take =>
    simp only [step?] at made
    split at made
    · rename_i command rest waiting queued
      obtain rfl := Option.some.inj made
      exact .took waiting queued
    · rename_i waiting empty
      obtain ⟨closed, made⟩ := Option.ite_none_right_eq_some.mp made
      obtain rfl := Option.some.inj made
      exact .ended waiting empty closed
    · contradiction
  | poll =>
    simp only [step?] at made
    split at made
    · contradiction
    · rename_i waiting active
      split at made
      · contradiction
      · rename_i event transport yields
        obtain rfl := Option.some.inj made
        exact .polled waiting active yields
    · contradiction
  | drift change =>
    obtain rfl := Option.some.inj made
    exact .drifted change
  | abort =>
    simp only [step?, Option.ite_none_left_eq_some] at made
    obtain ⟨running, made⟩ := made
    obtain rfl := Option.some.inj made
    exact .aborted fun stopped => running (beq_iff_eq.mpr stopped)

/-- Steps made one after the other are a run. -/
theorem run?_append (task : Task τ) (first second : List (Step τ)) :
    task.run? (first ++ second) = (task.run? first).bind (run? · second) := by
  induction first generalizing task with
  | nil => rfl
  | cons step rest ih =>
    rw [List.cons_append, run?_cons, run?_cons, Option.bind_assoc]
    exact Option.bind_congr fun next _ => ih next

/-! ## The worker of a session -/

/-- A worker by itself stands as the worker of a session does and has made the same calls, and as long as
it runs the same commands wait for it. -/
structure StandsFor (task : Task τ) (s : Session (Noted τ)) : Prop where
  worker : task.worker = s.worker.unnoted
  asked : calls task.log = s.worker.transport.calls
  opened : task.closed = false
  queue : s.worker.footing ≠ .stopped → task.queue = s.commands

/-- Commands issued one after the other wait in their order. -/
theorem run?_issue {task : Task τ} (opened : task.closed = false) (commands : List Command) :
    task.run? (commands.map .issue) = some { task with queue := task.queue ++ commands } := by
  induction commands generalizing task with
  | nil => rw [List.append_nil]; rfl
  | cons command rest ih =>
    have issues : task.step? (.issue command) =
        some { task with queue := task.queue ++ [command] } := by
      rw [step?, if_neg (by rw [opened]; decide)]
    have issued := @ih { task with queue := task.queue ++ [command] } opened
    rw [List.append_assoc, List.singleton_append] at issued
    rw [List.map_cons, run?_cons, issues, Option.bind_some, issued]

/-- A session that queues some commands is followed by issuing them. -/
theorem StandsFor.issue {task : Task τ} {s s' : Session (Noted τ)} (stands : task.StandsFor s)
    (worker : s'.worker = s.worker) {commands : List Command}
    (queued : s'.commands = s.commands ++ commands) :
    ∃ steps task', task.run? steps = some task' ∧ task'.StandsFor s' := by
  refine ⟨commands.map .issue, _, run?_issue stands.opened commands, ?_, ?_, stands.opened, ?_⟩
  · rw [worker]
    exact stands.worker
  · rw [worker]
    exact stands.asked
  · intro running
    rw [queued, ← stands.queue (worker ▸ running)]

/-- A session whose worker does nothing is followed by doing nothing. -/
theorem StandsFor.rest {task : Task τ} {s s' : Session (Noted τ)} (stands : task.StandsFor s)
    (worker : s'.worker = s.worker) (queued : s'.commands = s.commands) :
    ∃ steps task', task.run? steps = some task' ∧ task'.StandsFor s' :=
  stands.issue worker (queued.trans (List.append_nil _).symm)

/-- A worker that takes a command makes the same calls by itself. -/
theorem StandsFor.take {task : Task τ} {s s' : Session (Noted τ)} (stands : task.StandsFor s)
    (made : s.takeCommand? = some s') :
    ∃ steps task', task.run? steps = some task' ∧ task'.StandsFor s' := by
  obtain ⟨waiting, command, rest, commands, rfl⟩ := Session.takeCommand?_eq_some_iff.mp made
  have queue : task.queue = command :: rest :=
    (stands.queue (by rw [waiting]; decide)).trans commands
  have footing : task.worker.footing = .waiting := by
    rw [stands.worker]
    exact waiting
  have takes : task.step? .take = some (handle { task with queue := rest } (some command)) := by
    rw [step?, footing, queue]
  refine ⟨[.take], _, run?_of_step? takes, ?_, ?_, stands.opened, fun running => ?_⟩
  · have taken := take_unnoted s.worker command
    rw [← stands.worker] at taken
    exact congrArg Prod.fst taken
  · rw [handle, calls_taken, stands.asked, stands.worker]
    exact (take_calls_exchanged s.worker command).symm
  · exact (Session.settleWorker_commands { s with commands := rest } _ running).symm

/-- A worker that takes an event of its link does the same by itself. -/
theorem StandsFor.poll {task : Task τ} {s s' : Session (Noted τ)} (stands : task.StandsFor s)
    (made : s.takeEvent? = some s') :
    ∃ steps task', task.run? steps = some task' ∧ task'.StandsFor s' := by
  obtain ⟨waiting, active, event, transport, worker, reports, messages, polled, heeded, rfl⟩ :=
    Session.takeEvent?_inversion made
  have yields : Transport.poll task.worker.transport = some (event, transport.inner) := by
    obtain ⟨⟨event', inner⟩, yields, same⟩ := Option.map_eq_some_iff.mp polled
    obtain ⟨rfl, rfl⟩ := Prod.mk.inj same
    rw [stands.worker]
    exact yields
  have polls : task.step? .poll = some { task with
      worker := ({ task.worker with transport := transport.inner }.heed event).1
      log := task.log ++ [.polled event] } := by
    have footing : task.worker.footing = .waiting := by
      rw [stands.worker]
      exact waiting
    have link : task.worker.link = s.worker.link := by
      rw [stands.worker]
      rfl
    rw [step?, footing, link, yields]
    cases link : s.worker.link with
    | idle => exact absurd link active
    | connecting => rfl
    | up => rfl
  have noted := heed_unnoted { s.worker with transport } event
  have kept := (heed_kept { s.worker with transport } event).2
  rw [heeded] at noted kept
  refine ⟨[.poll], _, run?_of_step? polls, ?_⟩
  constructor
  case worker =>
    rw [stands.worker]
    exact congrArg Prod.fst noted
  case asked =>
    have same : worker.transport.calls = s.worker.transport.calls :=
      (congrArg Noted.calls kept).trans (Noted.poll_calls polled)
    have silent : calls (task.log ++ [.polled event]) = calls task.log := calls_passed _ rfl
    exact silent.trans (stands.asked.trans same.symm)
  case opened => exact stands.opened
  case queue =>
    intro running
    have before : s.worker.footing ≠ .stopped := by rw [waiting]; decide
    exact (stands.queue before).trans (Session.settleWorker_commands _ reports running).symm

/-- **Whatever a move of a session does to its worker, the worker can do by itself.** -/
theorem StandsFor.move {task : Task τ} {s s' : Session (Noted τ)} (stands : task.StandsFor s)
    {move : Session.Move τ} (made : s.move? move.noted = some s') :
    ∃ steps task', task.run? steps = some task' ∧ task'.StandsFor s' := by
  cases move with
  | ask request =>
    obtain rfl := Option.some.inj made
    obtain ⟨commands, queued⟩ := Session.ask_commands s request
    exact stands.issue (Session.ask_worker s request) queued
  | takeCommand => exact stands.take made
  | takeEvent => exact stands.poll made
  | dispatch =>
    obtain ⟨report, -, worker, -, commands, -⟩ := Session.dispatch?_eq_some made
    exact stands.issue worker commands
  | tick =>
    obtain ⟨-, made⟩ := Option.ite_none_right_eq_some.mp made
    obtain rfl := Option.some.inj made
    obtain ⟨_, _, same⟩ := Session.handOver_frame s
    rw [same]
    exact stands.rest rfl rfl
  | finishTicker =>
    obtain ⟨-, made⟩ := Option.ite_none_right_eq_some.mp made
    obtain rfl := Option.some.inj made
    obtain ⟨_, _, same⟩ := Session.handOver_frame s
    rw [same]
    exact stands.rest rfl rfl
  | elapse ms =>
    obtain rfl := Option.some.inj made
    exact stands.rest rfl rfl
  | drift change =>
    obtain rfl := Option.some.inj made
    refine ⟨[.drift change], _, rfl, ?_, stands.asked, stands.opened, stands.queue⟩
    rw [stands.worker]
    rfl

/-- What a session's worker does in a run of the session, it can do by itself. -/
theorem StandsFor.run {task : Task τ} {s s' : Session (Noted τ)} (stands : task.StandsFor s)
    {moves : List (Session.Move τ)} (run : s.run? (moves.map Session.Move.noted) = some s') :
    ∃ steps task', task.run? steps = some task' ∧ task'.StandsFor s' := by
  induction moves generalizing task s with
  | nil =>
    obtain rfl := Option.some.inj run
    exact ⟨[], task, rfl, stands⟩
  | cons move rest ih =>
    rw [List.map_cons, Session.run?_cons] at run
    obtain ⟨next, made, remaining⟩ := Option.bind_eq_some_iff.mp run
    obtain ⟨first, between, stepped, standsNext⟩ := stands.move made
    obtain ⟨second, task', ran, standsLast⟩ := ih standsNext remaining
    exact ⟨first ++ second, task', by rw [run?_append, stepped]; exact ran, standsLast⟩

/-- **In every run of a session the worker does what it can do by itself**: some steps of a worker by
itself end with the same worker, and make the same calls. -/
theorem exists_run?_of_run? {profile : Profile} {transport : τ} {settings : SessionSettings}
    {moves : List (Session.Move τ)} {s : Session τ}
    (run : (Session.create profile transport settings).run? moves = some s) :
    ∃ steps task, (start transport).run? steps = some task ∧ task.worker = s.worker ∧
      calls task.log = (Session.create profile transport settings).callsIn moves := by
  obtain ⟨noted, ran, unnoted, made⟩ := Session.noted_of_run? run
  have stands : (start transport).StandsFor (Session.create profile transport settings).noted :=
    ⟨rfl, rfl, rfl, fun _ => rfl⟩
  obtain ⟨steps, task, stepped, last⟩ := stands.run ran
  exact ⟨steps, task, stepped, last.worker.trans (congrArg Session.worker unnoted),
    last.asked.trans made.symm⟩

end Task

end Worker

end MqttSessions
