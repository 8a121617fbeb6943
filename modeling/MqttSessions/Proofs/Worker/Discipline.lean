import MqttSessions.Proofs.Lists
import MqttSessions.Proofs.Worker.Task

/-! # What a worker may ask of its transport

A worker keeps its own view of its link. Whether a link is live can be read off the log: it is live from a
call to connect that is done until the transport reports that it is gone, or is asked to disconnect.

* **`Worker.Live`** and **`Worker.Acknowledged`**: a link is live, and the broker has acknowledged it;
* **`Worker.Stands`**: how a link stands agrees with the log, kept by each step of a worker that waits;
* **`Worker.Permitted`** and **`Worker.Heard`**: no call is made but over a link it can be made over, and
  none is left out that could be made;
* **`Worker.Task.disciplined`**: what the log of every run looks like. -/

namespace MqttSessions

namespace Worker

/-! ## Whether a link is live -/

/-- Whether something that happens ends a link. -/
def ends : Happening → Bool
  | .polled (.disconnected _) => true
  | .called .disconnect _ => true
  | _ => false

/-- A link is live: a call to connect was done, and since then the transport has neither reported that
the connection is gone nor been asked to disconnect. -/
def Live (log : List Happening) : Prop :=
  ∃ before profile after, log = before ++ .called (.connect profile) .done :: after ∧
    ∀ happening ∈ after, ends happening = false

/-- A link is live, and since it was started the transport has reported that the broker acknowledged
it. -/
def Acknowledged (log : List Happening) : Prop :=
  ∃ before profile after, log = before ++ .called (.connect profile) .done :: after ∧
    (∀ happening ∈ after, ends happening = false) ∧ .polled .connected ∈ after

/-- A link that the broker has acknowledged is live. -/
theorem Acknowledged.live {log : List Happening} (acknowledged : Acknowledged log) : Live log := by
  obtain ⟨before, profile, after, parts, lasting, -⟩ := acknowledged
  exact ⟨before, profile, after, parts, lasting⟩

theorem not_live_nil : ¬Live [] := by
  rintro ⟨before, profile, after, parts, -⟩
  simp at parts

/-- A link is live after something has happened if that started it, or did not end it. -/
theorem live_concat {log : List Happening} {happening : Happening} :
    Live (log ++ [happening]) ↔
      (∃ profile, happening = .called (.connect profile) .done) ∨
        Live log ∧ ends happening = false := by
  constructor
  · rintro ⟨before, profile, after, parts, lasting⟩
    rcases append_singleton_eq_append_cons.mp parts with ⟨mid, rfl, rfl⟩ | ⟨-, rfl, -⟩
    · rw [List.forall_mem_append, List.forall_mem_singleton] at lasting
      exact .inr ⟨⟨before, profile, mid, rfl, lasting.1⟩, lasting.2⟩
    · exact .inl ⟨profile, rfl⟩
  · rintro (⟨profile, rfl⟩ | ⟨⟨before, profile, after, rfl, lasting⟩, lasts⟩)
    · exact ⟨log, profile, [], rfl, fun _ mem => absurd mem List.not_mem_nil⟩
    · refine ⟨before, profile, after ++ [happening], by simp, ?_⟩
      rw [List.forall_mem_append, List.forall_mem_singleton]
      exact ⟨lasting, lasts⟩

/-- A link is acknowledged after something has happened if it was and that did not end it, or if it was
live and that is its acknowledgment. -/
theorem acknowledged_concat {log : List Happening} {happening : Happening} :
    Acknowledged (log ++ [happening]) ↔
      Acknowledged log ∧ ends happening = false ∨ Live log ∧ happening = .polled .connected := by
  constructor
  · rintro ⟨before, profile, after, parts, lasting, reported⟩
    rcases append_singleton_eq_append_cons.mp parts with ⟨mid, rfl, rfl⟩ | ⟨-, -, rfl⟩
    · rw [List.forall_mem_append, List.forall_mem_singleton] at lasting
      rcases List.mem_append.mp reported with mem | mem
      · exact .inl ⟨⟨before, profile, mid, rfl, lasting.1, mem⟩, lasting.2⟩
      · exact .inr ⟨⟨before, profile, mid, rfl, lasting.1⟩, (List.mem_singleton.mp mem).symm⟩
    · exact absurd reported List.not_mem_nil
  · have longer {before after : List Happening} {profile : Profile}
        (lasting : ∀ happening ∈ after, ends happening = false) (lasts : ends happening = false)
        (reported : .polled .connected ∈ after ++ [happening]) :
        Acknowledged (before ++ .called (.connect profile) .done :: after ++ [happening]) := by
      refine ⟨before, profile, after ++ [happening], by simp, ?_, reported⟩
      rw [List.forall_mem_append, List.forall_mem_singleton]
      exact ⟨lasting, lasts⟩
    rintro (⟨⟨before, profile, after, rfl, lasting, reported⟩, lasts⟩ |
      ⟨⟨before, profile, after, rfl, lasting⟩, rfl⟩)
    · exact longer lasting lasts (List.mem_append_left _ reported)
    · exact longer lasting rfl (by simp)

/-- How a link stands agrees with what has happened. -/
structure Stands (link : Link) (log : List Happening) : Prop where
  live : link ≠ .idle ↔ Live log
  acknowledged : link = .up ↔ Acknowledged log

theorem stands_nil : Stands .idle [] where
  live := iff_of_false (by simp) not_live_nil
  acknowledged := iff_of_false (by simp) fun acknowledged => not_live_nil acknowledged.live

/-- Whether something that happens has nothing to do with whether a link is live. -/
def isNeutral : Happening → Bool
  | .called (.connect _) .done => false
  | .called .disconnect _ => false
  | .polled .connected => false
  | .polled (.disconnected _) => false
  | _ => true

/-- What neither starts nor acknowledges nor ends a link leaves it as it stands. -/
theorem Stands.passed {link : Link} {log : List Happening} (stands : Stands link log)
    {happening : Happening} (neutral : isNeutral happening = true) :
    Stands link (log ++ [happening]) := by
  have starts : ∀ profile, happening ≠ .called (.connect profile) .done := by
    rintro profile rfl
    cases neutral
  have acknowledges : happening ≠ .polled .connected := by
    rintro rfl
    cases neutral
  have lasts : ends happening = false := by
    unfold ends
    split
    · cases neutral
    · cases neutral
    · rfl
  constructor
  · rw [live_concat, stands.live]
    simp [starts, lasts]
  · rw [acknowledged_concat, stands.acknowledged]
    simp [acknowledges, lasts]

/-- A link that is started is not acknowledged. -/
theorem Stands.dialed {log : List Happening} (stands : Stands .idle log) (profile : Profile) :
    Stands .connecting (log ++ [.called (.connect profile) .done]) where
  live := by
    rw [live_concat]
    simp
  acknowledged := by
    have idle : ¬Acknowledged log := fun acknowledged => by simpa using stands.acknowledged.mpr acknowledged
    rw [acknowledged_concat]
    simp [idle]

/-- A link that is live can be acknowledged. -/
theorem Stands.acknowledge {link : Link} {log : List Happening} (stands : Stands link log)
    (active : link ≠ .idle) : Stands .up (log ++ [.polled .connected]) where
  live := by
    rw [live_concat]
    simp [stands.live.mp active, ends]
  acknowledged := by
    rw [acknowledged_concat]
    simp [stands.live.mp active]

/-- What ends a link leaves none. -/
theorem stands_ended (log : List Happening) {happening : Happening} (final : ends happening = true) :
    Stands .idle (log ++ [happening]) where
  live := by
    rw [live_concat]
    refine iff_of_false (by simp) ?_
    rintro (⟨profile, rfl⟩ | ⟨-, lasts⟩)
    · cases final
    · exact absurd final (by simp [lasts])
  acknowledged := by
    rw [acknowledged_concat]
    refine iff_of_false (by simp) ?_
    rintro (⟨-, lasts⟩ | ⟨-, rfl⟩)
    · exact absurd final (by simp [lasts])
    · cases final

/-! ## What a worker asks for -/

/-- The call that something taken can lead to. If no other command will come, the worker shuts down. -/
def callOf (received : Option Command) : Call := (received.getD .shutdown).call

/-- Whether a call can be made after what has happened: a connection attempt if no link is live, its end
if one is, and all else once it is acknowledged. -/
def Allowed (log : List Happening) : Call → Prop
  | .connect _ => ¬Live log
  | .disconnect => Live log
  | .subscribe .. => Acknowledged log
  | .unsubscribe .. => Acknowledged log
  | .publish .. => Acknowledged log

/-- A command is heard over a link over which its call can be made. -/
theorem Stands.allowed {link : Link} {log : List Happening} (stands : Stands link log)
    {command : Command} (heard : command.isHeard link = true) : Allowed log command.call := by
  cases command with
  | connect profile =>
    have idle : link = .idle := beq_iff_eq.mp heard
    exact fun live => stands.live.mpr live idle
  | disconnect => exact stands.live.mp (bne_iff_ne.mp heard)
  | shutdown => exact stands.live.mp (bne_iff_ne.mp heard)
  | subscribe topic qos => exact stands.acknowledged.mp (beq_iff_eq.mp heard)
  | unsubscribe topic => exact stands.acknowledged.mp (beq_iff_eq.mp heard)
  | publish topic payload qos retain => exact stands.acknowledged.mp (beq_iff_eq.mp heard)

/-- What is to be sent over an acknowledged link is heard. -/
theorem Stands.heard {link : Link} {log : List Happening} (stands : Stands link log)
    {command : Command} (isSent : command.isSent = true) (acknowledged : Acknowledged log) :
    command.isHeard link = true := by
  have up : link = .up := stands.acknowledged.mpr acknowledged
  rw [Command.isHeard_of_isSent isSent]
  exact beq_iff_eq.mpr up

/-- Each call is made right after its command was taken, and can be made. -/
def Permitted (log : List Happening) : Prop :=
  ∀ before call answer after, log = before ++ .called call answer :: after →
    Allowed before call ∧
      ∃ earlier received, before = earlier ++ [.taken received] ∧ callOf received = call

/-- What is no call is permitted. -/
theorem Permitted.passed {log : List Happening} (permitted : Permitted log) {happening : Happening}
    (silent : happening.call? = none) : Permitted (log ++ [happening]) := by
  intro before call answer after parts
  rcases append_singleton_eq_append_cons.mp parts with ⟨mid, within, -⟩ | ⟨-, same, -⟩
  · exact permitted before call answer mid within
  · rw [← same] at silent
    cases silent

/-- A call that can be made, right after its command was taken. -/
theorem Permitted.called {log : List Happening} (permitted : Permitted log)
    (received : Option Command) (answer : Answer)
    (allowed : Allowed (log ++ [.taken received]) (callOf received)) :
    Permitted (log ++ [.taken received] ++ [.called (callOf received) answer]) := by
  have taken : Permitted (log ++ [.taken received]) := permitted.passed rfl
  intro before call answer' after parts
  rcases append_singleton_eq_append_cons.mp parts with ⟨mid, within, -⟩ | ⟨rfl, same, -⟩
  · exact taken before call answer' mid within
  · obtain ⟨rfl, -⟩ := Happening.called.inj same
    exact ⟨allowed, log, received, rfl, rfl⟩

/-- Whatever is to be sent and was taken over an acknowledged link is sent. -/
def Heard (log : List Happening) : Prop :=
  ∀ before command after, log = before ++ .taken (some command) :: after →
    command.isSent = true → Acknowledged before →
      ∃ answer rest, after = .called command.call answer :: rest

/-- What has been heard stays heard, whatever comes after it. -/
theorem Heard.append {log more : List Happening} (heard : Heard log)
    (later : ∀ mid command after, more = mid ++ .taken (some command) :: after →
      command.isSent = true → Acknowledged (log ++ mid) →
        ∃ answer rest, after = .called command.call answer :: rest) : Heard (log ++ more) := by
  intro before command after parts isSent acknowledged
  rcases append_eq_append_cons.mp parts with ⟨mid, within, rfl⟩ | ⟨mid, rfl, within⟩
  · obtain ⟨answer, rest, rfl⟩ := heard before command mid within isSent acknowledged
    exact ⟨answer, rest ++ more, rfl⟩
  · exact later mid command after within isSent acknowledged

/-- What is not taken need not be heard. -/
theorem Heard.passed {log : List Happening} (heard : Heard log) {happening : Happening}
    (other : happening.taking? = none) : Heard (log ++ [happening]) := by
  refine heard.append fun mid command after parts => ?_
  rcases List.append_eq_singleton_iff.mp parts.symm with ⟨-, same⟩ | ⟨-, none⟩
  · rw [← (List.cons.inj same).1] at other
    cases other
  · cases none

/-- Something is taken that is not to be sent, or is taken without an acknowledged link. -/
theorem Heard.unheard {log : List Happening} (heard : Heard log) {received : Option Command}
    (idle : ∀ command, received = some command → command.isSent = true → ¬Acknowledged log) :
    Heard (log ++ [.taken received]) := by
  refine heard.append fun mid command after parts isSent acknowledged => ?_
  rcases List.append_eq_singleton_iff.mp parts.symm with ⟨rfl, same⟩ | ⟨-, none⟩
  · rw [List.append_nil] at acknowledged
    have taken := Happening.taken.inj (List.cons.inj same).1
    exact absurd acknowledged (idle command taken.symm isSent)
  · cases none

/-- Something is taken, and its call is made. -/
theorem Heard.called {log : List Happening} (heard : Heard log) (received : Option Command)
    (answer : Answer) :
    Heard (log ++ [.taken received, .called (callOf received) answer]) := by
  refine heard.append fun mid command after parts _ _ => ?_
  cases mid with
  | nil =>
    obtain ⟨same, rfl⟩ := List.cons.inj parts
    obtain rfl := Happening.taken.inj same
    exact ⟨answer, [], rfl⟩
  | cons first mid =>
    -- the call is not taken
    have last := (List.cons.inj parts).2
    rcases List.append_eq_singleton_iff.mp last.symm with ⟨-, same⟩ | ⟨-, none⟩
    · cases (List.cons.inj same).1
    · cases none

/-! ## What a step keeps -/

/-- Nothing that has happened keeps a worker from stopping of its own accord: no call has brought it
down, and nobody has stopped it. -/
def Unharmed (log : List Happening) : Prop :=
  (∀ call, .called call .fatal ∉ log) ∧ .aborted ∉ log

/-- What has happened is harmless if what happened before and what has happened since are. -/
theorem unharmed_append {log more : List Happening} :
    Unharmed (log ++ more) ↔ Unharmed log ∧ Unharmed more := by
  simp only [Unharmed, List.mem_append, not_or]
  constructor
  · rintro ⟨calls, running⟩
    exact ⟨⟨fun call => (calls call).1, running.1⟩, fun call => (calls call).2, running.2⟩
  · rintro ⟨⟨calls, running⟩, calls', running'⟩
    exact ⟨fun call => ⟨calls call, calls' call⟩, running, running'⟩

/-- Nothing is harmed by a command whose calls bring nobody down. -/
theorem unharmed_taken {received : Option Command} {exchanged : List (Call × Answer)} :
    Unharmed (.taken received :: happened exchanged) ↔ ∀ call, (call, .fatal) ∉ exchanged := by
  simp [Unharmed, happened]

/-- A command leads to no call, or to its own. -/
theorem Handled.cases {link link' : Link} {command : Command} {exchanged : List (Call × Answer)}
    {footing : Footing} (handled : Handled link command exchanged footing link') :
    command.isHeard link = false ∧ exchanged = [] ∨
      command.isHeard link = true ∧ ∃ answer, exchanged = [(command.call, answer)] := by
  cases handled with
  | unheard unheard => exact .inl ⟨unheard, rfl⟩
  | dialed profile idle => exact .inr ⟨beq_iff_eq.mpr idle, _, rfl⟩
  | refused profile error idle => exact .inr ⟨beq_iff_eq.mpr idle, _, rfl⟩
  | released active ends safe =>
    refine .inr ⟨?_, _, by rw [ends]⟩
    rw [Command.isHeard_of_ends ends]
    exact bne_iff_ne.mpr active
  | sent up sent safe =>
    refine .inr ⟨?_, _, rfl⟩
    rw [Command.isHeard_of_isSent sent]
    exact beq_iff_eq.mpr up
  | stuck heard => exact .inr ⟨heard, _, rfl⟩
  | crashed heard => exact .inr ⟨heard, _, rfl⟩

/-- A worker that goes on waiting was not told to shut down, and no call has brought it down. -/
theorem Handled.waiting {link link' : Link} {command : Command} {exchanged : List (Call × Answer)}
    (handled : Handled link command exchanged .waiting link') :
    command ≠ .shutdown ∧ ∀ call, (call, .fatal) ∉ exchanged := by
  generalize same : Footing.waiting = footing at handled
  cases handled with
  | unheard =>
    refine ⟨?_, fun _ mem => absurd mem List.not_mem_nil⟩
    rintro rfl
    cases same
  | dialed | refused => exact ⟨by simp, by simp⟩
  | released active ends safe =>
    refine ⟨?_, by simpa using Ne.symm safe⟩
    rintro rfl
    cases same
  | sent up sent safe =>
    refine ⟨?_, by simpa using Ne.symm safe⟩
    rintro rfl
    cases sent
  | stuck | crashed => cases same

/-- A worker that stops of its own accord has no link. -/
theorem Handled.stopped {link link' : Link} {command : Command} {exchanged : List (Call × Answer)}
    (handled : Handled link command exchanged .stopped link')
    (safe : ∀ call, (call, .fatal) ∉ exchanged) : link' = .idle := by
  generalize same : Footing.stopped = footing at handled
  cases handled with
  | unheard unheard =>
    cases command with
    | shutdown => exact of_not_not (bne_iff_ne.not.mp (Bool.eq_false_iff.mp unheard))
    | _ => cases same
  | released => rfl
  | crashed => exact absurd (List.mem_singleton.mpr rfl) (safe _)
  | dialed | refused | sent | stuck => cases same

/-- **What comes of a command keeps the link as it stands in agreement with the log.** -/
theorem Stands.handled {link link' : Link} {log : List Happening} (stands : Stands link log)
    (received : Option Command) {command : Command} {exchanged : List (Call × Answer)}
    {footing : Footing} (handled : Handled link command exchanged footing link')
    (answered : footing ≠ .stuck) (safe : ∀ call, (call, .fatal) ∉ exchanged) :
    Stands link' (log ++ .taken received :: happened exchanged) := by
  have taken : Stands link (log ++ [.taken received]) := stands.passed rfl
  rw [← List.singleton_append, ← List.append_assoc]
  cases handled with
  | unheard =>
    rw [happened, List.map_nil, List.append_nil]
    exact taken
  | dialed profile idle => exact (idle ▸ taken).dialed profile
  | refused profile error idle => exact (idle ▸ taken).passed rfl
  | released => exact stands_ended _ rfl
  | sent up sent =>
    subst up
    -- what is sent neither starts a link nor ends it
    cases command with
    | connect | disconnect | shutdown => cases sent
    | subscribe | unsubscribe | publish => exact taken.passed rfl
  | stuck => exact absurd rfl answered
  | crashed => exact absurd (List.mem_singleton.mpr rfl) (safe _)

/-- A worker is in step with what has happened. -/
structure InStep (footing : Footing) (link : Link) (log : List Happening) : Prop where
  unharmed : footing = .waiting → Unharmed log
  stands : footing ≠ .stuck → Unharmed log → Stands link log
  rests : footing = .stopped → Unharmed log → link = .idle
  goesOn : footing = .waiting → ∀ received ∈ takings log, received.getD .shutdown ≠ .shutdown
  last : ∀ received ∈ (takings log).dropLast, received.getD .shutdown ≠ .shutdown
  permitted : Permitted log
  heard : Heard log
  inOrder : (calls log).Sublist ((takings log).map callOf)

theorem inStep_start : InStep .waiting .idle [] where
  unharmed _ := ⟨fun _ => List.not_mem_nil, List.not_mem_nil⟩
  stands _ _ := stands_nil
  rests _ _ := rfl
  goesOn _ _ mem := absurd mem List.not_mem_nil
  last _ mem := absurd mem List.not_mem_nil
  permitted before call answer after parts := by simp at parts
  heard before command after parts := by simp at parts
  inOrder := .refl _

/-- **Taking a command keeps a worker in step.** -/
theorem InStep.take {link link' : Link} {log : List Happening} (inStep : InStep .waiting link log)
    {received : Option Command} {exchanged : List (Call × Answer)} {footing : Footing}
    (handled : Handled link (received.getD .shutdown) exchanged footing link') :
    InStep footing link' (log ++ .taken received :: happened exchanged) := by
  have unharmed := inStep.unharmed rfl
  have stands := inStep.stands (by simp) unharmed
  have taken : Stands link (log ++ [.taken received]) := stands.passed rfl
  have safe (unharmed : Unharmed (log ++ .taken received :: happened exchanged)) :
      ∀ call, (call, .fatal) ∉ exchanged :=
    unharmed_taken.mp (unharmed_append.mp unharmed).2
  constructor
  case unharmed =>
    rintro rfl
    exact unharmed_append.mpr ⟨unharmed, unharmed_taken.mpr handled.waiting.2⟩
  case stands => exact fun answered unharmed => stands.handled received handled answered (safe unharmed)
  case rests =>
    rintro rfl unharmed
    exact handled.stopped (safe unharmed)
  case goesOn =>
    rintro rfl other mem
    rw [takings_taken, List.mem_append, List.mem_singleton] at mem
    rcases mem with old | rfl
    · exact inStep.goesOn rfl other old
    · exact handled.waiting.1
  case last =>
    intro other mem
    rw [takings_taken, List.dropLast_concat] at mem
    exact inStep.goesOn rfl other mem
  case permitted =>
    rcases handled.cases with ⟨-, rfl⟩ | ⟨heard, answer, rfl⟩
    · exact inStep.permitted.passed rfl
    · rw [← List.singleton_append, ← List.append_assoc]
      exact inStep.permitted.called received answer (taken.allowed heard)
  case heard =>
    rcases handled.cases with ⟨unheard, rfl⟩ | ⟨-, answer, rfl⟩
    · refine inStep.heard.unheard fun command same isSent acknowledged => ?_
      subst same
      have heard := stands.heard isSent acknowledged
      exact absurd heard (by rw [Option.getD_some] at unheard; simp [unheard])
    · exact inStep.heard.called received answer
  case inOrder =>
    rw [takings_taken, calls_taken, List.map_append]
    refine inStep.inOrder.append ?_
    rcases handled.cases with ⟨-, rfl⟩ | ⟨-, answer, rfl⟩
    · exact List.nil_sublist _
    · exact .refl _

/-- What is neither taken nor a call leaves what has been taken and called alone. -/
theorem InStep.passed {footing footing' : Footing} {link link' : Link} {log : List Happening}
    (inStep : InStep footing link log) {happening : Happening}
    (noTaking : happening.taking? = none) (noCall : happening.call? = none)
    (waits : footing' = .waiting → footing = .waiting ∧ happening ≠ .aborted)
    (stands : footing' ≠ .stuck → Unharmed (log ++ [happening]) → Stands link' (log ++ [happening]))
    (rests : footing' = .stopped → Unharmed (log ++ [happening]) → link' = .idle) :
    InStep footing' link' (log ++ [happening]) := by
  constructor
  case unharmed =>
    intro waiting
    obtain ⟨before, running⟩ := waits waiting
    refine unharmed_append.mpr ⟨inStep.unharmed before, ?_, ?_⟩
    · intro call mem
      rw [← List.mem_singleton.mp mem] at noCall
      cases noCall
    · exact fun mem => running (List.mem_singleton.mp mem).symm
  case stands => exact stands
  case rests => exact rests
  case goesOn =>
    rw [takings_passed log noTaking]
    exact fun waiting => inStep.goesOn (waits waiting).1
  case last =>
    rw [takings_passed log noTaking]
    exact inStep.last
  case permitted => exact inStep.permitted.passed noCall
  case heard => exact inStep.heard.passed noTaking
  case inOrder =>
    rw [takings_passed log noTaking, calls_passed log noCall]
    exact inStep.inOrder

/-- **Heeding an event of the link keeps a worker in step.** -/
theorem InStep.heed {τ : Type} (worker : Worker τ) {log : List Happening}
    (inStep : InStep worker.footing worker.link log) (waiting : worker.footing = .waiting)
    (active : worker.link ≠ .idle) (event : LinkEvent) :
    InStep (worker.heed event).1.footing (worker.heed event).1.link (log ++ [.polled event]) := by
  have stands := inStep.stands (by rw [waiting]; decide) (inStep.unharmed waiting)
  rw [(heed_kept worker event).1, waiting, heed_link]
  rw [waiting] at inStep
  refine inStep.passed rfl rfl (fun _ => ⟨rfl, by simp⟩) (fun _ _ => ?_) (by simp)
  cases event with
  | connected =>
    -- an acknowledgment of a link that is up already changes nothing
    have up : (if worker.link = .connecting then Link.up else worker.link) = .up := by
      cases link : worker.link with
      | idle => exact absurd link active
      | connecting => rfl
      | up => rfl
    rw [up]
    exact stands.acknowledge active
  | disconnected reason => exact stands_ended log rfl
  | subscribeAck success => exact stands.passed rfl
  | message topic payload qos retain => exact stands.passed rfl

namespace Task

variable {τ : Type} [Transport τ]

/-- Each step keeps a worker in step with the log. -/
theorem inStep_of_stepped {task task' : Task τ} {step : Step τ}
    (inStep : InStep task.worker.footing task.worker.link task.log)
    (stepped : task.Stepped step task') :
    InStep task'.worker.footing task'.worker.link task'.log := by
  cases stepped with
  | issued | closed | drifted => exact inStep
  | took waiting queued =>
    have handled := take_handled waiting
    rw [waiting] at inStep
    exact inStep.take (handled _)
  | ended waiting =>
    have handled := take_handled waiting
    rw [waiting] at inStep
    exact inStep.take (handled _)
  | @polled event transport waiting active =>
    exact inStep.heed { task.worker with transport } waiting active event
  | aborted =>
    have harmed : ¬Unharmed (task.log ++ [.aborted]) := fun unharmed => unharmed.2 (by simp)
    exact inStep.passed rfl rfl (by simp [stop]) (fun _ unharmed => absurd unharmed harmed)
      fun _ unharmed => absurd unharmed harmed

/-! ## Commands in their order -/

/-- What a worker has taken and what waits for it is what has been issued, in its order. Only once there
is nothing left, and nobody who could issue more, has the worker found that no other will come. -/
inductive Follows (task : Task τ) (commands : List Command) : Prop
  | going {done : List Command} (taken : takings task.log = done.map some)
      (all : done ++ task.queue = commands) : Follows task commands
  | finished (taken : takings task.log = commands.map some ++ [none]) (empty : task.queue = [])
      (closed : task.closed = true) (ended : task.worker.footing ≠ .waiting) : Follows task commands

omit [Transport τ] in
/-- A step that takes nothing leaves what has been taken and what waits alone. -/
theorem Follows.passed {task task' : Task τ} {commands : List Command} (follows : task.Follows commands)
    (taken : takings task'.log = takings task.log) (queue : task'.queue = task.queue)
    (closed : task.closed = true → task'.closed = true)
    (ended : task'.worker.footing = .waiting → task.worker.footing = .waiting) :
    task'.Follows commands := by
  cases follows with
  | going done all => exact .going (taken.trans done) (queue ▸ all)
  | finished done empty shut stopped =>
    exact .finished (taken.trans done) (queue.trans empty) (closed shut) fun waiting =>
      stopped (ended waiting)

/-- Each step keeps the commands in their order. -/
theorem follows_of_stepped {task task' : Task τ} {step : Step τ} {commands : List Command}
    (follows : task.Follows commands) (stepped : task.Stepped step task') :
    task'.Follows (commands ++ issued [step]) := by
  cases stepped with
  | issued command opened =>
    cases follows with
    | going taken all => exact .going taken (by rw [← all, List.append_assoc]; rfl)
    | finished _ _ closed => exact absurd closed (by rw [opened]; decide)
  | closed => exact (List.append_nil commands).symm ▸ follows.passed rfl rfl (fun _ => rfl) id
  | @took command rest waiting queued =>
    cases follows with
    | @going done taken all =>
      refine @Follows.going τ _ _ (done ++ [command]) ?_ ?_
      · rw [handle, takings_taken, taken, List.map_append]
        rfl
      · rw [← all, queued, List.append_assoc]
        exact (List.append_nil _).symm
    | finished _ _ _ ended => exact absurd waiting ended
  | ended waiting empty closed =>
    cases follows with
    | @going done taken all =>
      rw [empty, List.append_nil] at all
      have same : commands ++ issued [(Step.take : Step τ)] = commands := List.append_nil commands
      refine .finished ?_ empty closed (take_shutdown task.worker)
      rw [handle, takings_taken, taken, all, same]
    | finished _ _ _ ended => exact absurd waiting ended
  | @polled event transport waiting =>
    have kept := (heed_kept { task.worker with transport } event).1
    refine (List.append_nil commands).symm ▸ follows.passed (takings_passed _ rfl) rfl id ?_
    exact fun _ => waiting
  | drifted => exact (List.append_nil commands).symm ▸ follows.passed rfl rfl id id
  | aborted =>
    exact (List.append_nil commands).symm ▸ follows.passed (takings_passed _ rfl) rfl id (by simp [stop])

omit [Transport τ] in
/-- What has been taken is the first of what has been issued, and possibly that no other will come. -/
theorem Follows.isPrefix {task : Task τ} {commands : List Command} (follows : task.Follows commands) :
    takings task.log <+: commands.map some ++ [none] := by
  cases follows with
  | going taken all =>
    rw [taken, ← all, List.map_append, List.append_assoc]
    exact List.prefix_append _ _
  | finished taken => exact taken ▸ List.prefix_rfl

/-! ## Runs -/

/-- **A run keeps a worker in step with the log, and the commands in their order.** -/
theorem kept_of_run? {task task' : Task τ} {steps : List (Step τ)} {commands : List Command}
    (inStep : InStep task.worker.footing task.worker.link task.log) (follows : task.Follows commands)
    (run : task.run? steps = some task') :
    InStep task'.worker.footing task'.worker.link task'.log ∧
      task'.Follows (commands ++ issued steps) := by
  induction steps generalizing task commands with
  | nil =>
    obtain rfl := Option.some.inj run
    exact ⟨inStep, (List.append_nil commands).symm ▸ follows⟩
  | cons step rest ih =>
    rw [run?_cons] at run
    obtain ⟨next, made, remaining⟩ := Option.bind_eq_some_iff.mp run
    have stepped := stepped_of_step? made
    have kept := ih (inStep_of_stepped inStep stepped) (follows_of_stepped follows stepped) remaining
    have all : issued [step] ++ issued rest = issued (step :: rest) := by
      rw [issued, issued, issued, ← List.filterMap_append]
      rfl
    rwa [List.append_assoc, all] at kept

/-- **What a worker asks of its transport.** Whatever commands are issued, whatever the transport answers
and yields, and in whatever order the worker takes commands and events:

* it connects only when no link is live, disconnects only when one is, and subscribes, unsubscribes and
  publishes only over a live link that has been acknowledged; and each call is made right after its own
  command was taken, with the arguments of that command;
* what is taken are the first of the issued commands, in their order, and possibly the end of the queue;
  nothing is taken after a shutdown or that end; and the calls are those of some of what was taken, in
  the same order, so those of some of the issued commands and at most one more, to disconnect;
* a subscribe, unsubscribe or publish command that is taken while an acknowledged link is live leads to
  its call;
* when the worker has stopped, and no call has brought it down and nobody has stopped it, no link is
  live. -/
theorem disciplined {transport : τ} {steps : List (Step τ)} {task : Task τ}
    (run : (start transport).run? steps = some task) :
    (∀ before call answer after, task.log = before ++ .called call answer :: after →
      (match call with
        | .connect _ => ¬Live before
        | .disconnect => Live before
        | _ => Acknowledged before) ∧
      ∃ earlier received, before = earlier ++ [.taken received] ∧
        (received.getD .shutdown).call = call) ∧
      takings task.log <+: (issued steps).map some ++ [none] ∧
      (∀ received ∈ (takings task.log).dropLast, received.getD .shutdown ≠ .shutdown) ∧
      (calls task.log).Sublist ((takings task.log).map fun received => (received.getD .shutdown).call) ∧
      (calls task.log).Sublist ((issued steps).map Command.call ++ [.disconnect]) ∧
      (∀ before command after, task.log = before ++ .taken (some command) :: after →
        command.isSent = true → Acknowledged before →
          ∃ answer rest, after = .called command.call answer :: rest) ∧
      (task.worker.footing = .stopped → (∀ call, .called call .fatal ∉ task.log) →
        .aborted ∉ task.log → ¬Live task.log) := by
  obtain ⟨inStep, follows⟩ := kept_of_run? inStep_start (@Follows.going τ (start transport) [] [] rfl rfl) run
  have some_of_issued : (calls task.log).Sublist ((issued steps).map Command.call ++ [.disconnect]) := by
    have taken := follows.isPrefix.sublist.map callOf
    rw [List.map_append, List.map_map] at taken
    exact inStep.inOrder.trans taken
  refine ⟨?_, follows.isPrefix, inStep.last, inStep.inOrder, some_of_issued, inStep.heard, ?_⟩
  · intro before call answer after parts
    obtain ⟨allowed, own⟩ := inStep.permitted before call answer after parts
    refine ⟨?_, own⟩
    cases call <;> exact allowed
  · intro stopped safe running live
    have stands := inStep.stands (by rw [stopped]; decide) ⟨safe, running⟩
    exact stands.live.mpr live (inStep.rests stopped ⟨safe, running⟩)

/-- Something is to be published too early, is published over a connection, and then nobody is left who
could ask for more. -/
def published : List (Step Rehearsal) :=
  [.issue (.publish "early" [120] .atMostOnce false),
    .issue (.connect (Profile.fresh 1 2 "a" "b" 1883)), .take, .take, .poll,
    .issue (.publish "late" [120] .atMostOnce false), .close, .take, .take]

/-- What comes too early is left out, and in the end the link is torn down. -/
theorem disciplined_published :
    ∃ task, (start { plan := {} }).run? published = some task ∧
      task.log = [.taken (some (.publish "early" [120] .atMostOnce false)),
        .taken (some (.connect (Profile.fresh 1 2 "a" "b" 1883))),
        .called (.connect (Profile.fresh 1 2 "a" "b" 1883)) .done, .polled .connected,
        .taken (some (.publish "late" [120] .atMostOnce false)),
        .called (.publish "late" [120] .atMostOnce false) .done,
        .taken none, .called .disconnect .done] ∧ ¬Live task.log := by
  obtain ⟨task, run, log, stopped⟩ :
      ∃ task, (start { plan := {} }).run? published = some task ∧
        task.log = [.taken (some (.publish "early" [120] .atMostOnce false)),
          .taken (some (.connect (Profile.fresh 1 2 "a" "b" 1883))),
          .called (.connect (Profile.fresh 1 2 "a" "b" 1883)) .done, .polled .connected,
          .taken (some (.publish "late" [120] .atMostOnce false)),
          .called (.publish "late" [120] .atMostOnce false) .done,
          .taken none, .called .disconnect .done] ∧ task.worker.footing = .stopped :=
    ⟨_, rfl, rfl, rfl⟩
  obtain ⟨-, -, -, -, -, -, ends⟩ := disciplined run
  exact ⟨task, run, log, ends stopped (by simp [log]) (by simp [log])⟩

end Task

end Worker

end MqttSessions
