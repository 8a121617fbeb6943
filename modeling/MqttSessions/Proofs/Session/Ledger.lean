import Mathlib.Data.List.Forall2
import MqttSessions.Proofs.Session.Agreement

/-! # Whose outcome a report is

Commands and reports carry no number that tells which request they go back to. A **`Ledger`** writes
down beside a session which of its callers' requests to connect and to disconnect were accepted, and
which of them each queued command, each link and each queued report goes back to. It only looks on:
its moves are those of the session (**`Ledger.move?_session`**).

The network may hand over events of a link that is no longer the current one; a run in which it never
does is *fenced*. In a fenced run a report that is applied always goes back to the last request of
its kind, and a connection is only ever entered if that request has not been taken back
(**`Ledger.applied_report_owner`**). -/

namespace MqttSessions

open Session

/-- The number of the last accepted request of a kind. Requests are listed last one first, and each
is numbered by how many came before it. -/
def latest (request : ConnectionEvent) : List ConnectionEvent → Option Nat
  | [] => none
  | event :: earlier => if event = request then some earlier.length else latest request earlier

@[simp] theorem latest_cons_self (request : ConnectionEvent) (accepted : List ConnectionEvent) :
    latest request (request :: accepted) = some accepted.length := if_pos rfl

theorem latest_cons_of_ne {request event : ConnectionEvent} (other : request ≠ event)
    (accepted : List ConnectionEvent) :
    latest request (event :: accepted) = latest request accepted := if_neg (Ne.symm other)

/-- A session, the requests to connect and to disconnect it has accepted, last one first, and the
numbers of those requests that its queued commands, its links and its queued reports go back to.
Links are listed last one first. -/
structure Ledger (τ : Type) where
  session : Session τ
  accepted : List ConnectionEvent
  commandOwners : List (Option Nat)
  reportOwners : List (Option Nat)
  links : List (Option Nat)

namespace Ledger

/-- The ledger of a session that has accepted nothing yet. -/
def start {τ : Type} (s : Session τ) : Ledger τ := ⟨s, [], [], [], []⟩

/-- The owners of a queue of some length: what has been there keeps its owner, and what is new has
the owner that is given. -/
def extend (owners : List (Option Nat)) (length : Nat) (owner : Option Nat) : List (Option Nat) :=
  (owners ++ List.replicate (length - owners.length) owner).take length

variable {τ : Type}

/-- The request that is accepted in a move, if one is. -/
def granted? (s : Session τ) : Move τ → Option ConnectionEvent
  | .ask request =>
    match (s.ask request).1 with
    | .ok () => request.event?
    | .error _ => none
  | _ => none

/-- The request that a move goes back to: a caller's move to the request that is accepted in it, a
command taken to the owner of the command, an event taken to the owner of the link it comes from.
The current link has the age 0, the one before it the age 1, and so on. -/
def owner (l : Ledger τ) (age : Nat) : Move τ → Option Nat
  | .ask request => (granted? l.session (.ask request)).map fun _ => l.accepted.length
  | .takeCommand => l.commandOwners.head?.join
  | .takeEvent => l.links[age]?.join
  | _ => none

/-- The owners of the commands that wait once a move has taken one, if it does. -/
def commandsLeft (l : Ledger τ) : Move τ → List (Option Nat)
  | .takeCommand => l.commandOwners.tail
  | _ => l.commandOwners

/-- The owners of the reports that wait once a move has taken one, if it does. -/
def reportsLeft (l : Ledger τ) : Move τ → List (Option Nat)
  | .dispatch => l.reportOwners.tail
  | _ => l.reportOwners

section Transport

variable [Transport τ]

/-- One move of one party, written down. -/
def move? (l : Ledger τ) (move : Move τ) (age : Nat) : Option (Ledger τ) :=
  (l.session.move? move).map fun s =>
    { session := s
      accepted := (granted? l.session move).toList ++ l.accepted
      commandOwners := extend (l.commandsLeft move) s.commands.length (l.owner age move)
      reportOwners := extend (l.reportsLeft move) s.reports.length (l.owner age move)
      links :=
        if l.session.worker.link = .idle ∧ s.worker.link ≠ .idle then l.owner age move :: l.links
        else l.links }

/-- Moves made one after the other, each with the age of the link that an event is taken from. -/
def run? : Ledger τ → List (Move τ × Nat) → Option (Ledger τ)
  | l, [] => some l
  | l, (move, age) :: rest => (l.move? move age).bind (run? · rest)

/-- Writing down changes nothing about a move. -/
theorem move?_session (l : Ledger τ) (move : Move τ) (age : Nat) :
    (l.move? move age).map session = l.session.move? move := by
  rw [move?, Option.map_map]
  exact Option.map_id'

/-- Writing down changes nothing about a run. -/
theorem run?_session (l : Ledger τ) (moves : List (Move τ × Nat)) :
    (l.run? moves).map session = l.session.run? (moves.map Prod.fst) := by
  induction moves generalizing l with
  | nil => rfl
  | cons entry rest ih =>
      obtain ⟨move, age⟩ := entry
      rw [run?, List.map_cons, Session.run?_cons, ← l.move?_session move age]
      cases l.move? move age with
      | none => rfl
      | some next => exact ih next

end Transport

/-! ## What is written down fits what is queued -/

/-- An owner is the last accepted request that an event goes back to. -/
def Belongs (accepted : List ConnectionEvent) (event : ConnectionEvent) (owner : Option Nat) : Prop :=
  ∃ number, latest event.cause accepted = some number ∧ owner = some number

/-- What a request leaves behind belongs to it as long as no other of its kind is accepted. -/
theorem Belongs.cons {accepted : List ConnectionEvent} {event request : ConnectionEvent}
    {owner : Option Nat} (belongs : Belongs accepted event owner) (other : event.cause ≠ request) :
    Belongs (request :: accepted) event owner := by
  unfold Belongs
  rwa [latest_cons_of_ne other]

/-- A request belongs to itself. -/
theorem Belongs.self {accepted : List ConnectionEvent} {request : ConnectionEvent}
    (asked : request = .connectRequested ∨ request = .disconnectRequested) :
    Belongs (request :: accepted) request (some accepted.length) := by
  refine ⟨accepted.length, ?_, rfl⟩
  rcases asked with rfl | rfl <;> exact latest_cons_self _ _

/-- The owners of a queue: whatever in it stands for an event belongs to its owner. -/
def Owned {α : Type} (event? : α → Option ConnectionEvent) (accepted : List ConnectionEvent)
    (queue : List α) (owners : List (Option Nat)) : Prop :=
  List.Forall₂ (fun a owner => ∀ event, event? a = some event → Belongs accepted event owner) queue
    owners

namespace Owned

variable {α : Type} {event? : α → Option ConnectionEvent} {accepted : List ConnectionEvent}
  {queue : List α} {owners : List (Option Nat)}

/-- Owners stay owners while no other request is accepted that something in the queue goes back
to. -/
theorem cons_accepted (owned : Owned event? accepted queue owners) {request : ConnectionEvent}
    (answered : ∀ event ∈ queue.filterMap event?, event.cause ≠ request) :
    Owned event? (request :: accepted) queue owners := by
  induction owned with
  | nil => exact .nil
  | @cons a owner rest others first _ ih =>
      constructor
      · intro event stands
        have inQueue : event ∈ (a :: rest).filterMap event? :=
          List.mem_filterMap.mpr ⟨a, List.mem_cons_self, stands⟩
        exact (first event stands).cons (answered event inQueue)
      · refine ih ?_
        intro event mem
        obtain ⟨b, inRest, stands⟩ := List.mem_filterMap.mp mem
        exact answered event (List.mem_filterMap.mpr ⟨b, List.mem_cons_of_mem _ inRest, stands⟩)

/-- The first of a queue is taken away, and its owner with it. -/
theorem tail {a : α} (owned : Owned event? accepted (a :: queue) owners) :
    Owned event? accepted queue owners.tail := by
  cases owned with
  | cons _ rest => exact rest

/-- The owner of the first of a queue. -/
theorem head {a : α} {event : ConnectionEvent} (owned : Owned event? accepted (a :: queue) owners)
    (stands : event? a = some event) : Belongs accepted event owners.head?.join := by
  cases owned with
  | cons first _ => exact first event stands

/-- A queue of one owner. -/
theorem replicate (queue : List α) {owner : Option Nat}
    (belongs : ∀ a ∈ queue, ∀ event, event? a = some event → Belongs accepted event owner) :
    Owned event? accepted queue (List.replicate queue.length owner) := by
  induction queue with
  | nil => exact .nil
  | cons a rest ih =>
      have others := ih fun b mem => belongs b (List.mem_cons_of_mem _ mem)
      exact List.Forall₂.cons (belongs a List.mem_cons_self) others

/-- Something is queued by one owner. -/
theorem append (owned : Owned event? accepted queue owners) (added : List α) {owner : Option Nat}
    (new : ∀ a ∈ added, ∀ event, event? a = some event → Belongs accepted event owner) :
    Owned event? accepted (queue ++ added)
      (extend owners (queue ++ added).length owner) := by
  have same : queue.length = owners.length := owned.length_eq
  have extended : extend owners (queue ++ added).length owner =
      owners ++ List.replicate added.length owner := by
    rw [extend, List.length_append, same, Nat.add_sub_cancel_left, List.take_of_length_le]
    simp
  rw [extended]
  exact List.rel_append owned (replicate added new)

/-- Something that stands for no event is queued, by whomever. -/
theorem append_silent (owned : Owned event? accepted queue owners) (added : List α)
    (silent : ∀ a ∈ added, event? a = none) (owner : Option Nat) :
    Owned event? accepted (queue ++ added)
      (extend owners (queue ++ added).length owner) :=
  owned.append added fun a mem event stands => by simp [silent a mem] at stands

/-- Nothing is queued. -/
theorem unchanged (owned : Owned event? accepted queue owners) (owner : Option Nat) :
    Owned event? accepted queue (extend owners queue.length owner) := by
  have kept := owned.append_silent [] (by simp) owner
  rwa [List.append_nil] at kept

end Owned

/-! ## What every fenced move keeps -/

/-- What is written down beside a session is right: what is queued belongs to its owner, and so does
the current link, and a connection is only entered or held for a request that has not been taken
back. -/
structure Sound (l : Ledger τ) : Prop where
  standing : l.session.Standing
  wanted : l.session.state = .connecting ∨ l.session.state = .connected →
    l.accepted.head? = some .connectRequested
  reports : Owned Report.event? l.accepted l.session.reports l.reportOwners
  commands : l.session.worker.footing = .waiting →
    Owned Command.event? l.accepted l.session.commands l.commandOwners
  link : l.session.worker.footing = .waiting → l.session.worker.link ≠ .idle →
    Belongs l.accepted .connectRequested l.links.head?.join

theorem start_sound (profile : Profile) (transport : τ) (settings : SessionSettings) :
    (start (create profile transport settings)).Sound where
  standing := create_standing profile transport settings
  wanted := by simp [start, create]
  reports := .nil
  commands _ := .nil
  link _ active := absurd rfl active

variable [Transport τ]

/-- The session of a ledger after a move, and what is written down. -/
theorem move?_eq_some {l l' : Ledger τ} {move : Move τ} {age : Nat}
    (made : l.move? move age = some l') :
    l.session.move? move = some l'.session ∧
      l'.accepted = (granted? l.session move).toList ++ l.accepted ∧
      l'.commandOwners =
        extend (l.commandsLeft move) l'.session.commands.length (l.owner age move) ∧
      l'.reportOwners = extend (l.reportsLeft move) l'.session.reports.length (l.owner age move) ∧
      l'.links =
        if l.session.worker.link = .idle ∧ l'.session.worker.link ≠ .idle then
          l.owner age move :: l.links
        else l.links := by
  obtain ⟨s, moved, rfl⟩ := Option.map_eq_some_iff.mp made
  exact ⟨moved, rfl, rfl, rfl, rfl⟩

omit [Transport τ] in
/-- A request that is accepted makes its transition and queues its command. -/
theorem granted?_ask {s : Session τ} {request : Request} {event : ConnectionEvent}
    (granted : granted? s (.ask request) = some event) :
    (event = .connectRequested ∨ event = .disconnectRequested) ∧ s.worker.footing ≠ .stopped ∧
      s.state.next? event = some (s.ask request).2.state ∧
      ∃ command, command.event? = some event ∧
        (s.ask request).2.commands = s.commands ++ [command] := by
  have asked := ask_asked s request
  simp only [granted?] at granted
  generalize (s.ask request).1 = outcome at asked granted
  cases asked with
  | @granted _ other command stands accepts legal said queued =>
    obtain rfl := Option.some.inj (stands.symm.trans granted)
    exact ⟨Request.event?_asked stands, accepts, legal, command, said, queued⟩
  | passed commands other =>
    cases outcome with
    | error failure => cases granted
    | ok => rw [other rfl] at granted; cases granted
  | forsaken => cases granted

omit [Transport τ] in
/-- A request that is not accepted, or asks for nothing of the connection, leaves a state that was
there before or the disconnected one, and queues nothing that stands for an event. -/
theorem granted?_ask_none {s : Session τ} {request : Request}
    (refused : granted? s (.ask request) = none) :
    ((s.ask request).2.state = s.state ∨ (s.ask request).2.state = .disconnected) ∧
      ∃ commands, (∀ command ∈ commands, command.event? = none) ∧
        (s.ask request).2.commands = s.commands ++ commands := by
  have asked := ask_asked s request
  simp only [granted?] at refused
  generalize (s.ask request).1 = outcome at asked refused
  cases asked with
  | granted stands => rw [stands] at refused; cases refused
  | passed commands other state silent queued => exact ⟨.inl state, commands, silent, queued⟩
  | forsaken stopped state queued => exact ⟨.inr state, [], by simp, by rw [queued, List.append_nil]⟩

/-- An accepted request keeps a ledger sound: it is the last of its kind, and nothing that is queued
goes back to an earlier one. -/
theorem Sound.granted {l l' : Ledger τ} (sound : l.Sound) {request : Request} {age : Nat}
    (made : l.move? (.ask request) age = some l') {event : ConnectionEvent}
    (granted : granted? l.session (.ask request) = some event) : l'.Sound := by
  obtain ⟨moved, accepted, commandOwners, reportOwners, links⟩ := move?_eq_some made
  obtain ⟨asked, accepts, legal, command, said, queued⟩ := granted?_ask granted
  obtain ⟨reported, waited⟩ := sound.standing.answered accepts asked legal
  have worker := ask_worker l.session request
  have reports := ask_reports l.session request
  rw [Option.some.inj moved] at legal queued worker reports
  rw [worker, if_neg fun both => both.2 both.1] at links
  simp only [owner, granted, Option.map_some] at commandOwners reportOwners
  rw [granted] at accepted
  refine ⟨standing_of_move? sound.standing moved, ?_, ?_, ?_, ?_⟩
  · -- the last request
    intro entered
    rcases asked with rfl | rfl
    · rw [accepted]
      rfl
    · -- a request to disconnect leads away from both states
      generalize l.session.state = state, l'.session.state = next at legal entered
      cases state <;> cases legal <;> simp at entered
  · -- the reports, none of which goes back to an earlier request of this kind
    rw [reports, accepted, reportOwners, reports]
    exact (sound.reports.cons_accepted reported).unchanged _
  · -- the commands, among which only the last is of this kind
    intro waiting
    rw [worker] at waiting
    rw [queued, accepted, commandOwners, queued]
    have before := (sound.commands waiting).cons_accepted (waited waiting).1
    refine before.append _ ?_
    intro c mem other stands
    obtain rfl := List.mem_singleton.mp mem
    obtain rfl := Option.some.inj (said.symm.trans stands)
    exact .self asked
  · -- the link, which there is only if the request is not to connect
    intro waiting active
    rw [worker] at waiting active
    rw [accepted, links]
    have other : ConnectionEvent.connectRequested.cause ≠ event :=
      fun same => active ((waited waiting).2 same.symm)
    exact (sound.link waiting active).cons other

/-- A request that is not accepted keeps a ledger sound. -/
theorem Sound.refused {l l' : Ledger τ} (sound : l.Sound) {request : Request} {age : Nat}
    (made : l.move? (.ask request) age = some l')
    (refused : granted? l.session (.ask request) = none) : l'.Sound := by
  obtain ⟨moved, accepted, commandOwners, reportOwners, links⟩ := move?_eq_some made
  obtain ⟨state, commands, silent, queued⟩ := granted?_ask_none refused
  have worker := ask_worker l.session request
  have reports := ask_reports l.session request
  rw [Option.some.inj moved] at state queued worker reports
  rw [worker, if_neg fun both => both.2 both.1] at links
  rw [refused] at accepted
  replace accepted : l'.accepted = l.accepted := accepted
  refine ⟨standing_of_move? sound.standing moved, ?_, ?_, ?_, ?_⟩
  · -- the last request
    intro entered
    rw [accepted]
    rcases state with state | state
    · exact sound.wanted (state ▸ entered)
    · simp [state] at entered
  · -- the reports
    rw [reports, accepted, reportOwners, reports]
    exact sound.reports.unchanged _
  · -- the commands, to which nothing is added that stands for an event
    intro waiting
    rw [worker] at waiting
    rw [queued, accepted, commandOwners, queued]
    exact (sound.commands waiting).append_silent _ silent _
  · -- the link
    intro waiting active
    rw [worker] at waiting active
    rw [accepted, links]
    exact sound.link waiting active

omit [Transport τ] in
/-- What belongs to a request belongs to it also as what came of it. -/
theorem Belongs.of_cause {accepted : List ConnectionEvent} {request event : ConnectionEvent}
    {owner : Option Nat} (belongs : Belongs accepted request owner)
    (same : event.cause = request.cause) : Belongs accepted event owner := by
  unfold Belongs
  rwa [same]

omit [Transport τ] in
/-- What the worker reports about a command goes back to the request that the command goes back
to. -/
theorem served_cause {origin link : Link} {command : Command} {reports : List Report}
    (served : Worker.Served origin command link reports) {report : Report} (mem : report ∈ reports)
    {event : ConnectionEvent} (stands : report.event? = some event) :
    ∃ request, command.event? = some request ∧ event.cause = request.cause := by
  cases served with
  | refused profile reason =>
    obtain rfl := List.mem_singleton.mp mem
    obtain rfl := Option.some.inj stands
    exact ⟨_, rfl, rfl⟩
  | released =>
    obtain rfl := List.mem_singleton.mp mem
    obtain rfl := Option.some.inj stands
    exact ⟨_, rfl, rfl⟩
  | dialed | ignored | passed => exact absurd mem List.not_mem_nil

omit [Transport τ] in
/-- What the worker reports about its link goes back to a request to connect. -/
theorem heeded_cause {origin link : Link} {reports : List Report}
    (heeded : Worker.Heeded origin link reports) {report : Report} (mem : report ∈ reports)
    {event : ConnectionEvent} (stands : report.event? = some event) :
    event.cause = .connectRequested := by
  cases heeded with
  | passed _ other => rw [other report mem] at stands; cases stands
  | acknowledged | failed | lost =>
    obtain rfl := List.mem_singleton.mp mem
    obtain rfl := Option.some.inj stands
    rfl

/-- The worker keeps a ledger sound when it takes a command. -/
theorem Sound.takeCommand {l l' : Ledger τ} (sound : l.Sound) {age : Nat}
    (made : l.move? .takeCommand age = some l') : l'.Sound := by
  obtain ⟨moved, accepted, commandOwners, reportOwners, links⟩ := move?_eq_some made
  replace accepted : l'.accepted = l.accepted := accepted
  obtain ⟨before, command, rest, commands, session⟩ := takeCommand?_eq_some_iff.mp moved
  have owned := sound.commands before
  rw [commands] at owned
  have state : l'.session.state = l.session.state := by rw [session]; rfl
  have reports : l'.session.reports = l.session.reports ++ (l.session.worker.take command).2 := by
    rw [session]; rfl
  have worker : l'.session.worker = (l.session.worker.take command).1 := by rw [session]; rfl
  refine ⟨standing_of_move? sound.standing moved, ?_, ?_, ?_, ?_⟩
  · -- the last request
    rw [state, accepted]
    exact sound.wanted
  · -- the reports, to which the owner of the command adds what came of it
    rw [reports, accepted, reportOwners, reports]
    refine sound.reports.append _ ?_
    intro report mem event stands
    by_cases after : (l.session.worker.take command).1.footing = .waiting
    · obtain ⟨request, said, same⟩ := served_cause (Worker.take_waiting after).2 mem stands
      have mine : Belongs l.accepted request l.commandOwners.head?.join := owned.head said
      exact mine.of_cause same
    · rw [Worker.take_silent before after] at mem
      exact absurd mem List.not_mem_nil
  · -- the commands that are left
    intro waiting
    obtain ⟨taken, queued, -⟩ := takeCommand?_waiting moved waiting
    obtain rfl := (List.cons.inj (commands.symm.trans queued)).2
    rw [accepted, commandOwners]
    exact owned.tail.unchanged _
  · -- the link, which is that of the command if there was none before
    intro waiting active
    have kept := sound.link before
    rw [worker] at waiting active
    have served := (Worker.take_waiting waiting).2
    rw [accepted, links, worker]
    generalize l.session.worker.link = origin at served kept ⊢
    generalize (l.session.worker.take command).1.link = link at served active ⊢
    generalize (l.session.worker.take command).2 = added at served
    cases served with
    | dialed profile =>
      rw [if_pos ⟨rfl, active⟩]
      exact owned.head rfl
    | ignored profile =>
      rw [if_neg fun both => both.2 both.1]
      exact kept active
    | passed =>
      rw [if_neg fun both => both.2 both.1]
      exact kept active
    | refused | released => exact absurd rfl active

/-- The worker keeps a ledger sound when it takes an event of its current link. -/
theorem Sound.takeEvent {l l' : Ledger τ} (sound : l.Sound)
    (made : l.move? .takeEvent 0 = some l') : l'.Sound := by
  obtain ⟨moved, accepted, commandOwners, reportOwners, links⟩ := move?_eq_some made
  replace accepted : l'.accepted = l.accepted := accepted
  obtain ⟨before, -, active, state, commands, -, -, added, reports, heeded⟩ :=
    takeEvent?_eq_some moved
  rw [if_neg fun both => active both.1] at links
  have current := sound.link before active
  have owner : l.owner 0 .takeEvent = l.links.head?.join := by
    rw [Ledger.owner, List.head?_eq_getElem?]
  refine ⟨standing_of_move? sound.standing moved, ?_, ?_, ?_, ?_⟩
  · -- the last request
    rw [state, accepted]
    exact sound.wanted
  · -- the reports, to which the owner of the link adds what came of it
    rw [reports, accepted, reportOwners, reports, owner]
    refine sound.reports.append _ ?_
    intro report mem event stands
    exact current.of_cause (heeded_cause heeded mem stands)
  · -- the commands
    intro _
    rw [commands, accepted, commandOwners, commands]
    exact (sound.commands before).unchanged _
  · -- the link
    intro _ _
    rw [accepted, links]
    exact current

omit [Transport τ] in
/-- What is reported never leads to a state in which a connection is wanted, unless it was wanted
before. -/
theorem wanted_before {state : ConnectionState} {report : Report}
    (entered : (report.event?.elim state fun event => (state.next? event).getD state) = .connecting ∨
      (report.event?.elim state fun event => (state.next? event).getD state) = .connected) :
    state = .connecting ∨ state = .connected := by
  cases report <;> cases state <;> simp_all [Report.event?, ConnectionState.next?]

/-- The dispatcher keeps a ledger sound. -/
theorem Sound.dispatch {l l' : Ledger τ} (sound : l.Sound) {age : Nat}
    (made : l.move? .dispatch age = some l') : l'.Sound := by
  obtain ⟨moved, accepted, commandOwners, reportOwners, links⟩ := move?_eq_some made
  replace accepted : l'.accepted = l.accepted := accepted
  obtain ⟨report, queued, worker, -, commands, state⟩ := dispatch?_eq_some moved
  have owned := sound.reports
  rw [queued] at owned
  rw [worker, if_neg fun both => both.2 both.1] at links
  refine ⟨standing_of_move? sound.standing moved, ?_, ?_, ?_, ?_⟩
  · -- the last request
    rw [state, accepted]
    intro entered
    exact sound.wanted (wanted_before entered)
  · -- the reports that are left
    rw [accepted, reportOwners]
    exact owned.tail.unchanged _
  · -- the commands, to which at most subscriptions are added
    intro waiting
    rw [worker] at waiting
    rw [commands, accepted, commandOwners, commands]
    refine (sound.commands waiting).append_silent _ ?_ _
    exact List.filterMap_eq_nil_iff.mp (restored_event? l.session report)
  · -- the link
    intro waiting active
    rw [worker] at waiting active
    rw [accepted, links]
    exact sound.link waiting active

/-- What goes on in the background keeps a ledger sound. -/
theorem Sound.background {l l' : Ledger τ} (sound : l.Sound) {move : Move τ} {age : Nat}
    (background : move.isBackground = true) (made : l.move? move age = some l') : l'.Sound := by
  obtain ⟨moved, accepted, commandOwners, reportOwners, links⟩ := move?_eq_some made
  obtain ⟨state, commands, -, footing, link, added, silent, reports⟩ :=
    undisturbed_of_move? background moved
  -- such a move accepts and takes nothing
  have written : granted? l.session move = none := by cases move <;> first | rfl | cases background
  have commandsLeft : l.commandsLeft move = l.commandOwners := by
    cases move <;> first | rfl | cases background
  have reportsLeft : l.reportsLeft move = l.reportOwners := by
    cases move <;> first | rfl | cases background
  rw [link, if_neg fun both => both.2 both.1] at links
  rw [written] at accepted
  replace accepted : l'.accepted = l.accepted := accepted
  refine ⟨standing_of_move? sound.standing moved, ?_, ?_, ?_, ?_⟩
  · -- the last request
    rw [state, accepted]
    exact sound.wanted
  · -- the reports, to which at most inbound messages are added
    rw [reports, accepted, reportOwners, reports, reportsLeft]
    exact sound.reports.append_silent added silent _
  · -- the commands
    rw [footing, commands, accepted, commandOwners, commands, commandsLeft]
    intro waiting
    exact (sound.commands waiting).unchanged _
  · -- the link
    rw [footing, link, accepted, links]
    exact sound.link

/-- **Every move keeps a ledger sound**, if no event of an earlier link is taken in it. -/
theorem sound_of_move? {l l' : Ledger τ} {move : Move τ} {age : Nat} (sound : l.Sound)
    (fenced : move = .takeEvent → age = 0) (made : l.move? move age = some l') : l'.Sound := by
  obtain ⟨moved, -⟩ := move?_eq_some made
  cases move with
  | ask request =>
    cases written : granted? l.session (.ask request) with
    | some event => exact sound.granted made written
    | none => exact sound.refused made written
  | takeCommand => exact sound.takeCommand made
  | takeEvent =>
    rw [fenced rfl] at made
    exact sound.takeEvent made
  | dispatch => exact sound.dispatch made
  | tick | finishTicker | elapse | drift => exact sound.background rfl made

/-- **Every fenced run keeps a ledger sound.** -/
theorem sound_of_run? {l l' : Ledger τ} {moves : List (Move τ × Nat)} (sound : l.Sound)
    (fenced : ∀ entry ∈ moves, entry.1 = .takeEvent → entry.2 = 0)
    (run : l.run? moves = some l') : l'.Sound := by
  induction moves generalizing l with
  | nil =>
      obtain rfl := Option.some.inj run
      exact sound
  | cons entry rest ih =>
      obtain ⟨next, made, remaining⟩ := Option.bind_eq_some_iff.mp run
      have kept : next.Sound := sound_of_move? sound (fenced entry List.mem_cons_self) made
      exact ih kept (fun other mem => fenced other (List.mem_cons_of_mem _ mem)) remaining

/-- **What is applied is the outcome of the last request.** In a run in which no event of an earlier
link is taken, a session is connected only if the last request that was accepted is one to connect;
and whenever the next report is applied with effect, it goes back to the last accepted request of its
kind, which has not been taken back if a connection is entered. -/
theorem applied_report_owner {profile : Profile} {transport : τ} {settings : SessionSettings}
    {moves : List (Move τ × Nat)} {l : Ledger τ}
    (run : (start (create profile transport settings)).run? moves = some l)
    (fenced : ∀ entry ∈ moves, entry.1 = .takeEvent → entry.2 = 0) :
    (l.session.state = .connected → l.accepted.head? = some .connectRequested) ∧
      ∀ report rest event state, l.session.reports = report :: rest → report.event? = some event →
        l.session.state.next? event = some state →
          (∃ number, l.reportOwners.head? = some (some number) ∧
            latest event.cause l.accepted = some number) ∧
          (event = .connectSucceeded → l.accepted.head? = some .connectRequested) := by
  have sound := sound_of_run? (start_sound profile transport settings) fenced run
  refine ⟨fun connected => sound.wanted (.inr connected), ?_⟩
  intro report rest event state queued stands legal
  have owned := sound.reports
  rw [queued] at owned
  constructor
  · obtain ⟨number, last, owner⟩ := owned.head stands
    exact ⟨number, Option.join_eq_some_iff.mp owner, last⟩
  · rintro rfl
    -- only an attempt can succeed
    refine sound.wanted (.inl ?_)
    generalize l.session.state = before at legal
    cases before <;> cases legal
    rfl

/-- After a cancelled attempt, the acknowledgment that is about to be applied goes back to the third
request. -/
theorem applied_report_owner_reconnected :
    ∃ l, (start (rehearsed {})).run? (cancelledAttempt.map (·, 0)) = some l ∧
      l.session.reports = [.connected] ∧ l.session.state = .connecting ∧
      l.reportOwners = [some 2] ∧
      (∃ number, l.reportOwners.head? = some (some number) ∧
        latest .connectRequested l.accepted = some number) ∧
      l.accepted.head? = some .connectRequested := by
  obtain ⟨l, run, reports, state, owners⟩ :
      ∃ l, (start (rehearsed {})).run? (cancelledAttempt.map (·, 0)) = some l ∧
        l.session.reports = [.connected] ∧ l.session.state = .connecting ∧
        l.reportOwners = [some 2] := ⟨_, rfl, rfl, rfl, rfl⟩
  have fenced : ∀ entry ∈ cancelledAttempt.map (·, 0), entry.1 = .takeEvent → entry.2 = 0 := by
    intro entry mem _
    obtain ⟨_, -, rfl⟩ := List.mem_map.mp mem
    rfl
  obtain ⟨-, applied⟩ := applied_report_owner run fenced
  obtain ⟨owner, wanted⟩ :=
    applied .connected [] .connectSucceeded .connected reports rfl (by rw [state]; rfl)
  exact ⟨l, run, reports, state, owners, owner, wanted rfl⟩

end Ledger

end MqttSessions
