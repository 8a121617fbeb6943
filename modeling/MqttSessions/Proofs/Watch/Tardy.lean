import MqttSessions.Proofs.Closing.Announced
import MqttSessions.Proofs.Session.Agreement
import MqttSessions.Proofs.Session.Inbound
import MqttSessions.Watch

/-! # A session whose ticker may be held up

The ticker takes what is buffered and then hands it over, and in between others may move. What it has taken
is neither buffered nor reported then.

* **`Tardy`**: a session whose ticker may be held up between taking a batch and handing it over, with its
  moves (**`Tardy.move?`**) and runs (**`Tardy.run?`**);
* **`Tardy.take_hand`** and **`Tardy.run?_whole`**: a ticker that is not held up does in its two moves what it
  does in one, and a session with such a ticker runs as without it;
* **`Tardy.quiet_of_background`**: what the ticker does, in one move or in two;
* **`Tardy.inbound_of_move?`**: no message is lost, doubled or reordered, with the batch that the ticker holds
  between those that are reported and what is buffered;
* **`Lookout`**: such a session and a watch on it, with what can happen to them (**`Lookout.step?`**). -/

namespace MqttSessions

open Session (Undisturbed Standing)

/-- Whether a move is the ticker's. -/
def Session.Move.isTicker {τ : Type} : Session.Move τ → Bool
  | .tick => true
  | .finishTicker => true
  | _ => false

/-- A session, and the batch that its ticker has taken and not handed over yet. -/
structure Tardy (τ : Type) where
  session : Session τ
  held : Option (List Message) := none

namespace Tardy

/-- A move of a party. The ticker may make its move in two parts. -/
inductive Move (τ : Type) where
  /-- A move that is made in one. -/
  | whole (move : Session.Move τ)
  /-- The ticker takes what is buffered. -/
  | take
  /-- The ticker hands over what it has taken. -/
  | hand

variable {τ : Type}

/-- The event of the connection that a move stands for. -/
def Move.event? : Move τ → Option ConnectionEvent
  | .whole move => move.event?
  | .take => none
  | .hand => none

/-- Whether a move is the ticker's, the clock's or the network's. -/
def Move.isBackground : Move τ → Bool
  | .whole move => move.isBackground
  | .take => true
  | .hand => true

/-- A new session. -/
def create (profile : Profile) (transport : τ) (settings : SessionSettings) : Tardy τ where
  session := .create profile transport settings

/-- The batches that the ticker is to hand over if nothing more comes in. -/
def pending (t : Tardy τ) : List (List Message) := t.held.toList ++ t.session.buffer.take.1.toList

/-- What has come in and has not been reported: what the ticker holds, and then what is buffered. -/
def unreported (t : Tardy τ) : List Message := t.held.getD [] ++ t.session.buffer.messages

/-- What has come in and has not been announced. -/
def unannounced (t : Tardy τ) : List Message := t.session.traffic.underway.flatten ++ t.unreported

/-- All that has come in, oldest first. -/
def inbound (t : Tardy τ) : List Message := t.session.traffic.delivered.flatten ++ t.unannounced

variable [Transport τ]

/-- One move of one party, `none` if that party has nothing to do or is held up. -/
def move? (t : Tardy τ) : Move τ → Option (Tardy τ)
  | .whole move =>
    if move.isTicker && t.held.isSome then none
    else (t.session.move? move).map fun session => { t with session }
  | .take =>
    if t.session.ticker = .running ∧ t.held = none then
      match t.session.buffer.take with
      | (none, _) => none
      | (some batch, buffer) => some ⟨{ t.session with buffer }, some batch⟩
    else none
  | .hand =>
    t.held.map fun batch => ⟨{ t.session with reports := t.session.reports ++ [.messages batch] }, none⟩

/-- Moves made one after the other; `none` if one of them cannot be made. -/
def run? : Tardy τ → List (Move τ) → Option (Tardy τ)
  | t, [] => some t
  | t, move :: rest => (t.move? move).bind (run? · rest)

/-- **A run keeps whatever each of its moves keeps**, for the moves that are allowed in it. -/
theorem run?_induct (Keeps : Tardy τ → Prop) (Allowed : Move τ → Prop)
    (step : ∀ {t t' : Tardy τ} {move : Move τ}, Allowed move → Keeps t → t.move? move = some t' → Keeps t')
    {t t' : Tardy τ} {moves : List (Move τ)} (allowed : ∀ move ∈ moves, Allowed move) (start : Keeps t)
    (run : t.run? moves = some t') : Keeps t' := by
  induction moves generalizing t with
  | nil => exact Option.some.inj run ▸ start
  | cons move rest ih =>
    obtain ⟨next, made, remaining⟩ := Option.bind_eq_some_iff.mp run
    obtain ⟨first, others⟩ := List.forall_mem_cons.mp allowed
    exact ih others (step first start made) remaining

/-- A move that is made in one is a move of the session, and if it is the ticker's it has not been held up. -/
theorem whole_of_move? {t t' : Tardy τ} {move : Session.Move τ} (made : t.move? (.whole move) = some t') :
    (move.isTicker = true → t.held = none) ∧
      ∃ s, t.session.move? move = some s ∧ t' = { t with session := s } := by
  obtain ⟨free, made⟩ := Option.ite_none_left_eq_some.mp made
  obtain ⟨s, moved, rfl⟩ := Option.map_eq_some_iff.mp made
  exact ⟨fun ticks => by simpa [ticks] using free, s, moved, rfl⟩

/-- **A ticker that is not held up** takes a batch and hands it over as it does in one move. -/
theorem take_hand {t : Tardy τ} (free : t.held = none) (full : t.session.buffer.messages ≠ []) :
    (t.move? .take).bind (·.move? .hand) = t.move? (.whole .tick) := by
  obtain ⟨s, held⟩ := t
  obtain rfl : held = none := free
  simp only [move?, Session.move?, Session.tick?, Session.handOver, Batch.Buffer.take]
  cases buffered : s.buffer.messages with
  | nil => exact absurd buffered full
  | cons message rest => by_cases running : s.ticker = .running <;> simp [running]

/-- **A session whose ticker is never held up** runs as it does without anything being held. -/
theorem run?_whole (s : Session τ) (moves : List (Session.Move τ)) :
    (⟨s, none⟩ : Tardy τ).run? (moves.map .whole) = (s.run? moves).map (⟨·, none⟩) := by
  induction moves generalizing s with
  | nil => rfl
  | cons move rest ih =>
    have one : (⟨s, none⟩ : Tardy τ).move? (.whole move) = (s.move? move).map (⟨·, none⟩) := by simp [move?]
    rw [List.map_cons, run?, one, Session.run?_cons]
    cases s.move? move with
    | none => rfl
    | some next => exact ih next

end Tardy

/-! ## What others do -/

namespace Session

variable {τ : Type} [Transport τ] {s s' : Session τ}

omit [Transport τ] in
/-- What goes on in the background keeps a session standing. -/
theorem Standing.undisturbed (standing : s.Standing) (same : Undisturbed s s') : s'.Standing where
  fits waiting := FitsWith.undisturbed (standing.fits (same.footing ▸ waiting)) same
  stalled stuck := (standing.stalled (same.footing ▸ stuck)).undisturbed same

omit [Transport τ] in
/-- The dispatcher leaves the buffer alone. -/
theorem dispatch?_buffer (made : s.dispatch? = some s') : s'.buffer = s.buffer := by
  obtain ⟨report, rest, -, rfl⟩ := dispatch?_eq_some_iff.mp made
  obtain ⟨_, _, _, _, _, _, kept⟩ := dispatch_frame { s with reports := rest } report
  rw [kept]

/-- Nobody but a ticker takes anything out of the buffer, and what the worker hears is put into it. -/
theorem buffered_of_move? {move : Move τ} (other : move.isBackground = false) (made : s.move? move = some s') :
    s'.buffer.messages = s.buffer.messages ++ s.heardBy move := by
  cases move with
  | ask request =>
    obtain rfl := Option.some.inj made
    obtain ⟨_, _, _, _, _, _, _, same⟩ := ask_frame s request
    rw [same]
    exact (List.append_nil _).symm
  | takeCommand =>
    obtain ⟨-, _, _, -, rfl⟩ := takeCommand?_eq_some_iff.mp made
    exact (List.append_nil _).symm
  | takeEvent =>
    obtain ⟨-, -, event, transport, worker, reports, messages, polled, heeded, rfl⟩ :=
      takeEvent?_inversion made
    have came := (heed_messages { s.worker with transport } event).2
    rw [heeded] at came
    obtain rfl : messages = event.message?.toList := came
    have heard : s.heardBy .takeEvent = event.message?.toList := by rw [heardBy, polled]; rfl
    rw [heard]
    change (event.message?.toList.foldl Batch.Buffer.enqueue s.buffer).messages = _
    cases event.message? with
    | none => exact (List.append_nil _).symm
    | some message => exact Batch.Buffer.messages_enqueue s.buffer message
  | dispatch =>
    rw [dispatch?_buffer made]
    exact (List.append_nil _).symm
  | tick | finishTicker | elapse | drift => cases other

end Session

/-! ## What the ticker does -/

/-- Handing over reports what is buffered, and nothing is buffered any more. -/
theorem Session.handOver_batches {τ : Type} (s : Session τ) :
    s.handOver.reports = s.reports ++ s.buffer.take.1.toList.map .messages ∧
      s.handOver.buffer.take.1 = none := by
  unfold handOver Batch.Buffer.take
  cases buffered : s.buffer.messages with
  | nil => simp [buffered]
  | cons message rest => exact ⟨rfl, rfl⟩

namespace Tardy

variable {τ : Type} {t t' : Tardy τ}

/-- Between two moments nothing has been announced and nothing reported of the connection, but the first of
the batches that were to be handed over may have been. The others still are to be. -/
structure Quiet (t t' : Tardy τ) : Prop where
  state : t'.session.state = t.session.state
  feed : t'.session.feed = t.session.feed
  handed : ∃ batches, t'.session.reports = t.session.reports ++ batches.map .messages ∧
    t.pending = batches ++ t'.pending

/-- What is still to be handed over depends on the buffer and on what is held. -/
theorem pending_congr {s : Session τ} (buffer : s.buffer = t.session.buffer) :
    pending { t with session := s } = t.pending := by
  rw [pending, pending, buffer]

/-- A step of the session that does nothing to the buffer and to what is reported and announced. -/
theorem Quiet.of_same {s : Session τ} (state : s.state = t.session.state) (feed : s.feed = t.session.feed)
    (reports : s.reports = t.session.reports) (buffer : s.buffer = t.session.buffer) :
    Quiet t { t with session := s } where
  state := state
  feed := feed
  handed := ⟨[], reports.trans (List.append_nil _).symm, (pending_congr buffer).symm⟩

variable [Transport τ]

/-- **What the ticker does, in one move or in two**, and what clock and network do. -/
theorem quiet_of_background {move : Move τ} (background : move.isBackground = true)
    (made : t.move? move = some t') : Undisturbed t.session t'.session ∧ Quiet t t' := by
  cases move with
  | whole move =>
    obtain ⟨free, s, moved, rfl⟩ := whole_of_move? made
    have same := Session.undisturbed_of_move? background moved
    cases move with
    | ask | takeCommand | takeEvent | dispatch => cases background
    | tick | finishTicker =>
      obtain ⟨-, moved⟩ := Option.ite_none_right_eq_some.mp moved
      obtain rfl := Option.some.inj moved
      obtain ⟨reports, emptied⟩ := t.session.handOver_batches
      obtain ⟨buffer, others, frame⟩ := Session.handOver_frame t.session
      -- nothing is held, so what is handed over is all that was to be
      refine ⟨same, same.state, by rw [frame], t.session.buffer.take.1.toList, reports, ?_⟩
      simp [pending, free rfl, emptied]
    | elapse | drift =>
      obtain rfl := Option.some.inj moved
      exact ⟨same, .of_same rfl rfl rfl rfl⟩
  | take =>
    obtain ⟨⟨-, free⟩, made⟩ := Option.ite_none_right_eq_some.mp made
    split at made
    · cases made
    · rename_i batch buffer taken
      obtain rfl := Option.some.inj made
      have emptied : buffer.take.1 = none := by
        simp only [Batch.Buffer.take] at taken
        split at taken <;> cases taken
        rfl
      -- what is taken is still to be handed over
      refine ⟨⟨rfl, rfl, rfl, rfl, rfl, [], by simp, by simp⟩, rfl, rfl, [], by simp, ?_⟩
      simp [pending, free, taken, emptied]
  | hand =>
    obtain ⟨batch, held, rfl⟩ := Option.map_eq_some_iff.mp made
    refine ⟨⟨rfl, rfl, rfl, rfl, rfl, [.messages batch], ?_, rfl⟩, rfl, rfl, [batch], rfl, ?_⟩
    · intro report mem
      rw [List.mem_singleton.mp mem]
      rfl
    · simp [pending, held]

/-- Only a ticker that takes a batch holds one that was not held before. -/
theorem held_of_move? {move : Move τ} (other : move ≠ .take) (made : t.move? move = some t')
    (held : t'.held ≠ none) : t.held ≠ none := by
  cases move with
  | whole move =>
    obtain ⟨-, s, -, rfl⟩ := whole_of_move? made
    exact held
  | take => exact absurd rfl other
  | hand =>
    obtain ⟨batch, -, rfl⟩ := Option.map_eq_some_iff.mp made
    exact absurd rfl held

/-- What has been announced stays announced. -/
theorem feed_of_move? {move : Move τ} (made : t.move? move = some t') :
    ∃ events : List SessionEvent, t'.session.feed = events.foldl Feed.push t.session.feed := by
  cases move with
  | whole move =>
    obtain ⟨-, s, moved, rfl⟩ := whole_of_move? made
    obtain ⟨events, announced⟩ := Session.announced_of_move? moved
    exact ⟨events, announced.feed⟩
  | take | hand => exact ⟨[], (quiet_of_background rfl made).2.feed⟩

/-- **Every move keeps a session standing.** -/
theorem standing_of_move? {move : Move τ} (standing : t.session.Standing) (made : t.move? move = some t') :
    t'.session.Standing := by
  cases move with
  | whole move =>
    obtain ⟨-, s, moved, rfl⟩ := whole_of_move? made
    exact Session.standing_of_move? standing moved
  | take | hand => exact standing.undisturbed (quiet_of_background rfl made).1

/-- In every run a new session stands. -/
theorem standing_of_run? {profile : Profile} {transport : τ} {settings : SessionSettings}
    {moves : List (Move τ)} (run : (create profile transport settings).run? moves = some t) :
    t.session.Standing :=
  run?_induct (·.session.Standing) (fun _ => True) (fun _ standing made => standing_of_move? standing made)
    (fun _ _ => trivial) (Session.create_standing profile transport settings) run

/-! ## Inbound messages -/

omit [Transport τ] in
/-- What has not been reported are the batches that the ticker is to hand over. -/
theorem pending_flatten (t : Tardy τ) : t.pending.flatten = t.unreported := by
  have buffered : t.session.buffer.take.1.toList.flatten = t.session.buffer.messages := by
    unfold Batch.Buffer.take
    cases messages : t.session.buffer.messages with
    | nil => rfl
    | cons message rest => simp
  rw [pending, unreported, List.flatten_append, buffered]
  cases t.held <;> simp

omit [Transport τ] in
/-- What is handed over was to be handed over before. -/
theorem Quiet.inbound (quiet : Quiet t t') : t'.inbound = t.inbound := by
  obtain ⟨-, feed, batches, reports, pending⟩ := quiet
  have underway : t'.session.traffic.underway = t.session.traffic.underway ++ batches := by
    simp [Session.traffic, reports, List.filterMap_append, List.filterMap_map, Function.comp_def,
      Report.batch?]
  have delivered : t'.session.traffic.delivered = t.session.traffic.delivered := by
    rw [Session.traffic, feed, Session.traffic]
  rw [Tardy.inbound, Tardy.inbound, unannounced, unannounced, ← pending_flatten, ← pending_flatten, pending,
    underway, delivered, List.flatten_append, List.flatten_append, List.append_assoc]

/-- The inbound message that comes in by a move. -/
def heardBy (t : Tardy τ) : Move τ → List Message
  | .whole move => t.session.heardBy move
  | _ => []

/-- **Nothing is lost, doubled or reordered**, whether the ticker is held up or not. -/
theorem inbound_of_move? {move : Move τ} (made : t.move? move = some t') :
    t'.inbound = t.inbound ++ t.heardBy move := by
  by_cases background : move.isBackground = true
  · have unheard : t.heardBy move = [] := by
      cases move with
      | whole move => cases move <;> first | rfl | cases background
      | take | hand => rfl
    rw [unheard, List.append_nil]
    exact (quiet_of_background background made).2.inbound
  cases move with
  | take | hand => exact absurd rfl background
  | whole move =>
    obtain ⟨-, s, moved, rfl⟩ := whole_of_move? made
    have foreground : move.isBackground = false := Bool.eq_false_iff.mpr background
    have buffered := Session.buffered_of_move? foreground moved
    have whole := (Session.conveyed_of_move? moved).inbound
    -- what is buffered only becomes more, so what is ahead of it stays the same
    rw [Traffic.inbound, Traffic.inbound, show s.traffic.buffered = _ from buffered, ← List.append_assoc] at whole
    have ahead := List.append_cancel_right (List.append_cancel_right whole)
    rw [inbound, inbound, unannounced, unannounced, unreported, unreported, ← List.append_assoc, ahead,
      buffered]
    simp [heardBy]

end Tardy

/-! ## A session that is watched -/

/-- A session whose ticker may be held up, and a watch on it. -/
structure Lookout (τ : Type) where
  tardy : Tardy τ
  watch : Watch

namespace Lookout

/-- Somebody makes a move, or the watch reads on. -/
inductive Act (τ : Type) where
  | move (move : Tardy.Move τ)
  | read

variable {τ : Type}

/-- A watch is started on a session. -/
def start (t : Tardy τ) : Lookout τ := ⟨t, .start t.session.feed⟩

variable [Transport τ]

/-- What an act does, `none` if it cannot be done. Nobody asks for the connection to change. -/
def step? (l : Lookout τ) : Act τ → Option (Lookout τ)
  | .move move =>
    if move.event? = none then (l.tardy.move? move).map fun tardy => { l with tardy } else none
  | .read => (l.watch.read? l.tardy.session.feed).map fun watch => { l with watch }

/-- Acts done one after the other; `none` if one of them cannot be done. -/
def run? : Lookout τ → List (Act τ) → Option (Lookout τ)
  | l, [] => some l
  | l, act :: rest => (l.step? act).bind (run? · rest)

/-- The broker sends something, and the worker hears it. -/
def hearing (event : LinkEvent) : List (Act Rehearsal) :=
  [.move (.whole (.drift (·.queue event))), .move (.whole .takeEvent)]

end Lookout

end MqttSessions
