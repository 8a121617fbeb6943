import Mathlib.Data.List.Induction
import MqttSessions.Batch.Ticker

/-! # Everything that is enqueued is handed over, in order

While a ticker is at work, messages are enqueued, whoever holds the buffer takes batches from it, the
shutdown signal is given a value or dropped, the consumer makes up its mind about the next batches, and
the ticker ticks or heeds its signal. These come in any order. Each is one act: a ticker does not wait
between taking a batch and passing it on, so acts are in the order in which the buffer is locked.

* **`Duty`**: a desk, what the signal was last given, and all batches that have been handed over, to
  whoever took them (**`Handed.taken`**) or to the ticker's consumer (**`Handed.flushed`**);
* **`Act`**, **`Duty.step`** and **`Duty.run`**: what may happen, in any order;
* **`Duty.Stops`**: an act stops the ticker, because a batch is refused or because the ticker heeds a
  shutdown or that nobody is left to give the signal;
* **`Duty.Kept`**: batches, put together in order, and then the buffer are what was enqueued;
* **`Duty.enqueued_handed_over`**: this holds after any acts, the ticker stops by such an act and by no
  other, and then nothing is flushed any more;
* **`Duty.desk_run_send_heed`**, **`Duty.desk_run_drop_heed`** and **`Desk.advance_eq`**: what a desk does
  is made of such acts. -/

namespace MqttSessions

namespace Batch

/-! ## Handing over what is buffered -/

namespace Desk

/-- What is buffered as a list of batches: a single one, or none if nothing is buffered. -/
def batches (desk : Desk) : List (List Message) := desk.take.1.toList

/-- The desk once what is buffered has been taken. -/
def cleared (desk : Desk) : Desk := { desk with buffer := .empty }

/-- Whether a ticker is at work. -/
def ticking (desk : Desk) : Bool := desk.ticker.any (·.activity = .running)

/-- Whether a flush would be refused now: there is a batch, and the consumer accepts none. -/
def refuses (desk : Desk) : Bool :=
  desk.ticker.any (·.accepts = some 0) && desk.buffer.messages != []

theorem flatten_batches (desk : Desk) : desk.batches.flatten = desk.buffer.messages := by
  obtain ⟨⟨_ | ⟨first, rest⟩⟩, now, ticker, flushed⟩ := desk
  · rfl
  · simp [batches, take, Buffer.take]

/-- No batch is empty. -/
theorem ne_nil_of_mem_batches {desk : Desk} {batch : List Message} (mem : batch ∈ desk.batches) :
    batch ≠ [] := by
  obtain ⟨⟨_ | ⟨first, rest⟩⟩, now, ticker, flushed⟩ := desk
  · cases mem
  · rw [List.mem_singleton.mp mem]
    exact List.cons_ne_nil first rest

theorem take_snd (desk : Desk) : desk.take.2 = desk.cleared := by
  obtain ⟨⟨_ | ⟨first, rest⟩⟩, now, ticker, flushed⟩ := desk <;> rfl

/-- **What a flush does**: it passes on what is buffered, and is not accepted just if there is a batch
and the consumer accepts none. -/
theorem flush_eq (desk : Desk) (accepts : Option Nat) :
    ∃ left, desk.flush accepts =
      (decide ¬(accepts = some 0 ∧ desk.buffer.messages ≠ []), left,
        { desk.cleared with flushed := desk.flushed ++ desk.batches }) := by
  obtain ⟨⟨_ | ⟨first, rest⟩⟩, now, ticker, flushed⟩ := desk
  · exact ⟨accepts, by simp [flush, take, Buffer.take, batches, cleared, Buffer.empty]⟩
  · obtain _ | _ | left := accepts
    · exact ⟨none, by simp [flush, take, Buffer.take, batches, cleared]⟩
    · exact ⟨some 0, by simp [flush, take, Buffer.take, batches, cleared]⟩
    · exact ⟨some left, by simp [flush, take, Buffer.take, batches, cleared]⟩

/-- Another desk is one once what is buffered has been passed on to the ticker's consumer. -/
structure Flushes (desk after : Desk) : Prop where
  buffer : after.buffer = .empty
  flushed : after.flushed = desk.flushed ++ desk.batches

/-- A ticker at work passes on what is buffered when it ticks, and stops just if that is refused. -/
theorem tick_of_ticking {desk : Desk} (ticking : desk.ticking = true) :
    desk.Flushes desk.tick ∧ desk.tick.ticking = !desk.refuses := by
  obtain ⟨buffer, now, _ | ticker, flushed⟩ := desk
  · cases ticking
  · have running : ticker.activity = .running := by simpa [Desk.ticking] using ticking
    obtain ⟨left, flushes⟩ := flush_eq ⟨buffer, now, some ticker, flushed⟩ ticker.accepts
    simp only [tick, if_pos running, flushes]
    refine ⟨⟨rfl, rfl⟩, ?_⟩
    by_cases none : ticker.accepts = some 0
    · by_cases empty : buffer.messages = [] <;> simp [Desk.ticking, refuses, none, empty]
    · simp [Desk.ticking, refuses, none]

/-- A ticker at work that is stopped passes on what is buffered first. -/
theorem stopTicker_of_ticking {desk : Desk} (ticking : desk.ticking = true) :
    desk.Flushes desk.stopTicker ∧ desk.stopTicker.ticking = false := by
  obtain ⟨buffer, now, _ | ticker, flushed⟩ := desk
  · cases ticking
  · have running : ticker.activity = .running := by simpa [Desk.ticking] using ticking
    obtain ⟨left, flushes⟩ := flush_eq ⟨buffer, now, some ticker, flushed⟩ ticker.accepts
    simp only [stopTicker, if_pos running, flushes]
    exact ⟨⟨rfl, rfl⟩, rfl⟩

/-- A ticker that is not at work does nothing. -/
theorem eq_of_not_ticking {desk : Desk} (idle : desk.ticking = false) :
    desk.tick = desk ∧ desk.stopTicker = desk := by
  obtain ⟨buffer, now, _ | ticker, flushed⟩ := desk
  · exact ⟨rfl, rfl⟩
  · have stopped : ticker.activity ≠ .running := by simpa [Desk.ticking] using idle
    exact ⟨by simp only [tick, if_neg stopped], by simp only [stopTicker, if_neg stopped]⟩

/-- As time passes, a desk ticks, or only its time changes. -/
theorem advance_eq (desk : Desk) (ms : Nat) :
    desk.advance ms = { desk with now := desk.now + ms } ∨
      desk.advance ms = { desk.tick with now := desk.now + ms } := by
  obtain ⟨buffer, now, _ | ticker, flushed⟩ := desk
  · exact .inl rfl
  · by_cases due : ticker.activity = .running ∧ ticker.clock.ticksWithin now (now + ms) = true
    · exact .inr (by simp only [advance, if_pos due])
    · exact .inl (by simp only [advance, if_neg due])

end Desk

/-! ## Acts -/

/-- A batch that has been handed over: to whoever took it, or to the ticker's consumer. -/
inductive Handed where
  | taken (batch : List Message)
  | flushed (batch : List Message)
  deriving DecidableEq, Repr

/-- The batch itself. -/
def Handed.batch : Handed → List Message
  | .taken batch | .flushed batch => batch

/-- The batch if the ticker's consumer was called with it. -/
def Handed.flushed? : Handed → Option (List Message)
  | .taken _ => none
  | .flushed batch => some batch

/-- What may happen to a buffer with a ticker. -/
inductive Act where
  /-- A message is put into the buffer, by whoever holds it. -/
  | enqueue (message : Message)
  /-- A batch is taken from the buffer, by whoever holds it. -/
  | take
  /-- The consumer accepts as many batches from now on, or all. -/
  | answer (accepts : Option Nat)
  /-- The shutdown signal is given a value. -/
  | send (shutdown : Bool)
  /-- The shutdown signal is dropped. -/
  | drop
  /-- The ticker ticks. -/
  | tick
  /-- The ticker looks at its signal. -/
  | heed
  deriving DecidableEq, Repr

/-- The message that an act puts into the buffer. -/
def Act.enqueued? : Act → Option Message
  | .enqueue message => some message
  | _ => none

/-- A desk, the last value of the shutdown signal and whether the ticker has yet to see it, and what has
been handed over. -/
structure Duty where
  desk : Desk
  shutdown : Bool := false
  unseen : Bool := false
  handed : List Handed := []
  deriving Repr

namespace Duty

/-- A buffer with a ticker at work, of which nothing has been handed over. -/
def start (messages : List Message) (ticker : Ticker) (shutdown unseen : Bool) : Duty :=
  { desk := { buffer := ⟨messages⟩, ticker := some { ticker with activity := .running } }
    shutdown, unseen }

/-- Whether nobody is left to give the signal. -/
def abandoned (duty : Duty) : Bool := duty.desk.ticker.any (·.signal = .dropped)

/-- Whether the ticker stops if it looks at its signal: a value that it has not seen counts before that
nobody is left to give one. -/
def told (duty : Duty) : Bool := if duty.unseen then duty.shutdown else duty.abandoned

/-- The duty once its ticker has done something to the desk. -/
def after (duty : Duty) (desk : Desk) : Duty :=
  let fresh := desk.flushed.drop duty.desk.flushed.length
  { duty with desk, handed := duty.handed ++ fresh.map .flushed }

/-- The duty with another ticker. -/
def adjust (duty : Duty) (change : Ticker → Ticker) : Duty :=
  { duty with desk := { duty.desk with ticker := duty.desk.ticker.map change } }

/-- What an act does. A signal is given only to a ticker that is at work. -/
def step (duty : Duty) : Act → Duty
  | .enqueue message => { duty with desk := duty.desk.enqueue message }
  | .take =>
    { duty with
      desk := duty.desk.take.2
      handed := duty.handed ++ duty.desk.take.1.toList.map .taken }
  | .answer accepts => duty.adjust fun ticker => { ticker with accepts }
  | .send shutdown =>
    if duty.desk.ticking && !duty.abandoned then { duty with shutdown, unseen := true } else duty
  | .drop => duty.adjust fun ticker => { ticker with signal := .dropped }
  | .tick => duty.after duty.desk.tick
  | .heed =>
    if duty.desk.ticking then
      { (if duty.told then duty.after duty.desk.stopTicker else duty) with unseen := false }
    else duty

/-- What a sequence of acts does. -/
def run (duty : Duty) (acts : List Act) : Duty := acts.foldl step duty

/-- An act stops the ticker: the ticker ticks and its batch is refused, or it looks at its signal and is
told to stop. -/
def Stops (duty : Duty) (act : Act) : Prop :=
  duty.desk.ticking = true ∧
    (act = .tick ∧ duty.desk.refuses = true ∨ act = .heed ∧ duty.told = true)

theorem run_append (duty : Duty) (first second : List Act) :
    duty.run (first ++ second) = (duty.run first).run second := List.foldl_append

/-- A run of one act more. -/
theorem run_concat (duty : Duty) (acts : List Act) (act : Act) :
    duty.run (acts ++ [act]) = (duty.run acts).step act := run_append duty acts [act]

theorem after_of_flushes {duty : Duty} {desk : Desk} (flushes : duty.desk.Flushes desk) :
    (duty.after desk).handed = duty.handed ++ duty.desk.batches.map .flushed := by
  rw [after, flushes.flushed, List.drop_left]

@[simp] theorem after_self (duty : Duty) : duty.after duty.desk = duty := by
  simp [after]

/-- A change that leaves the ticker's activity alone neither stops nor starts it. -/
theorem ticking_adjust (duty : Duty) {change : Ticker → Ticker}
    (keeps : ∀ ticker, (change ticker).activity = ticker.activity) :
    (duty.adjust change).desk.ticking = duty.desk.ticking := by
  cases there : duty.desk.ticker <;> simp [adjust, Desk.ticking, there, keeps]

@[simp] theorem after_desk (duty : Duty) (desk : Desk) : (duty.after desk).desk = desk := rfl

/-! ## What is handed over -/

/-- What has been enqueued is what has been handed over, in order, and what is buffered. -/
structure Kept (duty : Duty) (enqueued : List Message) : Prop where
  order : (duty.handed.map Handed.batch).flatten ++ duty.desk.buffer.messages = enqueued
  nonempty : ∀ handed ∈ duty.handed, handed.batch ≠ []
  calls : duty.handed.filterMap Handed.flushed? = duty.desk.flushed

/-- What is pending is what has not been handed over. -/
theorem Kept.pending {duty : Duty} {enqueued : List Message} (kept : duty.Kept enqueued) :
    duty.desk.buffer.pending =
      (enqueued.drop (duty.handed.map Handed.batch).flatten.length).length := by
  rw [← kept.order, List.drop_left, Buffer.pending]

/-- Handing over the buffer keeps everything, whoever is handed it. -/
theorem Kept.hand {duty : Duty} {enqueued : List Message} (kept : duty.Kept enqueued)
    {later : Duty} (wrap : List Message → Handed) (same : ∀ batch, (wrap batch).batch = batch)
    (buffer : later.desk.buffer = .empty)
    (handed : later.handed = duty.handed ++ duty.desk.batches.map wrap)
    (calls : later.desk.flushed =
      duty.desk.flushed ++ (duty.desk.batches.map wrap).filterMap Handed.flushed?) :
    later.Kept enqueued where
  order := by
    have unwrapped : (duty.desk.batches.map wrap).map Handed.batch = duty.desk.batches := by
      rw [List.map_map, show Handed.batch ∘ wrap = id from funext same, List.map_id]
    rw [handed, List.map_append, unwrapped, List.flatten_append, Desk.flatten_batches, kept.order, buffer,
      Buffer.messages_empty, List.append_nil]
  nonempty := by
    intro entry mem
    rw [handed, List.mem_append] at mem
    rcases mem with old | new
    · exact kept.nonempty entry old
    · obtain ⟨batch, there, rfl⟩ := List.mem_map.mp new
      rw [same]
      exact Desk.ne_nil_of_mem_batches there
  calls := by rw [handed, List.filterMap_append, kept.calls, calls]

/-- A ticker that passes on the buffer keeps everything. -/
theorem Kept.after {duty : Duty} {enqueued : List Message} (kept : duty.Kept enqueued) {desk : Desk}
    (flushes : duty.desk.Flushes desk) : (duty.after desk).Kept enqueued := by
  refine kept.hand .flushed (fun _ => rfl) flushes.buffer (after_of_flushes flushes) ?_
  rw [after_desk, flushes.flushed, List.filterMap_map,
    show Handed.flushed? ∘ Handed.flushed = some from rfl, List.filterMap_some]

/-- Taking a batch keeps everything. -/
theorem Kept.take {duty : Duty} {enqueued : List Message} (kept : duty.Kept enqueued) :
    (duty.step .take).Kept enqueued := by
  refine kept.hand .taken (fun _ => rfl) ?_ rfl ?_
  · rw [step, Desk.take_snd]
    rfl
  · have unflushed : duty.desk.batches.filterMap (Handed.flushed? ∘ Handed.taken) = [] :=
      List.filterMap_eq_nil_iff.mpr fun _ _ => rfl
    rw [step, Desk.take_snd, List.filterMap_map, unflushed, List.append_nil]
    rfl

/-- Every act keeps what has been enqueued, and may enqueue one message more. -/
theorem Kept.step {duty : Duty} {enqueued : List Message} (kept : duty.Kept enqueued) (act : Act) :
    (duty.step act).Kept (enqueued ++ act.enqueued?.toList) := by
  have silent {act : Act} (none : act.enqueued? = none) : enqueued ++ act.enqueued?.toList = enqueued := by
    rw [none, Option.toList_none, List.append_nil]
  cases act with
  | enqueue message =>
    refine ⟨?_, kept.nonempty, kept.calls⟩
    rw [← kept.order, List.append_assoc]
    rfl
  | take => rw [silent rfl]; exact kept.take
  | answer | drop => rw [silent rfl]; exact ⟨kept.order, kept.nonempty, kept.calls⟩
  | send shutdown =>
    rw [silent rfl, Duty.step]
    split
    · exact ⟨kept.order, kept.nonempty, kept.calls⟩
    · exact kept
  | tick =>
    rw [silent rfl, Duty.step]
    cases ticking : duty.desk.ticking with
    | false => rwa [(Desk.eq_of_not_ticking ticking).1, after_self]
    | true => exact kept.after (Desk.tick_of_ticking ticking).1
  | heed =>
    rw [silent rfl, Duty.step]
    -- looking at the signal hands over only if the ticker is told to stop
    by_cases ticking : duty.desk.ticking = true
    · have passed := kept.after (Desk.stopTicker_of_ticking ticking).1
      rw [if_pos ticking]
      split
      · exact ⟨passed.order, passed.nonempty, passed.calls⟩
      · exact ⟨kept.order, kept.nonempty, kept.calls⟩
    · rwa [if_neg ticking]

/-- A run keeps what was buffered before it and what is enqueued in it. -/
theorem kept_run (messages : List Message) (ticker : Ticker) (shutdown unseen : Bool)
    (acts : List Act) :
    ((start messages ticker shutdown unseen).run acts).Kept (messages ++ acts.filterMap Act.enqueued?) := by
  induction acts using List.reverseRecOn with
  | nil => exact ⟨(List.append_nil messages).symm, by simp [start, run], rfl⟩
  | append_singleton acts act ih =>
    -- the last act enqueues behind all that was enqueued before
    have enqueued : messages ++ (acts ++ [act]).filterMap Act.enqueued? =
        (messages ++ acts.filterMap Act.enqueued?) ++ act.enqueued?.toList := by
      cases act <;> simp [Act.enqueued?]
    rw [run_concat, enqueued]
    exact ih.step act

/-! ## When the ticker stops -/

/-- A ticker at work is stopped by an act just as `Stops` says. -/
theorem ticking_step {duty : Duty} (ticking : duty.desk.ticking = true) (act : Act) :
    (duty.step act).desk.ticking = false ↔ duty.Stops act := by
  cases act with
  | enqueue message => simp [step, Desk.enqueue, Stops, ← ticking, Desk.ticking]
  | take => simp [step, Desk.take, Stops, ← ticking, Desk.ticking]
  | answer accepts => simp [step, Stops, ticking_adjust, ticking]
  | send shutdown => simp only [step]; split <;> simp [Stops, ticking]
  | drop => simp [step, Stops, ticking_adjust, ticking]
  | tick => simp [step, Stops, ticking, (Desk.tick_of_ticking ticking).2]
  | heed =>
    simp only [step, if_pos ticking]
    cases told : duty.told <;> simp [Stops, ticking, told, (Desk.stopTicker_of_ticking ticking).2]

/-- A ticker that has stopped stays so, and flushes nothing. -/
theorem step_of_stopped {duty : Duty} (stopped : duty.desk.ticking = false) (act : Act) :
    (duty.step act).desk.ticking = false ∧ (duty.step act).desk.flushed = duty.desk.flushed := by
  cases act with
  | enqueue | take => exact ⟨stopped, rfl⟩
  | answer | drop => exact ⟨by rw [step, ticking_adjust, stopped]; exact fun _ => rfl, rfl⟩
  | send shutdown => rw [step, stopped]; exact ⟨stopped, rfl⟩
  | tick => rw [step, (Desk.eq_of_not_ticking stopped).1, after_self]; exact ⟨stopped, rfl⟩
  | heed => rw [step, stopped]; exact ⟨stopped, rfl⟩

theorem run_of_stopped {duty : Duty} (stopped : duty.desk.ticking = false) (later : List Act) :
    (duty.run later).desk.ticking = false ∧ (duty.run later).desk.flushed = duty.desk.flushed := by
  induction later using List.reverseRecOn with
  | nil => exact ⟨stopped, rfl⟩
  | append_singleton acts act ih =>
    rw [run_concat]
    obtain ⟨stays, flushed⟩ := step_of_stopped ih.1 act
    exact ⟨stays, flushed.trans ih.2⟩

/-- A ticker that was at work has stopped just if one of the acts stopped it. -/
theorem stopped_iff {duty : Duty} (ticking : duty.desk.ticking = true) (acts : List Act) :
    (duty.run acts).desk.ticking = false ↔
      ∃ before act later, acts = before ++ act :: later ∧ (duty.run before).Stops act := by
  constructor
  · induction acts using List.reverseRecOn with
    | nil => exact fun stopped => Bool.noConfusion (ticking.symm.trans stopped)
    | append_singleton acts last ih =>
      intro stopped
      -- either the last act stopped the ticker, or it had stopped before
      cases earlier : (duty.run acts).desk.ticking with
      | true =>
        rw [run_concat] at stopped
        exact ⟨acts, last, [], rfl, (ticking_step earlier last).mp stopped⟩
      | false =>
        obtain ⟨before, act, later, rfl, stops⟩ := ih earlier
        exact ⟨before, act, later ++ [last], by simp, stops⟩
  · rintro ⟨before, act, later, rfl, stops⟩
    have stopped := (ticking_step stops.1 act).mpr stops
    rw [List.append_cons, run_append, run_concat]
    exact (run_of_stopped stopped later).1

/-- A ticker that stops because of its signal leaves nothing in the buffer. -/
theorem buffer_of_heed {duty : Duty} (stops : duty.Stops .heed) :
    (duty.step .heed).desk.buffer = .empty := by
  obtain ⟨ticking, ⟨no, _⟩ | ⟨_, told⟩⟩ := stops
  · cases no
  · simp only [step, if_pos ticking, if_pos told]
    exact (Desk.stopTicker_of_ticking ticking).1.buffer

/-! ## What a desk does -/

/-- A signal that a desk is given at once takes effect as soon as its ticker looks at it. -/
theorem desk_run_send_heed {duty : Duty} (seen : duty.unseen = false)
    (left : duty.abandoned = true → duty.desk.ticking = false) (shutdown : Bool) :
    (duty.run [.send shutdown, .heed]).desk = (duty.desk.signal shutdown).2 := by
  obtain ⟨⟨buffer, now, _ | ⟨clock, activity, accepts, signal⟩, flushed⟩, last, unseen, handed⟩ := duty
  · rfl
  · cases seen
    cases activity <;> cases signal
    · cases shutdown <;> rfl
    · cases left rfl
    · rfl
    · rfl

/-- A signal that is dropped takes effect as soon as the ticker looks at it. -/
theorem desk_run_drop_heed {duty : Duty} (seen : duty.unseen = false) :
    (duty.run [.drop, .heed]).desk = duty.desk.dropSignal := by
  obtain ⟨⟨⟨messages⟩, now, _ | ⟨clock, activity, accepts, signal⟩, flushed⟩, last, unseen, handed⟩ := duty
  · rfl
  · cases seen
    cases activity with
    | stopped => rfl
    | running => cases messages <;> obtain _ | _ | _ := accepts <;> rfl

/-! ## Any acts -/

/-- **Everything that is enqueued is handed over, in order.** Whatever happens to a buffer with a ticker
at work: the batches that were taken and those that the consumer was called with, put together in the
order in which they left the buffer, and then what is buffered are what was enqueued; no batch is empty;
and what is pending is the rest. The ticker has stopped just if it ticked and the consumer refused its
batch, or it looked at its signal and this said so or nobody was left to give it. From then on the
consumer is called no more, and if it was the signal, everything enqueued until then has been handed
over. -/
theorem enqueued_handed_over (messages : List Message) (ticker : Ticker) (shutdown unseen : Bool)
    (acts : List Act) :
    let first := start messages ticker shutdown unseen
    let duty := first.run acts
    let enqueued := messages ++ acts.filterMap Act.enqueued?
    duty.Kept enqueued ∧
      duty.desk.buffer.pending =
        (enqueued.drop (duty.handed.map Handed.batch).flatten.length).length ∧
      (duty.desk.ticking = false ↔
        ∃ before act later, acts = before ++ act :: later ∧ (first.run before).Stops act) ∧
      ∀ act, duty.Stops act →
        (∀ later, ((duty.step act).run later).desk.ticking = false ∧
          ((duty.step act).run later).desk.flushed = (duty.step act).desk.flushed) ∧
        (act = .heed → (duty.step act).desk.buffer.messages = [] ∧
          ((duty.step act).handed.map Handed.batch).flatten = enqueued) := by
  intro first duty enqueued
  have kept : duty.Kept enqueued := kept_run messages ticker shutdown unseen acts
  have ticking : first.desk.ticking = true := rfl
  refine ⟨kept, kept.pending, stopped_iff ticking acts, fun act stops => ⟨fun later => ?_, ?_⟩⟩
  · exact run_of_stopped ((ticking_step stops.1 act).mpr stops) later
  · -- the ticker has emptied the buffer, so what was enqueued has all been handed over
    rintro rfl
    have empty : (duty.step .heed).desk.buffer.messages = [] := by rw [buffer_of_heed stops]; rfl
    refine ⟨empty, ?_⟩
    have order := (kept.step .heed).order
    rw [empty, List.append_nil] at order
    exact order.trans (List.append_nil enqueued)

/-- A batch that is refused has been handed over all the same; what comes afterwards can still be taken. -/
example :
    let m topic : Message := ⟨topic, [], .atMostOnce, false, .received⟩
    let duty := (start [m "a"] ⟨⟨20, 0⟩, .running, some 1, .held⟩ false false).run
      [.enqueue (m "b"), .tick, .tick, .enqueue (m "c"), .tick, .enqueue (m "d"), .tick, .send true,
        .heed, .take]
    duty.handed = [.flushed [m "a", m "b"], .flushed [m "c"], .taken [m "d"]] ∧
      duty.desk.ticking = false := by
  decide

end Duty

end Batch

end MqttSessions
