import MqttSessions.Proofs.Closing.Delivery
import MqttSessions.Proofs.Closing.Staggered

/-! # Every inbound message is delivered once

A dispatcher that has taken a batch waits for the history before it announces it. In between the batch
is in its hand: it waits in no queue and is not announced, and whoever else acts may go on.

* **`Staggered.traffic`** and **`Staggered.conveyed_of_step?`**: with the batch in the dispatcher's hand
  ahead of those that wait for it, one step moves inbound messages on as one step of the session does;
* **`Staggered.Orderly`**: the order in which a session is closed holds in between as well, and a closing
  call that has waited for the dispatcher finds nothing in its hand;
* **`Staggered.inbound_accounted`**: what has been polled is what has been announced, then the batch in
  the dispatcher's hand, then what waits for it, then what is buffered. When the closing call has
  returned and has aborted neither ticker nor dispatcher, all of it has been announced. -/

namespace MqttSessions

open Session

/-! ## Neither worker nor ticker moves -/

namespace Session

variable {τ : Type}

/-- What is done by somebody else than worker and ticker: both are where they were, what is buffered and
what waits for the worker stays, and nothing is reported. -/
structure Aside (s s' : Session τ) : Prop where
  footing : s'.worker.footing = s.worker.footing
  ticker : s'.ticker = s.ticker
  buffer : s'.buffer = s.buffer
  commands : s.commands ⊆ s'.commands
  reports : s.reports = [] → s'.reports = []

/-- Queuing commands only adds to what waits for the worker. -/
theorem aside_enqueue (s : Session τ) (commands : List Command) : Aside s (s.enqueue commands) :=
  ⟨rfl, rfl, rfl, List.subset_append_left _ _, id⟩

/-- Recording a message that is published only adds to history and announcements. -/
theorem aside_recordPublished (s : Session τ) (message : Message) :
    Aside s (s.recordPublished message) :=
  ⟨rfl, rfl, rfl, List.Subset.refl _, id⟩

/-- Taking a report makes what waits for the dispatcher less. -/
theorem aside_of_reports {s : Session τ} {report : Report} {rest : List Report}
    (reports : s.reports = report :: rest) : Aside s { s with reports := rest } := by
  refine ⟨rfl, rfl, rfl, List.Subset.refl _, fun empty => ?_⟩
  rw [reports] at empty
  cases empty

/-- Applying a report may restore subscriptions, and reports nothing. -/
theorem aside_dispatch (s : Session τ) (report : Report) : Aside s (s.dispatch report) := by
  obtain ⟨worker, reports, -, commands, -⟩ := dispatch_kept s report
  obtain ⟨_, _, _, _, _, _, same⟩ := dispatch_frame s report
  refine ⟨by rw [worker], by rw [same], by rw [same], ?_, fun empty => by rw [reports, empty]⟩
  rw [commands]
  exact List.subset_append_left _ _

end Session

namespace Closing

variable {τ : Type}

/-- The order of closing does not depend on anybody but worker and ticker. -/
theorem Orderly.aside {c : Closing τ} (orderly : c.Orderly) {s : Session τ}
    (aside : Aside c.session s) : (c.withSession s).Orderly := by
  obtain ⟨footing, ticker, -, commands, reports⟩ := aside
  refine ⟨fun told waiting => ?_, fun signalled => ?_, orderly.spared, fun party past => ?_⟩
  · exact commands (orderly.told told (footing.symm.trans waiting))
  · rw [withSession_session, ticker]
    exact orderly.signalled signalled
  · have before := orderly.joined party past
    exact before.imp_left (hasStopped_mono footing.trans ticker.trans fun _ _ => reports)

/-- Nor does it depend on anybody else that a ticker leaves nothing behind. -/
theorem Flushed.aside {c : Closing τ} (flushed : c.Flushed) {s : Session τ}
    (aside : Aside c.session s) : (c.withSession s).Flushed := by
  obtain ⟨-, ticker, buffer, -, -⟩ := aside
  refine ⟨fun early => ticker.trans (flushed.working early), fun stopped kept => ?_⟩
  have empty := flushed.emptied (ticker.symm.trans stopped) kept
  simpa [traffic, buffer] using empty

variable [Transport τ]

/-- The closing call ceases to wait for the dispatcher because it has stopped, or aborts it. -/
theorem past_of_acted {c c' : Closing τ} {act : Act τ} (acted : c.Acted act c')
    (past : c'.phase.isPast .dispatcher = true) :
    c.phase.isPast .dispatcher = true ∨ (act = .proceed ∧ c.phase = .joining .dispatcher) ∨
      .dispatcher ∈ c'.aborted := by
  cases acted with
  | began =>
    rcases firstPhase_cases c.session.state with first | first <;> simp [first, Phase.isPast] at past
  | asked | ended | told | signalled | lapsed => cases past
  | joined party phase =>
    rcases Phase.isPast_next past with rfl | earlier
    · exact .inr (.inl ⟨rfl, phase⟩)
    · exact .inl (phase ▸ earlier)
  | missed party phase =>
    rcases Phase.isPast_next past with rfl | earlier
    · exact .inr (.inr List.mem_cons_self)
    · exact .inl (phase ▸ earlier)
  | left phase => exact .inl (by rw [phase]; rfl)
  | moved | fainted | ousted | unhinged | lateTicked | followed => exact .inl past

end Closing

namespace Staggered

variable {τ : Type}

/-! ## The batch in the dispatcher's hand -/

/-- The batch that the dispatcher has taken and not announced, if there is one. -/
def inHand (s : Staggered τ) : List (List Message) := (s.taken.bind Report.batch?).toList

/-- How far the inbound messages have come, the batch in the dispatcher's hand ahead of those that wait
for it. -/
def traffic (s : Staggered τ) : Traffic :=
  { s.session.traffic with underway := s.inHand ++ s.session.traffic.underway }

/-- A dispatcher that has taken nothing has no batch in its hand. -/
theorem traffic_of_idle {s : Staggered τ} (idle : s.taken = none) : s.traffic = s.session.traffic := by
  rw [traffic, inHand, idle]
  rfl

/-- As long as the dispatcher takes and applies nothing, only the session tells how far the inbound
messages have come. -/
theorem traffic_of_same {s s' : Staggered τ} (taken : s'.taken = s.taken)
    (same : s'.session.traffic = s.session.traffic) : s'.traffic = s.traffic := by
  rw [traffic, traffic, inHand, inHand, taken, same]

/-- What has come in, part by part. -/
theorem traffic_inbound (s : Staggered τ) :
    s.traffic.inbound = s.session.traffic.delivered.flatten ++ s.inHand.flatten ++
      s.session.traffic.underway.flatten ++ s.session.traffic.buffered := by
  rw [Traffic.inbound, traffic, List.flatten_append, ← List.append_assoc]

variable [Transport τ]

/-- The inbound message that the worker polls in a step. -/
def polledBy (s : Staggered τ) : Step τ → List Message
  | .act act => s.closing.heardBy act
  | _ => []

/-- The inbound messages that the worker polls in steps made one after the other, oldest first. -/
def polled : Staggered τ → List (Step τ) → List Message
  | _, [] => []
  | s, step :: rest => s.polledBy step ++ (s.step? step).elim [] (polled · rest)

/-- Whoever acts has not to wait for the dispatcher. -/
theorem act?_of_step? {s s' : Staggered τ} {act : Closing.Act τ}
    (made : s.step? (.act act) = some s') :
    s.holdsUp act = false ∧ s.closing.act? act = some s'.closing := by
  simp only [step?, Option.ite_none_left_eq_some, Bool.not_eq_true] at made
  obtain ⟨free, made⟩ := made
  obtain ⟨closing, acts, rfl⟩ := Option.map_eq_some_iff.mp made
  exact ⟨free, acts⟩

/-- Only a dispatcher that is there and has nothing in its hand takes a report. -/
theorem idle_of_take {s s' : Staggered τ} (made : s.step? .take = some s') :
    .dispatcher ∉ s.closing.aborted ∧ s.taken = none := by
  simp only [step?, Option.ite_none_right_eq_some, Bool.and_eq_true, Option.isNone_iff_eq_none] at made
  obtain ⟨⟨permitted, idle⟩, -⟩ := made
  exact ⟨by simpa [Closing.permits] using permitted, idle⟩

/-- **What a step does to the traffic.** -/
theorem conveyed_of_step? {s s' : Staggered τ} {step : Step τ} (made : s.step? step = some s') :
    Conveyed s.traffic (s.polledBy step) s'.traffic := by
  cases stepped_of_step? made with
  | @acted act closing acted =>
    have conveyed := Closing.conveyed_of_acted acted
    by_cases dispatches : act = .other .dispatch
    · -- a dispatcher that takes and applies in one has nothing in its hand
      subst dispatches
      have idle : s.taken = none := by simpa [holdsUp] using (act?_of_step? made).1
      rw [traffic, traffic, inHand, inHand, idle]
      exact conveyed
    · obtain ⟨later, grown⟩ := Closing.reports_of_acted acted dispatches
      have grows : closing.session.traffic.underway =
          s.session.traffic.underway ++ later.filterMap Report.batch? := by
        simp [Session.traffic, grown, session]
      exact conveyed.behind s.inHand grows
  | queued queued =>
    obtain ⟨command, rfl⟩ := queued_of_queuePublish? queued
    exact .of_eq (traffic_of_same rfl (enqueue_traffic s.session _))
  | recorded => exact .of_eq (traffic_of_same rfl (recordPublished_traffic s.session _))
  | @took report rest reports =>
    -- the batch goes from the queue into the dispatcher's hand
    have idle := (idle_of_take made).2
    have underway := (underway_of_reports reports).symm
    refine .of_eq ?_
    rw [traffic_of_idle idle]
    exact congrArg (fun batches => { s.session.traffic with underway := batches }) underway
  | @applied report taken =>
    change Conveyed s.traffic [] (s.session.dispatch report).traffic
    rw [dispatch_traffic]
    cases carried : report.batch? with
    | none =>
      have still : s.traffic = s.session.traffic := by simp [traffic, inHand, taken, carried]
      rw [still, Option.toList_none, List.append_nil]
      exact .still
    | some batch =>
      have first : s.traffic.underway = batch :: s.session.traffic.underway := by
        simp [traffic, inHand, taken, carried]
      exact .announced first
  | listened => exact .still

/-- **Nothing is lost, doubled or reordered in a run.** -/
theorem inbound_of_run? {s s' : Staggered τ} {steps : List (Step τ)} (run : s.run? steps = some s') :
    s'.traffic.inbound = s.traffic.inbound ++ s.polled steps := by
  induction steps generalizing s with
  | nil =>
    obtain rfl := Option.some.inj run
    rw [polled, List.append_nil]
  | cons step rest ih =>
    rw [run?_cons] at run
    obtain ⟨next, made, remaining⟩ := Option.bind_eq_some_iff.mp run
    have first := (conveyed_of_step? made).inbound
    rw [ih remaining, first, polled, made, Option.elim_some, List.append_assoc]

/-! ## The order of closing -/

/-- The session is closed in order, its ticker leaves nothing behind, no batch is empty, and when the
closing call waits for the dispatcher no longer, the dispatcher has nothing in its hand or was aborted. -/
structure Orderly (s : Staggered τ) : Prop where
  closing : s.closing.Orderly
  flushed : s.closing.Flushed
  full : s.traffic.Full
  emptied : s.closing.phase.isPast .dispatcher = true →
    s.taken = none ∨ .dispatcher ∈ s.closing.aborted

/-- Nobody else than the dispatcher fills its hand. -/
theorem Orderly.emptied_of_acted {s s' : Staggered τ} {act : Closing.Act τ}
    (orderly : s.Orderly) (made : s.step? (.act act) = some s')
    (past : s'.closing.phase.isPast .dispatcher = true) :
    s.taken = none ∨ .dispatcher ∈ s'.closing.aborted := by
  obtain ⟨free, acts⟩ := act?_of_step? made
  have acted := Closing.acted_of_act? acts
  rcases Closing.past_of_acted acted past with before | ⟨rfl, waits⟩ | aborted
  · exact (orderly.emptied before).imp_right (Closing.aborted_of_acted acted)
  · -- the closing call waits until the dispatcher has applied what it has taken
    exact .inl (by simpa [holdsUp, waits] using free)
  · exact .inr aborted

/-- A dispatcher that the closing call has waited for takes nothing any more. -/
theorem Orderly.past_of_take {s s' : Staggered τ} (orderly : s.Orderly)
    (made : s.step? .take = some s') {report : Report} {rest : List Report}
    (reports : s.session.reports = report :: rest) : s.closing.phase.isPast .dispatcher = false := by
  by_contra past
  have attentive := (idle_of_take made).1
  have joined := orderly.closing.joined .dispatcher (by simpa using past)
  have stopped := joined.resolve_right attentive
  have empty : s.session.reports = [] := (hasStopped_dispatcher_iff.mp stopped).2.2
  rw [reports] at empty
  cases empty

/-- **Every step keeps the order.** -/
theorem orderly_of_step? {s s' : Staggered τ} {step : Step τ} (orderly : s.Orderly)
    (made : s.step? step = some s') : s'.Orderly := by
  have full := (conveyed_of_step? made).full orderly.full
  have aside {session : Session τ} (aside : Aside s.session session) :
      (s.closing.withSession session).Orderly ∧ (s.closing.withSession session).Flushed :=
    ⟨orderly.closing.aside aside, orderly.flushed.aside aside⟩
  cases stepped_of_step? made with
  | acted =>
    have acts := (act?_of_step? made).2
    exact ⟨Closing.orderly_of_act? orderly.closing acts,
      Closing.flushed_of_act? orderly.closing orderly.flushed acts, full,
      orderly.emptied_of_acted made⟩
  | queued queued =>
    obtain ⟨command, rfl⟩ := queued_of_queuePublish? queued
    obtain ⟨closing, flushed⟩ := aside (aside_enqueue s.session _)
    exact ⟨closing, flushed, full, orderly.emptied⟩
  | recorded =>
    obtain ⟨closing, flushed⟩ := aside (aside_recordPublished s.session _)
    exact ⟨closing, flushed, full, orderly.emptied⟩
  | took reports =>
    obtain ⟨closing, flushed⟩ := aside (aside_of_reports reports)
    have early := orderly.past_of_take made reports
    exact ⟨closing, flushed, full, fun past => absurd (early.symm.trans past) (by simp)⟩
  | applied =>
    obtain ⟨closing, flushed⟩ := aside (aside_dispatch s.session _)
    exact ⟨closing, flushed, full, fun _ => .inl rfl⟩
  | listened => exact ⟨orderly.closing, orderly.flushed, full, orderly.emptied⟩

omit [Transport τ] in
/-- A session with accepted settings that nobody has closed is in order. -/
theorem start_orderly {profile : Profile} {transport : τ} {settings : Settings}
    (accepted : settings.firstZero? = none) :
    (start (create profile transport settings.session)).Orderly where
  closing := Closing.start_orderly _
  flushed := Closing.start_flushed accepted
  full := ⟨fun _ mem => absurd mem List.not_mem_nil, fun _ mem => absurd mem List.not_mem_nil⟩
  emptied _ := .inl rfl

/-- **Every run keeps the order.** -/
theorem Orderly.run? {s s' : Staggered τ} {steps : List (Step τ)} (orderly : s.Orderly)
    (run : s.run? steps = some s') : s'.Orderly := by
  induction steps generalizing s with
  | nil =>
    obtain rfl := Option.some.inj run
    exact orderly
  | cons step rest ih =>
    rw [run?_cons] at run
    obtain ⟨next, made, remaining⟩ := Option.bind_eq_some_iff.mp run
    exact ih (orderly_of_step? orderly made) remaining

/-! ## Every message once -/

/-- **Every inbound message is delivered once.** However a session with accepted settings is run and
closed, over whatever transport, and whoever acts while the dispatcher waits for the history: at each
moment the messages that the worker has polled are those announced, then those of the batch that the
dispatcher has taken and not announced, then those that wait for the dispatcher, then those buffered, in
their order, and no batch is empty; what an aborted party has taken or left counts where it was. When the
closing call has returned, and has aborted neither the ticker nor the dispatcher, nothing is taken,
nothing waits and nothing is buffered: all that was polled has been announced. -/
theorem inbound_accounted {profile : Profile} {transport : τ} {settings : Settings}
    (accepted : settings.firstZero? = none) {steps : List (Step τ)} {s : Staggered τ}
    (run : (start (create profile transport settings.session)).run? steps = some s) :
    (start (create profile transport settings.session)).polled steps =
        s.session.traffic.delivered.flatten ++ s.inHand.flatten ++
          s.session.traffic.underway.flatten ++ s.session.traffic.buffered ∧
      (∀ batch ∈ s.session.traffic.delivered ++ s.inHand ++ s.session.traffic.underway, batch ≠ []) ∧
      (s.closing.phase = .returned → .ticker ∉ s.closing.aborted → .dispatcher ∉ s.closing.aborted →
        s.taken = none ∧ s.session.reports = [] ∧ s.session.traffic.buffered = [] ∧
          (start (create profile transport settings.session)).polled steps =
            s.session.traffic.delivered.flatten) := by
  have orderly := (start_orderly accepted).run? run
  -- when the session is created nothing has come in
  have came : s.traffic.inbound =
      (start (create profile transport settings.session)).polled steps := inbound_of_run? run
  rw [traffic_inbound] at came
  refine ⟨came.symm, fun batch mem => ?_, fun returned punctual attentive => ?_⟩
  · rw [List.append_assoc] at mem
    exact (List.mem_append.mp mem).elim (orderly.full.delivered batch) (orderly.full.underway batch)
  · have past (party : Party) : s.closing.phase.isPast party = true := by rw [returned]; rfl
    have ticker := (orderly.closing.joined .ticker (past _)).resolve_right punctual
    have dispatcher := (orderly.closing.joined .dispatcher (past _)).resolve_right attentive
    have taken := (orderly.emptied (past _)).resolve_right attentive
    have reports : s.session.reports = [] := (hasStopped_dispatcher_iff.mp dispatcher).2.2
    have buffered : s.session.traffic.buffered = [] :=
      orderly.flushed.emptied (hasStopped_ticker_iff.mp ticker) punctual
    have underway : s.session.traffic.underway = [] := by simp [Session.traffic, reports]
    refine ⟨taken, reports, buffered, ?_⟩
    rw [← came, inHand, taken, underway, buffered]
    simp

/-- A message comes in, and the dispatcher takes its batch. -/
def takenUp : List (Step Rehearsal) :=
  [.act (.other (.ask .connect)), .act (.other .takeCommand), .act (.other .takeEvent), .take, .apply,
    .act (.other (.drift (·.queue (.message "a" [120] .atMostOnce false)))), .act (.other .takeEvent),
    .act (.other .tick), .take]

/-- Another message comes in, and the session is closed. Only then does the dispatcher announce what it
has taken, and afterwards what the ticker hands over when it is told to stop. -/
def announcedAtLast : List (Step Rehearsal) :=
  takenUp ++
    [.act (.other (.drift (·.queue (.message "b" [121] .atMostOnce false)))), .act (.other .takeEvent),
      .act .proceed, .act .proceed, .act (.other .takeCommand), .apply, .take, .apply,
      .act .proceed, .act .proceed, .act .proceed, .act (.other .takeCommand), .act .proceed,
      .act (.other .finishTicker), .act .proceed, .take, .apply, .act .proceed, .act .proceed]

/-- Both messages have been announced, each in its batch, though the session was disconnected before the
second one was. -/
theorem inbound_accounted_announcedAtLast :
    ({} : Settings).firstZero? = none ∧
      ∃ s, (start (rehearsed {})).run? announcedAtLast = some s ∧ s.closing.phase = .returned ∧
        s.closing.aborted = [] ∧ s.session.state = .disconnected ∧
        (start (rehearsed {})).polled announcedAtLast =
          [⟨"a", [120], .atMostOnce, false, .received⟩, ⟨"b", [121], .atMostOnce, false, .received⟩] ∧
        s.session.traffic.delivered.flatten =
          [⟨"a", [120], .atMostOnce, false, .received⟩, ⟨"b", [121], .atMostOnce, false, .received⟩] := by
  have accepted : ({} : Settings).firstZero? = none := rfl
  obtain ⟨s, run, returned, spared, ended, polled⟩ :
      ∃ s, (start (rehearsed {})).run? announcedAtLast = some s ∧ s.closing.phase = .returned ∧
        s.closing.aborted = [] ∧ s.session.state = .disconnected ∧
        (start (rehearsed {})).polled announcedAtLast =
          [⟨"a", [120], .atMostOnce, false, .received⟩,
            ⟨"b", [121], .atMostOnce, false, .received⟩] :=
    ⟨_, rfl, rfl, rfl, rfl, rfl⟩
  have whole := (inbound_accounted accepted run).2.2 returned (by simp [spared]) (by simp [spared])
  exact ⟨accepted, s, run, returned, spared, ended, polled, whole.2.2.2.symm.trans polled⟩

/-- **A message in the dispatcher's hand is nowhere else.** It was polled, and it is not announced, waits
for nobody and is not buffered. -/
theorem in_hand_only :
    ({} : Settings).firstZero? = none ∧
      ∃ s, (start (rehearsed {})).run? takenUp = some s ∧
        s.taken = some (.messages [⟨"a", [120], .atMostOnce, false, .received⟩]) ∧
        (start (rehearsed {})).polled takenUp = [⟨"a", [120], .atMostOnce, false, .received⟩] ∧
        (start (rehearsed {})).polled takenUp ≠
          s.session.traffic.delivered.flatten ++ s.session.traffic.underway.flatten ++
            s.session.traffic.buffered :=
  ⟨rfl, _, rfl, rfl, rfl, by decide⟩

end Staggered

end MqttSessions
