import Mathlib.Data.List.TakeWhile
import MqttSessions.Proofs.Watch.Vigil

/-! # What comes behind the loss of a connection

When the worker has heard of the loss of its link nothing comes in any more and nothing else is reported, but
what came in before is still to be handed over. So there are at most two batches behind the loss: one that the
ticker had taken before it, and one with what has come in since. If the ticker is never held up there is at most
one.

* **`Tardy.Orderly`**: how many reports there can be from the loss on, which every move keeps
  (**`Tardy.Orderly.move?`**);
* **`Tardy.Course`**: how many announcements there can be behind the loss. -/

namespace MqttSessions

open Session (Undisturbed Standing)

/-! ## The reports from the loss on -/

/-- Whether a report is one of the loss of a connection. -/
def Report.isLoss : Report → Bool
  | .connectionLost _ => true
  | _ => false

/-- The first loss that is reported, and what is reported behind it. -/
def Report.trail (reports : List Report) : List Report := reports.dropWhile (!·.isLoss)

namespace Report

theorem isLoss_iff {report : Report} : report.isLoss = true ↔ report.event? = some .connectionLost := by
  cases report <;> simp [isLoss, event?]

/-- There is a trail just if a loss is reported. -/
theorem trail_ne_nil_iff {reports : List Report} :
    trail reports ≠ [] ↔ .connectionLost ∈ reports.filterMap event? := by
  rw [trail, Ne, List.dropWhile_eq_nil_iff, List.mem_filterMap]
  simp [← isLoss_iff]

/-- Without a loss there is no trail. -/
theorem trail_eq_nil {reports : List Report} (lossless : ∀ report ∈ reports, report.isLoss = false) :
    trail reports = [] := by
  rw [trail, List.dropWhile_eq_nil_iff]
  simpa using lossless

theorem trail_cons (report : Report) (rest : List Report) :
    trail (report :: rest) = if report.isLoss then report :: rest else trail rest := by
  rw [trail, List.dropWhile_cons]
  cases report.isLoss <;> rfl

/-- What is reported before the first loss is not on the trail. -/
theorem trail_append_of_nil {reports : List Report} (lossless : trail reports = []) (added : List Report) :
    trail (reports ++ added) = trail added := by
  unfold trail at lossless ⊢
  rw [List.dropWhile_append, if_pos (List.isEmpty_iff.mpr lossless)]

/-- What is reported behind a loss is on the trail. -/
theorem trail_append_of_ne_nil {reports : List Report} (lost : trail reports ≠ []) (added : List Report) :
    trail (reports ++ added) = trail reports ++ added := by
  unfold trail at lost ⊢
  rw [List.dropWhile_append, if_neg (mt List.isEmpty_iff.mp lost)]

end Report

/-- There is a connection, or an attempt at one. -/
def ConnectionState.Open (state : ConnectionState) : Prop := state = .connecting ∨ state = .connected

open ConnectionState (Open)

/-- Once the loss is reported of a connection that has not been given up there is no link, and nothing is to
change that. -/
theorem Stage.idle_of_lost {state : ConnectionState} {link : Link} {requests outcomes : List ConnectionEvent}
    (stage : Stage state link requests outcomes) (opened : Open state) (lost : .connectionLost ∈ outcomes) :
    link = .idle ∧ requests = [] := by
  cases stage with
  | dropped | lost => exact ⟨rfl, rfl⟩
  | rest | recalled | parting | parted => rcases opened with opened | opened <;> cases opened
  | asked | dialing | refused | reached | live => simp at lost

namespace Session

variable {τ : Type} {s s' : Session τ}

/-- Once the loss has been reported, and after it as long as nobody asks for a connection, the worker has no
link, and nothing that it is to do changes that. -/
theorem Standing.holds_idle (standing : s.Standing)
    (lost : Open s.state ∧ Report.trail s.reports ≠ [] ∨ s.state = .disconnected) : s.Holds .idle := by
  intro waiting
  have stage := (standing.fits waiting).stage
  rcases lost with ⟨opened, lost⟩ | disconnected
  · exact stage.idle_of_lost opened (Report.trail_ne_nil_iff.mp lost)
  · obtain ⟨link, requests, -⟩ := Stage.of_disconnected (disconnected ▸ stage)
    exact ⟨link, requests⟩

variable [Transport τ]

/-- What a worker makes of a command is no loss. -/
theorem take_lossless (worker : Worker τ) (command : Command) :
    ∀ report ∈ (worker.take command).2, report.isLoss = false := by
  cases command with
  | connect profile =>
    simp only [Worker.take, Worker.connect]
    split
    · split <;> simp [Report.isLoss]
    · simp
  | disconnect =>
    simp only [Worker.take]
    split <;> simp [Report.isLoss]
  | subscribe | unsubscribe | publish | shutdown => simp [Worker.take]

/-- A worker that takes a command reports no loss. -/
theorem trail_of_takeCommand? (made : s.takeCommand? = some s') (lossless : Report.trail s.reports = []) :
    Report.trail s'.reports = [] := by
  obtain ⟨-, command, rest, -, rfl⟩ := takeCommand?_eq_some_iff.mp made
  exact (Report.trail_append_of_nil lossless _).trans (Report.trail_eq_nil (take_lossless s.worker command))

/-- A loss that the worker hears of is reported behind everything else. -/
theorem Standing.trail_of_takeEvent? (standing : s.Standing) (opened : Open s.state) (made : s.takeEvent? = some s') :
    (Report.trail s'.reports).length ≤ 1 := by
  obtain ⟨waiting, -, active, -, -, -, -, added, reports, heeded⟩ := takeEvent?_eq_some made
  -- with a loss reported there would be no link that an event could come from
  have lossless : Report.trail s.reports = [] := by
    by_contra lost
    exact active (standing.holds_idle (.inl ⟨opened, lost⟩) waiting).1
  rw [reports, Report.trail_append_of_nil lossless]
  generalize s.worker.link = before at heeded
  generalize s'.worker.link = after at heeded
  cases heeded with
  | acknowledged | failed => simp [Report.trail, Report.isLoss]
  | lost reason => simp [Report.trail, Report.isLoss]
  | passed _ other =>
    rw [Report.trail_eq_nil fun report mem => ?_]
    · exact Nat.zero_le 1
    · simpa [← Report.isLoss_iff] using congrArg (· = some ConnectionEvent.connectionLost) (other report mem)

omit [Transport τ] in
/-- Who asks for a connection does so when no loss is reported. -/
theorem Standing.open_of_ask (standing : s.Standing) {request : Request} (opened : Open (s.ask request).2.state)
    (lost : Report.trail s.reports ≠ []) : Open s.state := by
  have asked := ask_asked s request
  generalize (s.ask request).1 = outcome at asked
  cases asked with
  | @granted _ event _ stands accepts legal =>
    -- what has been reported of an earlier connection has been dispatched
    have kind := Request.event?_asked stands
    have earlier := (standing.answered accepts kind legal).1 _ (Report.trail_ne_nil_iff.mp lost)
    rcases kind with rfl | rfl
    · exact absurd rfl earlier
    · rcases opened with opened | opened <;> rw [opened] at legal <;> cases before : s.state <;>
        rw [before] at legal <;> cases legal
  | passed _ _ state => exact state ▸ opened
  | forsaken _ state => rcases opened with opened | opened <;> cases state.symm.trans opened

omit [Transport τ] in
/-- As long as a connection is not given up the dispatcher has not taken its loss. -/
theorem trail_of_dispatch? (made : s.dispatch? = some s') (opened : Open s'.state) :
    Open s.state ∧ Report.trail s'.reports = Report.trail s.reports := by
  obtain ⟨report, queued, -, -, -, state⟩ := dispatch?_eq_some made
  rw [state] at opened
  rw [queued, Report.trail_cons]
  cases report <;> cases before : s.state <;>
    simp_all [Open, Report.event?, ConnectionState.next?, Report.isLoss]

end Session

/-! ## How much there can be behind the loss -/

namespace Tardy

variable {τ : Type} {t t' : Tardy τ} {most : Nat}

/-- A session with at most so many batches behind the loss: only if there may be two the ticker has been held
up, and from the loss on there are not more reports than that one and those batches, the ones that are still to
be handed over included. -/
structure Orderly (most : Nat) (t : Tardy τ) : Prop where
  standing : t.session.Standing
  held : t.held ≠ none → 2 ≤ most
  trail : Open t.session.state → Report.trail t.session.reports ≠ [] →
    (Report.trail t.session.reports).length + t.pending.length ≤ most + 1

theorem create_orderly (profile : Profile) (transport : τ) (settings : SessionSettings) :
    (create profile transport settings).Orderly most where
  standing := Session.create_standing profile transport settings
  held held := absurd rfl held
  trail _ lost := absurd rfl lost

/-- What is buffered is one batch at most, and so is what is held. -/
theorem length_pending_le (positive : 1 ≤ most) (held : t.held ≠ none → 2 ≤ most) :
    t.pending.length ≤ most := by
  have buffered : t.session.buffer.take.1.toList.length ≤ 1 := Option.length_toList_le
  rw [pending, List.length_append]
  cases holds : t.held with
  | none => exact Nat.le_trans (by simp) positive
  | some batch =>
    have two := held (by simp [holds])
    simp only [Option.toList_some, List.length_singleton]
    omega

/-- What is handed over was to be handed over before. -/
theorem Orderly.quiet (orderly : t.Orderly most) (quiet : Quiet t t') (opened : Open t'.session.state)
    (lost : Report.trail t'.session.reports ≠ []) :
    (Report.trail t'.session.reports).length + t'.pending.length ≤ most + 1 := by
  obtain ⟨batches, reports, pending⟩ := quiet.handed
  -- a batch is no loss, so it can only prolong the trail
  have lossless : Report.trail (batches.map .messages) = [] := Report.trail_eq_nil (by simp [Report.isLoss])
  rw [reports] at lost ⊢
  by_cases before : Report.trail t.session.reports = []
  · exact absurd ((Report.trail_append_of_nil before _).trans lossless) lost
  · have bound := orderly.trail (quiet.state ▸ opened) before
    rw [pending, List.length_append] at bound
    rw [Report.trail_append_of_ne_nil before, List.length_append, List.length_map]
    omega

variable [Transport τ]

/-- Without a link a command is dropped, unless it is to change that. -/
theorem quiet_of_takeCommand? {s : Session τ} (idle : t.session.Holds .idle)
    (made : t.session.takeCommand? = some s) : Quiet t { t with session := s } := by
  obtain ⟨waiting, command, rest, commands, rfl⟩ := Session.takeCommand?_eq_some_iff.mp made
  have silent := Worker.take_unreported t.session.worker (idle.next waiting commands).1
  exact .of_same rfl rfl (by simp [Session.settleWorker, silent]) rfl

/-- **Every move keeps a session orderly**, if a ticker is held up only where there may be two batches behind the
loss. -/
theorem Orderly.move? (orderly : t.Orderly most) (positive : 1 ≤ most) {move : Move τ}
    (allowed : move = .take → 2 ≤ most) (made : t.move? move = some t') : t'.Orderly most := by
  have held : t'.held ≠ none → 2 ≤ most := by
    intro held
    by_cases takes : move = .take
    · exact allowed takes
    · exact orderly.held (held_of_move? takes made held)
  refine ⟨standing_of_move? orderly.standing made, held, ?_⟩
  by_cases background : move.isBackground = true
  · exact orderly.quiet (quiet_of_background background made).2
  cases move with
  | take | hand => exact absurd rfl background
  | whole move =>
    obtain ⟨-, s, moved, rfl⟩ := whole_of_move? made
    have standing := orderly.standing
    intro opened lost
    cases move with
    | ask request =>
      obtain rfl := Option.some.inj moved
      obtain ⟨_, _, _, _, _, _, _, same⟩ := Session.ask_frame t.session request
      rw [pending_congr (by rw [same])]
      simp only [Session.ask_reports] at lost ⊢
      exact orderly.trail (standing.open_of_ask opened lost) lost
    | takeCommand =>
      by_cases before : Report.trail t.session.reports = []
      · exact absurd (Session.trail_of_takeCommand? moved before) lost
      · -- behind a loss the worker reports nothing of a command
        obtain ⟨-, command, rest, -, frame⟩ := Session.takeCommand?_eq_some_iff.mp moved
        have state : s.state = t.session.state := by rw [frame]; rfl
        have idle := standing.holds_idle (.inl ⟨state ▸ opened, before⟩)
        exact orderly.quiet (quiet_of_takeCommand? idle moved) opened lost
    | takeEvent =>
      obtain ⟨-, -, -, state, -⟩ := Session.takeEvent?_eq_some moved
      -- the loss has just been reported, and all that is to be handed over comes behind it
      have short := standing.trail_of_takeEvent? (state ▸ opened) moved
      exact Nat.add_comm most 1 ▸ Nat.add_le_add short (length_pending_le positive held)
    | dispatch =>
      obtain ⟨before, same⟩ := Session.trail_of_dispatch? moved opened
      rw [same] at lost ⊢
      rw [pending_congr (Session.dispatch?_buffer moved)]
      exact orderly.trail before lost
    | tick | finishTicker | elapse | drift => exact absurd rfl background

/-- In every run from a new session it stays orderly. -/
theorem orderly_of_run? {profile : Profile} {transport : τ} {settings : SessionSettings} {moves : List (Move τ)}
    (positive : 1 ≤ most) (allowed : .take ∈ moves → 2 ≤ most)
    (run : (create profile transport settings).run? moves = some t) : t.Orderly most := by
  refine run?_induct (Orderly most) (fun move => move = .take → 2 ≤ most)
    (fun allowed orderly made => orderly.move? positive allowed made) ?_ (create_orderly ..) run
  rintro move mem rfl
  exact allowed mem

end Tardy

/-! ## What is announced behind the loss -/

namespace Session

variable {τ : Type} {s s' : Session τ}

/-- Without a connection a request that asks for nothing of it announces nothing. -/
theorem ask_feed (unconnected : s.state ≠ .connected) {request : Request} (other : request.event? = none) :
    (s.ask request).2.feed = s.feed := by
  cases request with
  | connect | disconnect => cases other
  | subscribe topic qos color =>
    rcases subscribe_cases s topic qos color with ⟨_, made⟩ | ⟨-, connected, -⟩
    · rw [ask, made]
    · exact absurd connected unconnected
  | unsubscribe topic =>
    rcases unsubscribe_cases s topic with ⟨_, made⟩ | ⟨-, connected, -⟩
    · rw [ask, made]
    · exact absurd connected unconnected
  | publish topic payload qos retain =>
    rcases publish_cases s topic payload qos retain with ⟨_, made⟩ | ⟨-, connected, -⟩
    · rw [ask, made]
    · exact absurd connected unconnected
  | setEnabled topic enabled =>
    rw [ask, setEnabled]
    split <;> rfl
  | clearHistory => rfl

/-- While disconnected the dispatcher announces one event at most over a report, and stays so. -/
theorem dispatch?_disconnected (disconnected : s.state = .disconnected) (made : s.dispatch? = some s') :
    s'.state = .disconnected ∧ ∃ events, s'.feed.toList = s.feed.toList ++ events ∧ events.length ≤ 1 := by
  obtain ⟨report, rest, -, rfl⟩ := dispatch?_eq_some_iff.mp made
  cases report with
  | connected | connectFailed | connectionLost | disconnectComplete =>
    refine ⟨?_, [], ?_, Nat.zero_le 1⟩ <;>
      simp [dispatch, transition?, apply_eq, disconnected, ConnectionState.next?]
  | subscribeAck | messages =>
    exact ⟨disconnected, [_], Feed.toList_push .., Nat.le_refl 1⟩

end Session

namespace Tardy

variable {τ : Type} {t t' : Tardy τ} {most since : Nat}

/-- The loss has been announced, in some place after a moment. What has been announced behind it, what is
reported and what is to be handed over is bounded. -/
structure Over (most since : Nat) (t : Tardy τ) (news behind : List SessionEvent) : Prop where
  disconnected : t.session.state = .disconnected
  feed : t.session.feed.toList = news ++ .lost :: behind
  later : since ≤ news.length
  bound : behind.length + t.session.reports.length + t.pending.length ≤ most

/-- What becomes of a connection from some moment on if nobody asks for it to change. -/
inductive Course (most since : Nat) (t : Tardy τ) : Prop
  /-- There still is a connection. -/
  | live (connected : t.session.state = .connected) (later : since ≤ t.session.feed.position)
  /-- It has been lost. -/
  | ended {news behind : List SessionEvent} (ended : t.Over most since news behind)

/-- What is handed over was counted before. -/
theorem Over.quiet {news behind : List SessionEvent} (ended : t.Over most since news behind)
    (quiet : Quiet t t') : t'.Over most since news behind := by
  obtain ⟨state, feed, batches, reports, pending⟩ := quiet
  refine ⟨state.trans ended.disconnected, feed ▸ ended.feed, ended.later, ?_⟩
  have bound := ended.bound
  rw [pending, List.length_append] at bound
  rw [reports, List.length_append, List.length_map]
  omega

/-- The dispatcher announces no more than the report that it has taken. -/
theorem Over.dispatch {news behind : List SessionEvent} (ended : t.Over most since news behind) {s : Session τ}
    (made : t.session.dispatch? = some s) : ∃ more, Over most since { t with session := s } news (behind ++ more) := by
  obtain ⟨report, reports, -⟩ := Session.dispatch?_eq_some made
  obtain ⟨state, events, announced, few⟩ := Session.dispatch?_disconnected ended.disconnected made
  rw [ended.feed, List.append_assoc, List.cons_append] at announced
  refine ⟨events, state, announced, ended.later, ?_⟩
  have bound := ended.bound
  rw [reports, List.length_cons] at bound
  rw [pending_congr (Session.dispatch?_buffer made), List.length_append]
  change _ + s.reports.length + _ ≤ most
  omega

variable [Transport τ]

/-- A session keeps at least as many announcements as its settings want. -/
theorem le_capacity_of_run? {profile : Profile} {transport : τ} {settings : SessionSettings}
    {moves : List (Move τ)} (run : (create profile transport settings).run? moves = some t) :
    settings.eventCapacity ≤ t.session.feed.capacity := by
  suffices kept : t.session.feed.capacity = Feed.kept (max settings.eventCapacity 1) by
    rw [kept]
    exact Nat.le_trans (Nat.le_max_left ..) (Feed.le_kept _)
  refine run?_induct (·.session.feed.capacity = Feed.kept (max settings.eventCapacity 1)) (fun _ => True)
    (fun _ kept made => ?_) (fun _ _ => trivial) rfl run
  obtain ⟨events, feed⟩ := feed_of_move? made
  rw [feed, Feed.capacity_foldl_push, kept]

/-- **Without a connection nobody is heard of but the dispatcher**, unless somebody asks for one. -/
theorem quiet_of_move? (disconnected : t.session.state = .disconnected) (idle : t.session.Holds .idle)
    {move : Move τ} (other : move.event? = none) (aside : move ≠ .whole .dispatch)
    (made : t.move? move = some t') : Quiet t t' := by
  by_cases background : move.isBackground = true
  · exact (quiet_of_background background made).2
  cases move with
  | take | hand => exact absurd rfl background
  | whole move =>
    obtain ⟨-, s, moved, rfl⟩ := whole_of_move? made
    cases move with
    | ask request =>
      obtain rfl := Option.some.inj moved
      have unconnected : t.session.state ≠ .connected := by simp [disconnected]
      obtain ⟨_, _, _, _, _, _, _, frame⟩ := Session.ask_frame t.session request
      exact .of_same (Session.ask_aside t.session other).1 (Session.ask_feed unconnected other)
        (Session.ask_reports t.session request) (by rw [frame])
    | takeCommand => exact quiet_of_takeCommand? idle moved
    | takeEvent => exact absurd rfl (idle.deaf moved)
    | dispatch => exact absurd rfl aside
    | tick | finishTicker | elapse | drift => exact absurd rfl background

/-- The dispatcher takes a report while there is a connection: its loss, or something else. -/
theorem Course.dispatch {s : Session τ} (orderly : t.Orderly most) (connected : t.session.state = .connected)
    (later : since ≤ t.session.feed.position) (made : t.session.dispatch? = some s) :
    Course most since { t with session := s } := by
  obtain ⟨report, reports, -, -, -, state⟩ := Session.dispatch?_eq_some made
  by_cases loss : report.isLoss = true
  · obtain ⟨reason, rfl⟩ : ∃ reason, report = .connectionLost reason := by
      cases report <;> first | exact ⟨_, rfl⟩ | cases loss
    have trail : Report.trail t.session.reports = .connectionLost reason :: s.reports := by
      rw [reports, Report.trail_cons, if_pos loss]
    -- the loss was counted as well, so there are `most` reports and batches behind it
    have bound := orderly.trail (.inr connected) (by simp [trail])
    rw [trail, List.length_cons] at bound
    refine .ended ⟨?_, Session.lost_of_dispatch? made reports connected, ?_, ?_⟩
    · rw [state, connected]
      rfl
    · rwa [Feed.length_toList]
    · rw [pending_congr (Session.dispatch?_buffer made)]
      change 0 + s.reports.length + t.pending.length ≤ most
      omega
  · refine .live ?_ ?_
    · rw [state, connected]
      cases report <;> first | rfl | exact absurd rfl loss
    · have moved : t.session.move? .dispatch = some s := made
      obtain ⟨events, announced⟩ := Session.announced_of_move? moved
      rw [announced.feed, Feed.position_foldl_push]
      exact Nat.le_add_right_of_le later

/-- Only the dispatcher ends a connection, unless somebody asks for that. -/
theorem connected_of_move? (connected : t.session.state = .connected) {move : Move τ}
    (other : move.event? = none) (aside : move ≠ .whole .dispatch) (made : t.move? move = some t') :
    t'.session.state = .connected := by
  by_cases background : move.isBackground = true
  · exact (quiet_of_background background made).2.state.trans connected
  cases move with
  | take | hand => exact absurd rfl background
  | whole move =>
    obtain ⟨-, s, moved, rfl⟩ := whole_of_move? made
    cases move with
    | ask request =>
      obtain rfl := Option.some.inj moved
      exact (Session.ask_aside t.session other).1.trans connected
    | takeCommand =>
      obtain ⟨-, command, rest, -, rfl⟩ := Session.takeCommand?_eq_some_iff.mp moved
      exact connected
    | takeEvent =>
      obtain ⟨-, -, -, state, -⟩ := Session.takeEvent?_eq_some moved
      exact state.trans connected
    | dispatch => exact absurd rfl aside
    | tick | finishTicker | elapse | drift => exact absurd rfl background

/-- **What a move leads to**, whoever makes it, unless somebody asks for the connection to change. -/
theorem Course.move? (course : t.Course most since) (orderly : t.Orderly most) {move : Move τ}
    (other : move.event? = none) (made : t.move? move = some t') : t'.Course most since := by
  by_cases dispatches : move = .whole .dispatch
  · subst dispatches
    obtain ⟨-, s, moved, rfl⟩ := whole_of_move? made
    cases course with
    | live connected later => exact Course.dispatch orderly connected later moved
    | ended ended =>
      obtain ⟨more, ended⟩ := ended.dispatch moved
      exact .ended ended
  · cases course with
    | live connected later =>
      obtain ⟨events, feed⟩ := feed_of_move? made
      refine .live (connected_of_move? connected other dispatches made) ?_
      rw [feed, Feed.position_foldl_push]
      exact Nat.le_add_right_of_le later
    | ended ended =>
      have idle := orderly.standing.holds_idle (.inr ended.disconnected)
      exact .ended (ended.quiet (quiet_of_move? ended.disconnected idle other dispatches made))

end Tardy

end MqttSessions
