import MqttSessions.Proofs.Closing.Order
import MqttSessions.Proofs.Session.Inbound

/-! # Inbound messages while a session is closed

Whatever happens to a session, also while it is being closed, the messages that have come in are
those that have been announced, then those that wait for the dispatcher, then those that are
buffered, in their order (**`Closing.inbound_of_run?`**), wherever the dispatcher is not in the middle
of its step.

A closed session has nothing left in its buffer. A ticker hands over what is buffered before it stops
(**`Closing.Flushed`**), and by then the worker hears of nothing more, since its order to shut down is
queued and comes first (**`Closing.deaf`**). -/

namespace MqttSessions

open Session

namespace Closing

variable {τ : Type} [Transport τ]

/-! ## What comes in -/

/-- The inbound message that comes in by an act. -/
def heardBy (c : Closing τ) : Act τ → List Message
  | .other move => c.session.heardBy move
  | _ => []

/-- The inbound messages that come in by acts made one after the other, oldest first. -/
def heard : Closing τ → List (Act τ) → List Message
  | _, [] => []
  | c, act :: rest => c.heardBy act ++ (c.act? act).elim [] (heard · rest)

/-- **What an act does to the traffic.** -/
theorem conveyed_of_acted {c c' : Closing τ} {act : Act τ} (acted : c.Acted act c') :
    Conveyed c.session.traffic (c.heardBy act) c'.session.traffic := by
  cases acted with
  | began | ended | joined | lapsed | missed | signalled => exact .still
  | asked =>
    simp only [ask_traffic]
    exact .still
  | told =>
    obtain ⟨_, sent⟩ := send?_getD c.session .shutdown
    simp only [sent, enqueue_traffic]
    exact .still
  | left =>
    simp only [forceDisconnected_traffic]
    exact .still
  | moved permitted moved => exact conveyed_of_move? moved
  | fainted | ousted =>
    rw [withSession_session, stopWorker, settleWorker_traffic _ _ rfl]
    exact .still
  | unhinged => exact .still
  | lateTicked => exact handOver_conveyed c.session
  | followed =>
    rw [withSession_session, follow_traffic]
    exact .still

/-- Whoever is not the dispatcher only adds to what waits for it. -/
theorem reports_of_acted {c c' : Closing τ} {act : Act τ} (acted : c.Acted act c')
    (other : act ≠ .other .dispatch) :
    ∃ later, c'.session.reports = c.session.reports ++ later := by
  have nothing : ∃ later, c.session.reports = c.session.reports ++ later :=
    ⟨[], (List.append_nil _).symm⟩
  cases acted with
  | began | ended | joined | lapsed | missed | signalled | unhinged => exact nothing
  | asked =>
    rw [ask_reports]
    exact nothing
  | told =>
    obtain ⟨_, sent⟩ := send?_getD c.session .shutdown
    rw [sent, enqueue_reports]
    exact nothing
  | left =>
    rw [forceDisconnected_reports]
    exact nothing
  | @moved move s permitted made =>
    cases move with
    | ask request =>
      obtain rfl := Option.some.inj made
      rw [withSession_session, ask_reports]
      exact nothing
    | takeCommand =>
      obtain ⟨-, command, rest, -, rfl⟩ := takeCommand?_eq_some_iff.mp made
      exact ⟨_, rfl⟩
    | takeEvent =>
      obtain ⟨-, -, _, _, _, reports, _, -, -, rfl⟩ := takeEvent?_inversion made
      exact ⟨reports, rfl⟩
    | dispatch => exact absurd rfl other
    | tick | finishTicker | elapse | drift =>
      obtain ⟨reports, -, added⟩ := (undisturbed_of_move? rfl made).reports
      exact ⟨reports, added⟩
  | fainted | ousted => exact ⟨[], rfl⟩
  | lateTicked =>
    obtain ⟨reports, -, added⟩ := (handOver_undisturbed c.session).reports
    exact ⟨reports, added⟩
  | followed =>
    obtain ⟨_, same⟩ := follow_frame c.session
    rw [withSession_session, same]
    exact nothing

/-- **Nothing is lost, doubled or reordered in a run.** -/
theorem inbound_of_run? {c c' : Closing τ} {acts : List (Act τ)} (run : c.run? acts = some c') :
    c'.session.traffic.inbound = c.session.traffic.inbound ++ c.heard acts := by
  induction acts generalizing c with
  | nil =>
      obtain rfl := Option.some.inj run
      rw [heard, List.append_nil]
  | cons act rest ih =>
      obtain ⟨next, made, remaining⟩ := Option.bind_eq_some_iff.mp run
      have first := (conveyed_of_acted (acted_of_act? made)).inbound
      rw [ih remaining, first, heard, made, Option.elim_some, List.append_assoc]

/-! ## What a closed session keeps back -/

/-- **A worker that has been told to shut down hears of nothing more**: its order waits, and
commands come first. -/
theorem deaf {c c' : Closing τ} (orderly : c.Orderly) (told : c.phase.isTold = true) :
    c.act? (.other .takeEvent) ≠ some c' := by
  intro made
  simp only [act?, permits, Option.ite_none_right_eq_some, Bool.and_eq_true, List.isEmpty_iff] at made
  obtain ⟨⟨-, empty⟩, made⟩ := made
  obtain ⟨s, moved, -⟩ := Option.map_eq_some_iff.mp made
  have waits := orderly.told told (takeEvent?_inversion moved).1
  rw [empty] at waits
  cases waits

/-- The ticker works until it is told to stop, and when it has stopped by itself it has left nothing
behind. -/
structure Flushed (c : Closing τ) : Prop where
  working : c.phase.isSignalled = false → c.session.ticker = .running
  emptied : c.session.ticker = .stopped → .ticker ∉ c.aborted → c.session.traffic.buffered = []

omit [Transport τ] in
/-- A ticker with a period to work with sets to work. -/
theorem start_flushed {profile : Profile} {transport : τ} {settings : Settings}
    (accepted : settings.firstZero? = none) :
    (start (create profile transport settings.session)).Flushed := by
  have period := (Settings.firstZero?_eq_none_iff.mp accepted).1
  refine ⟨fun _ => by simp [start, create, period], fun stopped => ?_⟩
  simp [start, create, period] at stopped

/-- A ticker that stops by itself hands over what is buffered. -/
theorem stopped_of_acted {c c' : Closing τ} {act : Act τ} (acted : c.Acted act c')
    (stopped : c'.session.ticker = .stopped) :
    c.session.ticker = .stopped ∨ .ticker ∈ c.aborted ∨ c'.session.traffic.buffered = [] := by
  cases acted with
  | began | ended | joined | lapsed | missed | fainted | ousted => exact .inl stopped
  | asked =>
    obtain ⟨_, _, _, _, _, _, _, same⟩ := ask_frame c.session .disconnect
    exact .inl (by simpa [same] using stopped)
  | told =>
    obtain ⟨_, sent⟩ := send?_getD c.session .shutdown
    simp only [sent] at stopped
    exact .inl stopped
  | signalled =>
    simp only [stopTicker] at stopped
    split at stopped
    · cases stopped
    · exact .inl stopped
  | left => exact .inl (by simpa using stopped)
  | moved permitted made =>
    rcases ticker_of_move? made with same | ⟨-, rfl⟩
    · exact .inl (same.symm.trans stopped)
    · exact .inr (.inr (handOver_buffered c.session))
  | unhinged aborted => exact .inr (.inl aborted)
  | lateTicked => exact .inr (.inr (handOver_buffered c.session))
  | followed =>
    obtain ⟨_, same⟩ := follow_frame c.session
    exact .inl (by simpa [same] using stopped)

/-- Nobody whom the closing call has aborted is taken back. -/
theorem aborted_of_acted {c c' : Closing τ} {act : Act τ} (acted : c.Acted act c') {party : Party}
    (aborted : party ∈ c.aborted) : party ∈ c'.aborted := by
  cases acted with
  | missed => exact List.mem_cons_of_mem _ aborted
  | _ => exact aborted

/-- A ticker that works goes on until it is told to stop. -/
theorem Flushed.working_of_acted {c c' : Closing τ} {act : Act τ} (orderly : c.Orderly)
    (flushed : c.Flushed) (acted : c.Acted act c') (early : c'.phase.isSignalled = false) :
    c'.session.ticker = .running := by
  have working := flushed.working
  have spared := orderly.spared
  cases acted with
  | began phase | ended phase | lapsed phase => exact working (by rw [phase]; rfl)
  | asked phase =>
    obtain ⟨_, _, _, _, _, _, _, same⟩ := ask_frame c.session .disconnect
    simpa [same] using working (by rw [phase]; rfl)
  | told phase =>
    obtain ⟨_, sent⟩ := send?_getD c.session .shutdown
    simp only [sent]
    exact working (by rw [phase]; rfl)
  | signalled | left => cases early
  | joined party | missed party => cases party <;> cases early
  | moved permitted made =>
    have before := working early
    rcases ticker_of_move? made with same | ⟨stopping, -⟩
    · exact same.trans before
    · exact absurd (before.symm.trans stopping) (by simp)
  | fainted | ousted => exact working early
  | unhinged aborted =>
    -- nobody is aborted that early
    rw [spared early] at aborted
    cases aborted
  | lateTicked stopping => exact absurd ((working early).symm.trans stopping) (by simp)
  | followed =>
    obtain ⟨_, same⟩ := follow_frame c.session
    simpa [same] using working early

/-- **Every act keeps it so that a ticker leaves nothing behind.** -/
theorem flushed_of_act? {c c' : Closing τ} {act : Act τ} (orderly : c.Orderly) (flushed : c.Flushed)
    (made : c.act? act = some c') : c'.Flushed := by
  have acted := acted_of_act? made
  refine ⟨flushed.working_of_acted orderly acted, fun stopped kept => ?_⟩
  rcases stopped_of_acted acted stopped with before | aborted | empty
  · -- the ticker had stopped before, and so the worker was deaf
    have signalled : c.phase.isSignalled = true := by
      by_contra early
      exact absurd (before.symm.trans (flushed.working (by simpa using early))) (by simp)
    have silent : c.heardBy act = [] := by
      cases act with
      | other move =>
        cases move with
        | takeEvent => exact absurd made (deaf orderly (Phase.isTold_of_isSignalled signalled))
        | _ => rfl
      | _ => rfl
    have empty := flushed.emptied before fun aborted => kept (aborted_of_acted acted aborted)
    exact (conveyed_of_acted acted).emptied silent empty
  · exact absurd (aborted_of_acted acted aborted) kept
  · exact empty

end Closing

end MqttSessions
