import MqttSessions.Proofs.Closing.Acts
import MqttSessions.Proofs.Session.Noted

/-! # The calls made while a session is closed

As in a run of a session alone, the calls made to a transport while the session is closed are those
that a noting transport notes (**`Closing.callsIn`**), for noting changes nothing about a run
(**`Closing.run?_unnoted`**). -/

namespace MqttSessions

namespace Session

variable {τ : Type}

theorem stopWorker_unnoted (s : Session (Noted τ)) : s.unnoted.stopWorker = s.stopWorker.unnoted := rfl

theorem follow_unnoted (s : Session (Noted τ)) : s.unnoted.follow = s.follow.unnoted := by
  simp only [follow, show s.unnoted.follower = s.follower from rfl]
  split <;> rfl

theorem forceDisconnected_unnoted (s : Session (Noted τ)) :
    s.unnoted.forceDisconnected = s.forceDisconnected.unnoted := by
  simp only [forceDisconnected, show s.unnoted.state = s.state from rfl]
  split <;> rfl

theorem hasStopped_unnoted (s : Session (Noted τ)) (party : Party) :
    s.unnoted.hasStopped party = s.hasStopped party := by
  cases party <;> rfl

theorem drop?_unnoted (s : Session (Noted τ)) (party : Party) :
    s.unnoted.drop? party = (s.drop? party).map unnoted := by
  cases party with
  | worker =>
    simp only [drop?, stopWorker_unnoted,
      show s.unnoted.worker.isStopped = s.worker.isStopped from rfl]
    split <;> rfl
  | ticker =>
    simp only [drop?, show s.unnoted.ticker = s.ticker from rfl]
    split <;> rfl
  | dispatcher => rfl

end Session

namespace Closing

open Session

variable {τ : Type}

/-- The same act over a transport that notes its calls. -/
def Act.noted : Act τ → Act (Noted τ)
  | .proceed => .proceed
  | .expire => .expire
  | .drop party => .drop party
  | .faint => .faint
  | .lateTick => .lateTick
  | .follow => .follow
  | .other move => .other move.noted

/-- The same session at the same point, without the notes of its transport. -/
def unnoted (c : Closing (Noted τ)) : Closing τ := ⟨c.session.unnoted, c.phase, c.aborted⟩

/-- The same session at the same point, over a transport that has noted nothing yet. -/
def noted (c : Closing τ) : Closing (Noted τ) := ⟨c.session.noted, c.phase, c.aborted⟩

/-- The closing call goes on the same. -/
theorem proceed?_unnoted (c : Closing (Noted τ)) : c.unnoted.proceed? = c.proceed?.map unnoted := by
  obtain ⟨s, phase, aborted⟩ := c
  cases phase with
  | ahead | signalling | returned => rfl
  | asking =>
    have asked := ask_unnoted s .disconnect
    simp only [ask] at asked
    simp only [proceed?, unnoted, asked, Option.map_some]
  | waiting =>
    simp only [proceed?, unnoted, show s.unnoted.state = s.state from rfl]
    split <;> rfl
  | telling =>
    simp only [proceed?, unnoted, send?_unnoted]
    cases s.send? .shutdown <;> rfl
  | joining party =>
    simp only [proceed?, unnoted, hasStopped_unnoted]
    split <;> rfl
  | leaving => simp only [proceed?, unnoted, forceDisconnected_unnoted, Option.map_some]

/-- Its deadlines are over at the same times. -/
theorem giveUp?_unnoted (c : Closing (Noted τ)) : c.unnoted.giveUp? = c.giveUp?.map unnoted := by
  obtain ⟨s, phase, aborted⟩ := c
  cases phase <;> rfl

theorem permits_unnoted (c : Closing (Noted τ)) (move : Move τ) :
    c.unnoted.permits move = c.permits move.noted := by
  cases move <;> rfl

variable [Transport τ]

/-- An act does the same. -/
theorem act?_unnoted (c : Closing (Noted τ)) (act : Act τ) :
    c.unnoted.act? act = (c.act? act.noted).map unnoted := by
  cases act with
  | proceed => exact proceed?_unnoted c
  | expire => exact giveUp?_unnoted c
  | drop party =>
    simp only [act?, Act.noted, show c.unnoted.aborted = c.aborted from rfl,
      show c.unnoted.session = c.session.unnoted from rfl, drop?_unnoted]
    split
    · cases c.session.drop? party <;> rfl
    · rfl
  | faint =>
    simp only [act?, Act.noted, permits_unnoted c .takeEvent, Move.noted,
      show c.unnoted.session.worker.footing = c.session.worker.footing from rfl,
      show c.unnoted.session.worker.link = c.session.worker.link from rfl]
    split <;> rfl
  | lateTick =>
    simp only [act?, Act.noted, permits_unnoted c .tick, Move.noted,
      show c.unnoted.session = c.session.unnoted from rfl, handOver_unnoted,
      show c.session.unnoted.ticker = c.session.ticker from rfl]
    split <;> rfl
  | follow =>
    simp only [act?, Act.noted, show c.unnoted.session = c.session.unnoted from rfl, follow_unnoted]
    rfl
  | other move =>
    simp only [act?, Act.noted, permits_unnoted, show c.unnoted.session = c.session.unnoted from rfl,
      move?_unnoted]
    split
    · cases c.session.move? move.noted <;> rfl
    · rfl

/-- **Noting calls changes nothing about a run.** -/
theorem run?_unnoted (c : Closing (Noted τ)) (acts : List (Act τ)) :
    c.unnoted.run? acts = (c.run? (acts.map Act.noted)).map unnoted := by
  induction acts generalizing c with
  | nil => rfl
  | cons act rest ih =>
      rw [List.map_cons, run?_cons, run?_cons, act?_unnoted]
      cases c.act? act.noted with
      | none => rfl
      | some next => exact ih next

/-- The calls that are made to the transport in a run. -/
def callsIn (c : Closing τ) (acts : List (Act τ)) : List Call :=
  (c.noted.run? (acts.map Act.noted)).elim [] (·.session.worker.transport.calls)

/-- A run is also a run over a transport that notes its calls, and those are the calls made in it.
-/
theorem noted_of_run? {c c' : Closing τ} {acts : List (Act τ)} (run : c.run? acts = some c') :
    ∃ n : Closing (Noted τ), c.noted.run? (acts.map Act.noted) = some n ∧ n.unnoted = c' ∧
      c.callsIn acts = n.session.worker.transport.calls := by
  have same := c.noted.run?_unnoted acts
  rw [show c.noted.unnoted = c from rfl, run] at same
  obtain ⟨n, ran, unnoted⟩ := Option.map_eq_some_iff.mp same.symm
  exact ⟨n, ran, unnoted, by rw [callsIn, ran, Option.elim_some]⟩

end Closing

end MqttSessions
