import MqttSessions.Proofs.Session.Effects
import MqttSessions.Session.Run

/-! # What happens while nobody calls

While nobody calls, a session settles and time passes. Both are repetitions of steps of its parties, so
that whatever each of those leads to (**`Session.OwnSteps`**), settling leads to
(**`Session.OwnSteps.settle`**) and the passing of time as well (**`Session.OwnSteps.advance`**).

A session is at rest (**`Session.AtRest`**) when its worker has nothing to do and nothing but messages
waits to be dispatched. However much time passes, its state is what it was
(**`Session.AtRest.advance`**). -/

namespace MqttSessions

/-! ## Repeated moves -/

/-- A move that cannot be made is not repeated. -/
theorem exhaust_of_none {α : Type} {move : α → Option α} {a : α} (stuck : move a = none) (fuel : Nat) :
    exhaust move fuel a = a := by
  cases fuel with
  | zero => rfl
  | succ fuel => rw [exhaust, stuck]

/-- Whatever a move does from one place to the next, it does when it is repeated. -/
theorem exhaust_induct {α : Type} {move : α → Option α} (Leads : α → α → Prop)
    (refl : ∀ a, Leads a a) (trans : ∀ {a b c}, Leads a b → Leads b c → Leads a c)
    (step : ∀ {a b}, move a = some b → Leads a b) (fuel : Nat) (a : α) :
    Leads a (exhaust move fuel a) := by
  induction fuel generalizing a with
  | zero => exact refl a
  | succ fuel ih =>
      rw [exhaust]
      cases made : move a with
      | none => exact refl a
      | some b => exact trans (step made) (ih b)

/-- What is true where a move cannot be made and wherever a move has led is true where a move has
been repeated. -/
theorem exhaust_post {α : Type} {move : α → Option α} (Done : α → Prop)
    (stuck : ∀ {a}, move a = none → Done a) (led : ∀ {a b}, move a = some b → Done b) {fuel : Nat}
    (some_ : fuel ≠ 0) (a : α) : Done (exhaust move fuel a) := by
  induction fuel generalizing a with
  | zero => exact absurd rfl some_
  | succ fuel ih =>
      rw [exhaust]
      cases made : move a with
      | none => exact stuck made
      | some b =>
        cases fuel with
        | zero => exact led made
        | succ fuel => exact ih (Nat.succ_ne_zero fuel) b

namespace Session

variable {τ : Type} [Transport τ]

/-! ## Steps of the parties -/

/-- What the worker does next is a move: it takes a command, or hears of its link if no command waits. -/
theorem move_of_work? {s s' : Session τ} (made : s.work? = some s') :
    s.move? .takeCommand = some s' ∨ s.move? .takeEvent = some s' := by
  rw [work?] at made
  cases taken : s.takeCommand? with
  | none =>
    rw [taken] at made
    exact .inr made
  | some after =>
    rw [taken] at made
    exact .inl (taken.trans made)

/-- A relation between two moments of a session that every step leads to which a party or the follower
takes on its own in no time. -/
structure OwnSteps (Leads : Session τ → Session τ → Prop) : Prop where
  refl : ∀ s, Leads s s
  trans : ∀ {s s' s''}, Leads s s' → Leads s' s'' → Leads s s''
  work : ∀ {s s'}, s.work? = some s' → Leads s s'
  finish : ∀ {s s'}, s.finishTicker? = some s' → Leads s s'
  dispatch : ∀ {s s'}, s.dispatch? = some s' → Leads s s'
  follow : ∀ s, Leads s s.follow

namespace OwnSteps

variable {Leads : Session τ → Session τ → Prop}

/-- Whatever every move leads to, the parties lead to on their own; they do not make the network drift. -/
theorem of_moves (refl : ∀ s, Leads s s) (trans : ∀ {s s' s''}, Leads s s' → Leads s' s'' → Leads s s'')
    (moved : ∀ {s s'} (move : Move τ), (∀ change, move ≠ .drift change) → s.move? move = some s' → Leads s s')
    (follow : ∀ s, Leads s s.follow) : OwnSteps Leads where
  refl := refl
  trans := trans
  work made := by
    rcases move_of_work? made with taken | heard
    · exact moved .takeCommand nofun taken
    · exact moved .takeEvent nofun heard
  finish made := moved .finishTicker nofun made
  dispatch made := moved .dispatch nofun made
  follow := follow

/-- A step that may be impossible. -/
theorem getD (steps : OwnSteps Leads) {step? : Option (Session τ)} {s : Session τ}
    (step : ∀ s', step? = some s' → Leads s s') : Leads s (step?.getD s) := by
  cases step? with
  | none => exact steps.refl s
  | some s' => exact step s' rfl

theorem round? (steps : OwnSteps Leads) {s s' : Session τ} (made : s.round? = some s') :
    Leads s s' := by
  simp only [Session.round?, Option.ite_none_left_eq_some] at made
  obtain ⟨-, made⟩ := made
  obtain rfl := Option.some.inj made
  have worked : Leads s s.runWorker := exhaust_induct Leads steps.refl steps.trans steps.work _ s
  have finished : Leads s.runWorker (s.runWorker.finishTicker?.getD s.runWorker) :=
    steps.getD fun _ => steps.finish
  have dispatched (t : Session τ) : Leads t t.runDispatcher :=
    exhaust_induct Leads steps.refl steps.trans steps.dispatch _ t
  exact steps.trans worked (steps.trans finished (steps.trans (dispatched _) (steps.follow _)))

/-- **Settling leads where the steps of the parties lead.** -/
theorem settle (steps : OwnSteps Leads) (s : Session τ) : Leads s s.settle :=
  steps.trans (steps.follow s) (exhaust_induct Leads steps.refl steps.trans steps.round? _ s.follow)

/-- **So does the passing of time**, if the clock and the ticker lead there too. -/
theorem advance (steps : OwnSteps Leads) (tick : ∀ {s s'}, s.tick? = some s' → Leads s s')
    (clock : ∀ s now, Leads s { s with now }) (s : Session τ) (ms : Nat) :
    Leads s (s.advance ms) := by
  have ticked (s : Session τ) : Leads s (s.tick?.getD s).settle :=
    steps.trans (steps.getD fun _ => tick) (steps.settle _)
  simp only [Session.advance]
  refine steps.trans (steps.settle s) (steps.trans ?_ (clock _ _))
  split
  · exact ticked _
  · exact steps.refl _

end OwnSteps

/-! ## Sessions at rest -/

/-- A session whose worker has nothing to do, whose ticker has not been told to stop, and whose
dispatcher has nothing but messages to hand on. -/
structure AtRest (s : Session τ) : Prop where
  worker : s.work? = none
  ticker : s.ticker ≠ .stopping
  reports : ∀ report ∈ s.reports, ∃ batch, report = .messages batch

/-- What a worker can do depends on nothing but itself and the commands that wait. -/
theorem work?_eq_none_congr {s s' : Session τ} (worker : s'.worker = s.worker)
    (commands : s'.commands = s.commands) (idle : s.work? = none) : s'.work? = none := by
  rw [work?] at idle ⊢
  cases taken : s.takeCommand? with
  | some _ => rw [taken] at idle; cases idle
  | none =>
    rw [taken] at idle
    have command : s'.takeCommand? = none := by
      simp only [takeCommand?, worker, commands] at taken ⊢
      split at taken
      · cases taken
      · rfl
    rw [command]
    simp only [takeEvent?, worker] at idle ⊢
    split at idle
    · rfl
    · split at idle
      · rfl
      · cases idle
    · rfl

theorem AtRest.congr {s s' : Session τ} (rest : s.AtRest) (worker : s'.worker = s.worker)
    (commands : s'.commands = s.commands) (ticker : s'.ticker = s.ticker)
    (reports : ∀ report ∈ s'.reports, report ∈ s.reports ∨ ∃ batch, report = .messages batch) :
    s'.AtRest where
  worker := work?_eq_none_congr worker commands rest.worker
  ticker := ticker ▸ rest.ticker
  reports report mem := (reports report mem).elim (rest.reports report) id

/-- **Nobody leads a session at rest into another state**, however much time passes. -/
theorem AtRest.advance {s : Session τ} (rest : s.AtRest) (ms : Nat) :
    (s.advance ms).AtRest ∧ (s.advance ms).state = s.state := by
  -- rest is part of the relation, since it is what keeps the next step from changing the state
  let Still (s s' : Session τ) : Prop := s.AtRest → s'.AtRest ∧ s'.state = s.state
  have steps : OwnSteps Still := {
    refl := fun s rest => ⟨rest, rfl⟩
    trans := fun first second rest =>
      have once := first rest
      have twice := second once.1
      ⟨twice.1, twice.2.trans once.2⟩
    work := fun made rest => nomatch rest.worker.symm.trans made
    finish := fun made rest => absurd (Option.ite_none_right_eq_some.mp made).1 rest.ticker
    dispatch := by
      intro s s' made rest
      obtain ⟨report, others, queued, rfl⟩ := dispatch?_eq_some_iff.mp made
      obtain ⟨batch, rfl⟩ := rest.reports report (by simp [queued])
      exact ⟨rest.congr rfl rfl rfl fun other mem => .inl (by rw [queued]; exact .tail _ mem), rfl⟩
    follow := by
      intro s rest
      obtain ⟨_, same⟩ := follow_frame s
      rw [same]
      exact ⟨rest.congr rfl rfl rfl fun _ mem => .inl mem, rfl⟩ }
  refine steps.advance ?_ ?_ s ms rest
  · intro s s' made rest
    obtain rfl := Option.some.inj (Option.ite_none_right_eq_some.mp made).2
    unfold handOver
    split
    · exact ⟨rest, rfl⟩
    · refine ⟨rest.congr rfl rfl rfl fun report mem => ?_, rfl⟩
      exact (List.mem_append.mp mem).imp_right fun last => ⟨_, List.mem_singleton.mp last⟩
  · intro s now rest
    exact ⟨rest.congr rfl rfl rfl fun _ mem => .inl mem, rfl⟩

end Session

end MqttSessions
