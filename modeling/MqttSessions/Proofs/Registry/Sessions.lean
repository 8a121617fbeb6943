import MqttSessions.Proofs.Closing.Schedule
import MqttSessions.Proofs.Registry.Steps

/-! # What stays true of a registry's sessions

Later on a session still belongs to the same profile, and if it was over it is over (**`Session.Later`**).
It is so after any move of any party, after time has passed (**`Session.Later.pass`**), and after the
session has been closed (**`Session.Later.close`**), and so it is of all sessions of a registry at once
(**`Registry.Aged`**). -/

namespace MqttSessions

open Session

/-! ## Closing changes nothing about whose session it is -/

theorem Closing.fixed_of_acted {τ : Type} [Transport τ] {c c' : Closing τ} {act : Act τ}
    (acted : c.Acted act c') :
    c'.session.profile = c.session.profile ∧ c'.session.settings = c.session.settings := by
  cases acted with
  | asked =>
    obtain ⟨_, _, _, _, _, _, _, same⟩ := ask_frame c.session .disconnect
    change (c.session.ask .disconnect).2.profile = _ ∧ (c.session.ask .disconnect).2.settings = _
    rw [same]
    exact ⟨rfl, rfl⟩
  | told =>
    change ((c.session.send? .shutdown).getD c.session).profile = _ ∧
      ((c.session.send? .shutdown).getD c.session).settings = _
    rw [send?]
    split <;> exact ⟨rfl, rfl⟩
  | left =>
    change c.session.forceDisconnected.profile = _ ∧ c.session.forceDisconnected.settings = _
    rw [forceDisconnected]
    split <;> exact ⟨rfl, rfl⟩
  | moved permitted made =>
    obtain ⟨profile, settings, -⟩ := fixed_of_move? made
    exact ⟨profile, settings⟩
  | lateTicked =>
    obtain ⟨_, _, same⟩ := handOver_frame c.session
    change c.session.handOver.profile = _ ∧ c.session.handOver.settings = _
    rw [same]
    exact ⟨rfl, rfl⟩
  | followed =>
    obtain ⟨_, same⟩ := follow_frame c.session
    change c.session.follow.profile = _ ∧ c.session.follow.settings = _
    rw [same]
    exact ⟨rfl, rfl⟩
  | _ => exact ⟨rfl, rfl⟩

namespace Session

variable {τ : Type}

/-- A session that has been closed is set up as it was. -/
theorem close_fixed [Transport τ] {s : Session τ} (opened : s.closed = false)
    (positive : s.settings.disconnectTimeout ≠ 0) :
    s.close.profile = s.profile ∧ s.close.settings = s.settings := by
  obtain ⟨acts, aborted, run, -⟩ := Closing.run?_close opened positive
  refine Closing.run?_induct
    (fun c => c.session.profile = s.profile ∧ c.session.settings = s.settings) ?_ ⟨rfl, rfl⟩ run
  rintro c c' act ⟨profile, settings⟩ made
  obtain ⟨profile', settings'⟩ := Closing.fixed_of_acted (Closing.acted_of_act? made)
  exact ⟨profile'.trans profile, settings'.trans settings⟩

/-! ## Later -/

/-- What is known of a session later on: it belongs to the same profile, and if it was over it is over
and nothing has been recorded. A session that has been closed once is over, if it always was. -/
structure Later (s s' : Session τ) : Prop where
  profile : s'.profile = s.profile
  settings : s'.settings = s.settings
  sealed : (s.closed = true → s.Over) → s'.closed = true → s'.Over
  ended : s.Over → s'.Over ∧ Unrecorded s s'

namespace Later

variable {s s' s'' : Session τ}

theorem refl (s : Session τ) : Later s s := ⟨rfl, rfl, id, fun ended => ⟨ended, .refl s⟩⟩

theorem trans (first : Later s s') (second : Later s' s'') : Later s s'' where
  profile := second.profile.trans first.profile
  settings := second.settings.trans first.settings
  sealed := second.sealed ∘ first.sealed
  ended before := by
    obtain ⟨ended', unrecorded⟩ := first.ended before
    obtain ⟨ended'', unrecorded'⟩ := second.ended ended'
    exact ⟨ended'', unrecorded.trans unrecorded'⟩

/-- A step that closes nothing. -/
theorem of_closed_eq (profile : s'.profile = s.profile) (settings : s'.settings = s.settings)
    (closed : s'.closed = s.closed) (ended : s.Over → s'.Over ∧ Unrecorded s s') : Later s s' :=
  ⟨profile, settings, fun sealed shut => (ended (sealed (closed ▸ shut))).1, ended⟩

/-- A step that leaves all but the follower and the clock alone. -/
theorem of_same (follower : Follower) (now : Nat) (same : s' = { s with follower, now }) :
    Later s s' := by
  subst same
  exact of_closed_eq rfl rfl rfl fun ended =>
    ⟨ended.congr rfl ended.state rfl rfl rfl, .of_same rfl rfl rfl rfl rfl⟩

theorem stopFollower (s : Session τ) : Later s s.stopFollower := of_same _ s.now rfl

theorem takeRefreshes (s : Session τ) : Later s s.takeRefreshes.2 := of_same _ s.now rfl

theorem follow (s : Session τ) : Later s s.follow := by
  obtain ⟨follower, same⟩ := follow_frame s
  exact of_same follower s.now same

variable [Transport τ]

/-- **Any move of any party.** -/
theorem of_move? (move : Move τ) (made : s.move? move = some s') : Later s s' := by
  obtain ⟨profile, settings, closed⟩ := fixed_of_move? made
  exact of_closed_eq profile settings closed fun ended => ended.of_move? made

/-- All that the parties do on their own. -/
theorem ownSteps : OwnSteps fun s s' : Session τ => Later s s' :=
  .of_moves .refl .trans (fun move _ => of_move? move) .follow

/-- **Time passes.** -/
theorem pass (s : Session τ) (ms : Nat) : Later s (s.pass ms) := by
  rw [Session.pass]
  split
  · exact .refl s
  · exact ownSteps.advance (of_move? .tick) (fun s now => of_same s.follower now rfl) s ms

/-- **A session is closed.** -/
theorem close (positive : s.settings.disconnectTimeout ≠ 0) : Later s s.close := by
  cases closed : s.closed with
  | true =>
    rw [show s.close = s from if_pos closed]
    exact .refl s
  | false =>
    obtain ⟨profile, settings⟩ := close_fixed closed positive
    have ended : s.close.Over := close_over closed positive
    exact ⟨profile, settings, fun _ _ => ended,
      fun before => absurd (before.closed.symm.trans closed) (by simp)⟩

/-- A session that is closed is over, also if it was closed before. -/
theorem over_of_close (positive : s.settings.disconnectTimeout ≠ 0)
    (sealed : s.closed = true → s.Over) : s.close.Over := by
  cases closed : s.closed with
  | true =>
    -- closing once more does nothing
    rw [show s.close = s from if_pos closed]
    exact sealed closed
  | false => exact close_over closed positive

end Later

end Session

/-! ## All sessions at once -/

namespace Registry

variable {τ : Type} {r r' : Registry τ}

/-- Between two moments of a registry only time has passed: its sessions are the same sessions later on,
and nothing but fresh looks has been announced. -/
structure Aged (r r' : Registry τ) : Prop extends Refreshed r r' where
  sessions : ∀ number, Option.Rel Later (r.session? number) (r'.session? number)

namespace Aged

/-- A session that is there later on was there before. -/
theorem before (aged : Aged r r') {number : Nat} {s' : Session τ} (found : r'.session? number = some s') :
    ∃ s, r.session? number = some s ∧ s.Later s' := by
  have related := aged.sessions number
  rw [found] at related
  cases there : r.session? number with
  | none => rw [there] at related; cases related
  | some s =>
    rw [there] at related
    cases related with
    | some later => exact ⟨s, rfl, later⟩

/-- A session that was there before is there later on. -/
theorem after (aged : Aged r r') {number : Nat} {s : Session τ} (found : r.session? number = some s) :
    ∃ s', r'.session? number = some s' ∧ s.Later s' := by
  have related := aged.sessions number
  rw [found] at related
  cases there : r'.session? number with
  | none => rw [there] at related; cases related
  | some s' =>
    rw [there] at related
    cases related with
    | some later => exact ⟨s', rfl, later⟩

theorem refl (r : Registry τ) : Aged r r where
  toRefreshed := .refl r
  sessions number := by
    cases r.session? number with
    | none => exact .none
    | some s => exact .some (.refl s)

/-- Every session has changed by itself. -/
theorem of_map (refreshed : Refreshed r r')
    (map : ∀ number, ∃ f : Session τ → Session τ, r'.session? number = (r.session? number).map f ∧
      ∀ s, r.session? number = some s → s.Later (f s)) : Aged r r' where
  toRefreshed := refreshed
  sessions number := by
    obtain ⟨f, same, later⟩ := map number
    rw [same]
    cases found : r.session? number with
    | none => exact .none
    | some s => exact .some (later s found)

end Aged

variable [Transport τ]

theorem advance_aged (r : Registry τ) (ms : Nat) : Aged r (r.advance ms) := by
  refine .of_map (r.advance_refreshed ms) fun number => ?_
  refine ⟨fun s => (s.pass ms).takeRefreshes.2, r.advance_session? ms number, fun s _ => ?_⟩
  exact (Later.pass s ms).trans (.takeRefreshes _)

/-- **A step of a session makes all sessions older**, if it makes that one older. -/
theorem inSession_aged {α : Type} {number : Nat} {step : Session τ → α × Session τ}
    (later : ∀ s, r.session? number = some s → s.Later (step s).2) :
    Aged r (r.inSession number step).2 := by
  refine .of_map (r.inSession_refreshed number step) fun other => ?_
  cases found : r.session? number with
  | none =>
    rw [inSession_of_none found]
    exact ⟨id, (congrFun Option.map_id _).symm, fun s _ => .refl s⟩
  | some s =>
    rw [inSession_session? found]
    by_cases same : other = number
    · subst same
      refine ⟨fun s => (step s).2.takeRefreshes.2, ?_, fun s found => ?_⟩
      · rw [if_pos rfl, found, Option.map_some]
      · exact (later s found).trans (.takeRefreshes _)
    · rw [if_neg same, advance_session?]
      exact ⟨_, rfl, fun s _ => (Later.pass s _).trans (.takeRefreshes _)⟩

/-- A registry after one move of one of a session's parties, which changes nothing if it is impossible. -/
def moved (r : Registry τ) (number : Nat) (move : Move τ) : Registry τ :=
  match (r.session? number).bind (·.move? move) with
  | none => r
  | some s => { r with sessions := r.sessions.set number s }

theorem moved_aged (r : Registry τ) (number : Nat) (move : Move τ) : Aged r (r.moved number move) := by
  rw [moved]
  split
  · exact .refl r
  · rename_i s' made
    obtain ⟨s, found, made'⟩ := Option.bind_eq_some_iff.mp made
    refine .of_map (.withSessions r _) fun other => ?_
    have within := (List.getElem?_eq_some_iff.mp found).1
    by_cases same : other = number
    · subst same
      refine ⟨fun _ => s', ?_, fun t there => ?_⟩
      · rw [found]
        simp [session?, within]
      · obtain rfl := Option.some.inj (found.symm.trans there)
        exact .of_move? move made'
    · refine ⟨id, ?_, fun t _ => .refl t⟩
      simp [session?, List.getElem?_set_ne (Ne.symm same)]

end Registry

end MqttSessions
