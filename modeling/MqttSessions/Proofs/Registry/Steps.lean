import Mathlib.Data.List.Basic
import MqttSessions.Registry.Calls

/-! # What a step of a session leaves alone in its registry

A step of one session changes nothing of a registry but its sessions and its announcements: that
session, the others by the time that passes meanwhile (**`Session.pass`**), and all by the fresh looks
that are taken (**`Registry.inSession_session?`**). What is announced are fresh looks only
(**`Registry.Refreshed`**). -/

namespace MqttSessions

/-- A session after some time; no time is no step. -/
def Session.pass {τ : Type} [Transport τ] (s : Session τ) (ms : Nat) : Session τ :=
  if ms = 0 then s else s.advance ms

namespace Registry

variable {τ : Type}

/-- Between two moments of a registry only its sessions have moved, and nothing but fresh looks has been
announced. -/
structure Refreshed (r r' : Registry τ) : Prop where
  store : r'.store = r.store
  settings : r'.settings = r.settings
  profiles : r'.profiles = r.profiles
  cache : r'.cache = r.cache
  issued : r'.issued = r.issued
  changes : ∃ ids : List String, r'.changes = (ids.map RowChange.refreshed).foldl Feed.push r.changes

namespace Refreshed

variable {r r' r'' : Registry τ}

theorem refl (r : Registry τ) : Refreshed r r := ⟨rfl, rfl, rfl, rfl, rfl, [], rfl⟩

theorem trans (first : Refreshed r r') (second : Refreshed r' r'') : Refreshed r r'' where
  store := second.store.trans first.store
  settings := second.settings.trans first.settings
  profiles := second.profiles.trans first.profiles
  cache := second.cache.trans first.cache
  issued := second.issued.trans first.issued
  changes := by
    obtain ⟨earlier, changes⟩ := first.changes
    obtain ⟨later, changes'⟩ := second.changes
    refine ⟨earlier ++ later, ?_⟩
    rw [changes', changes, List.map_append, List.foldl_append]

/-- Whatever is cached is still cached. -/
theorem cached? (refreshed : Refreshed r r') (id : String) : r'.cached? id = r.cached? id := by
  rw [Registry.cached?, Registry.cached?, refreshed.cache]

theorem withSessions (r : Registry τ) (sessions : List (Session τ)) :
    Refreshed r { r with sessions } :=
  ⟨rfl, rfl, rfl, rfl, rfl, [], rfl⟩

end Refreshed

/-! ## Fresh looks -/

theorem foldl_announce (changes : List RowChange) (r : Registry τ) :
    changes.foldl announce r = { r with changes := changes.foldl Feed.push r.changes } := by
  induction changes generalizing r with
  | nil => rfl
  | cons change rest ih => exact ih (r.announce change)

/-- What is announced for a session, and what is left of it. -/
theorem refresh_eq (r : Registry τ) (number : Nat) :
    r.refresh number =
      match r.session? number with
      | none => r
      | some s =>
        { r with
          sessions := r.sessions.set number s.takeRefreshes.2
          changes := (List.replicate s.takeRefreshes.1 (RowChange.refreshed s.profile.id)).foldl
            Feed.push r.changes } := by
  rw [refresh, session?]
  cases r.sessions[number]? with
  | none => rfl
  | some s => exact foldl_announce _ _

theorem refresh_refreshed (r : Registry τ) (number : Nat) : Refreshed r (r.refresh number) := by
  rw [refresh_eq]
  split
  · exact .refl r
  · rename_i s _
    exact ⟨rfl, rfl, rfl, rfl, rfl, List.replicate s.takeRefreshes.1 s.profile.id,
      by rw [List.map_replicate]⟩

theorem refreshAll_refreshed (r : Registry τ) : Refreshed r r.refreshAll := by
  rw [refreshAll]
  generalize List.range r.sessions.length = numbers
  induction numbers generalizing r with
  | nil => exact .refl r
  | cons number rest ih => exact (r.refresh_refreshed number).trans (ih _)

/-- Taking the fresh looks of one session leaves the others as they are. -/
theorem refresh_session? (r : Registry τ) (number other : Nat) :
    (r.refresh number).session? other =
      (r.session? other).map fun s => if other = number then s.takeRefreshes.2 else s := by
  rw [refresh_eq]
  by_cases same : other = number
  · subst same
    cases found : r.session? other with
    | none => simp [found]
    | some s =>
      have within := (List.getElem?_eq_some_iff.mp found).1
      simp [session?, within]
  · cases r.session? number with
    | none => simp [same]
    | some s => simp [session?, List.getElem?_set_ne (Ne.symm same), same]

theorem foldl_refresh_session? (numbers : List Nat) (distinct : numbers.Nodup) (r : Registry τ)
    (other : Nat) :
    (numbers.foldl refresh r).session? other =
      (r.session? other).map fun s => if other ∈ numbers then s.takeRefreshes.2 else s := by
  induction numbers generalizing r with
  | nil => simp
  | cons number rest ih =>
    obtain ⟨fresh, distinct⟩ := List.nodup_cons.mp distinct
    rw [List.foldl_cons, ih distinct, refresh_session?, Option.map_map]
    refine congrArg (Option.map · (r.session? other)) (funext fun s => ?_)
    -- a number comes once, so that nobody's fresh looks are taken twice
    by_cases same : other = number
    · subst same
      simp [fresh]
    · simp [same]

/-- The fresh looks of all sessions are taken. -/
theorem refreshAll_session? (r : Registry τ) (number : Nat) :
    r.refreshAll.session? number = (r.session? number).map fun s => s.takeRefreshes.2 := by
  rw [refreshAll, foldl_refresh_session? _ List.nodup_range]
  cases found : r.session? number with
  | none => rfl
  | some s =>
    have within := (List.getElem?_eq_some_iff.mp found).1
    simp [within]

/-! ## Time -/

variable [Transport τ]

theorem passTime_refreshed (r : Registry τ) (ms : Nat) (but : Option Nat) :
    Refreshed r (r.passTime ms but) := by
  rw [passTime]
  split
  · exact .refl r
  · exact .withSessions r _

theorem passTime_session? (r : Registry τ) (ms : Nat) (but : Option Nat) (number : Nat) :
    (r.passTime ms but).session? number =
      (r.session? number).map fun s => if but = some number then s else s.pass ms := by
  by_cases none_ : ms = 0
  · simp [passTime, none_, Session.pass]
  · simp [passTime, none_, Session.pass, session?, List.getElem?_mapIdx]

theorem advance_refreshed (r : Registry τ) (ms : Nat) : Refreshed r (r.advance ms) :=
  (r.passTime_refreshed ms none).trans (refreshAll_refreshed _)

/-- **Time passes for all sessions alike**, each on its own. -/
theorem advance_session? (r : Registry τ) (ms number : Nat) :
    (r.advance ms).session? number =
      (r.session? number).map fun s => (s.pass ms).takeRefreshes.2 := by
  rw [Registry.advance, refreshAll_session?, passTime_session?, Option.map_map]
  rfl

/-! ## Steps -/

variable {α : Type}

/-- How long a step of a session takes. -/
def span (step : Session τ → α × Session τ) (s : Session τ) : Nat := (step s).2.now - s.now

theorem inSession_of_none {r : Registry τ} {number : Nat} (absent : r.session? number = none)
    (step : Session τ → α × Session τ) : r.inSession number step = (none, r) := by
  rw [session?] at absent
  rw [inSession, absent]

theorem inSession_of_some {r : Registry τ} {number : Nat} {s : Session τ}
    (found : r.session? number = some s) (step : Session τ → α × Session τ) :
    r.inSession number step = (some (step s).1,
      (({ r with sessions := r.sessions.set number (step s).2 }).passTime (span step s)
        (some number)).refreshAll) := by
  rw [session?] at found
  rw [inSession, found]
  rfl

theorem inSession_refreshed (r : Registry τ) (number : Nat) (step : Session τ → α × Session τ) :
    Refreshed r (r.inSession number step).2 := by
  cases found : r.session? number with
  | none =>
    rw [inSession_of_none found]
    exact .refl r
  | some s =>
    rw [inSession_of_some found]
    exact (Refreshed.withSessions r _).trans
      ((passTime_refreshed _ _ _).trans (refreshAll_refreshed _))

/-- **A step of a session changes that session**; for the others, the time that it takes passes. -/
theorem inSession_session? {r : Registry τ} {number : Nat} {s : Session τ}
    (found : r.session? number = some s) (step : Session τ → α × Session τ) (other : Nat) :
    (r.inSession number step).2.session? other =
      if other = number then some (step s).2.takeRefreshes.2
      else (r.advance (span step s)).session? other := by
  rw [inSession_of_some found, refreshAll_session?, passTime_session?]
  have within := (List.getElem?_eq_some_iff.mp found).1
  by_cases same : other = number
  · subst same
    simp [session?, within]
  · rw [if_neg same, advance_session?]
    simp [session?, List.getElem?_set_ne (Ne.symm same), Ne.symm same, Function.comp_def]

end Registry

end MqttSessions
