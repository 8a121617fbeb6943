import MqttSessions.Proofs.Registry.Observed

/-! # Whole calls of a registry

A call of a registry that is made while nobody else does anything is one of the runs of a watched registry:
the call evicts one session after the other, the parties of that session stop, and then the time that this
has taken passes for the others (**`Watched.leads_evict`**). So what is true of all runs of a watched
registry is true of a world whose deeds are done one after the other (**`Watched.run_of_deeds`**). -/

namespace MqttSessions

open Session

/-- What holds of a list, and still holds whenever an item is replaced in its turn, holds when all are. -/
theorem mapIdx_induct {α : Type} {l : List α} {f : Nat → α → α} (Holds : List α → Prop) (first : Holds l)
    (turn : ∀ l' n a, Holds l' → l'[n]? = some a → l[n]? = some a → Holds (l'.set n (f n a))) :
    Holds (l.mapIdx f) := by
  -- some items have had their turn, and the others are as they were
  suffices goes : ∀ rest earlier done : List α, l = earlier ++ rest → done.length = earlier.length →
      Holds (done ++ rest) → Holds (done ++ rest.mapIdx fun n => f (n + done.length)) from
    goes l [] [] rfl rfl first
  intro rest
  induction rest with
  | nil => exact fun _ _ _ _ holds => holds
  | cons a rest ih =>
    intro earlier done split even holds
    have turned := turn (done ++ a :: rest) done.length a holds (by simp) (by rw [split, even]; simp)
    rw [List.set_append_right _ _ (Nat.le_refl _), Nat.sub_self, List.set_cons_zero] at turned
    have later := ih (earlier ++ [a]) (done ++ [f done.length a]) (by simp [split]) (by simp [even])
      (by simpa using turned)
    simpa [List.mapIdx_cons, Nat.add_assoc, Nat.add_comm 1] using later

/-- Time that passes closes no session and opens none. -/
theorem Session.pass_closed {τ : Type} [Transport τ] (s : Session τ) (ms : Nat) :
    (s.pass ms).closed = s.closed := by
  have moved {s s' : Session τ} (move : Move τ) (made : s.move? move = some s') : s'.closed = s.closed :=
    closed_of_move? made
  have followed (s : Session τ) : s.follow.closed = s.closed := by
    obtain ⟨_, same⟩ := follow_frame s
    rw [same]
  have steps : OwnSteps fun s s' : Session τ => s'.closed = s.closed :=
    .of_moves (fun _ => rfl) (fun first second => second.trans first) (fun move _ => moved move) followed
  rw [pass]
  split
  · rfl
  · exact steps.advance (fun made => moved .tick made) (fun _ _ => rfl) s ms

/-- Whether the worker takes its orders in a deed: it only hears of its link when no command waits. -/
def World.Obeys {τ φ : Type} (w : World τ φ) : Deed τ → Prop
  | .move number .takeEvent => ∀ s, w.registry.session? number = some s → s.commands = []
  | _ => True

/-- What is put last stays. -/
theorem Registry.put_put {τ : Type} (r : Registry τ) (number : Nat) (s s' : Session τ) :
    (r.put number s).put number s' = r.put number s' := by
  simp [put]

namespace Closing

variable {τ : Type} [Transport τ]

/-- Nobody is just closing a session: it has not been closed, or it is over, and nobody but its worker
had to be aborted. -/
def Idle (c : Closing τ) : Prop :=
  c.session.closed = false ∧ c = start c.session ∨
    c.session.Over ∧ c.phase = .returned ∧ ∀ party ∈ c.aborted, party = .worker

omit [Transport τ] in
theorem Idle.unhindered {c : Closing τ} (idle : c.Idle) : c.Unhindered := by
  intro party mem
  obtain ⟨-, fresh⟩ | ⟨ended, -, aborts⟩ := idle
  · rw [fresh] at mem
    exact absurd mem List.not_mem_nil
  · obtain rfl := aborts party mem
    exact ⟨rfl, hasStopped_worker_iff.mp (ended.stopped .worker)⟩

/-- Whatever move a party of an idle session can make is permitted, if the worker takes its orders first. -/
theorem Idle.permits {c : Closing τ} {s : Session τ} {move : Move τ} (idle : c.Idle)
    (made : c.session.move? move = some s) (obeys : move = .takeEvent → c.session.commands = []) :
    c.permits move = true := by
  obtain ⟨-, fresh⟩ | ⟨ended, -, aborts⟩ := idle
  · rw [fresh]
    cases move <;> simp [Closing.permits, start, obeys]
  · have spared {party : Party} (other : party ≠ .worker) : party ∉ c.aborted :=
      fun mem => other (aborts party mem)
    -- the worker has stopped
    have down : c.session.worker.footing = .stopped := hasStopped_worker_iff.mp (ended.stopped .worker)
    cases move with
    | takeCommand => exact absurd (down.symm.trans (takeCommand?_eq_some_iff.mp made).1) (by simp)
    | takeEvent => exact absurd (down.symm.trans (takeEvent?_inversion made).1) (by simp)
    | dispatch => simp [Closing.permits, spared]
    | tick => simp [Closing.permits, spared]
    | finishTicker => simp [Closing.permits, spared]
    | _ => rfl

/-- **Closing a session leads from rest to rest.** -/
theorem Idle.close {c : Closing τ} (idle : c.Idle) (positive : c.session.settings.disconnectTimeout ≠ 0) :
    ∃ aborted, c.Reaches ⟨c.session.close, .returned, aborted⟩ ∧
      Idle (⟨c.session.close, .returned, aborted⟩ : Closing τ) := by
  obtain ⟨opened, fresh⟩ | ⟨ended, returned, aborts⟩ := idle
  · obtain ⟨acts, aborted, run, aborts⟩ := run?_close opened positive
    exact ⟨aborted, ⟨acts, fresh ▸ run⟩, .inr ⟨close_over opened positive, rfl, aborts⟩⟩
  · -- closing once more does nothing
    have same : c.session.close = c.session := if_pos ended.closed
    refine ⟨c.aborted, ?_⟩
    rw [same, ← returned]
    exact ⟨.refl c, .inr ⟨ended, returned, aborts⟩⟩

omit [Transport τ] in
/-- A session that does something on its own stays idle. -/
theorem Idle.withSession {c : Closing τ} {s : Session τ} (idle : c.Idle)
    (closed : s.closed = c.session.closed) (ended : c.session.Over → s.Over) : (c.withSession s).Idle := by
  obtain ⟨opened, fresh⟩ | ⟨before, returned, aborts⟩ := idle
  · refine .inl ⟨closed.trans opened, ?_⟩
    rw [fresh]
    rfl
  · exact .inr ⟨ended before, returned, aborts⟩

end Closing

namespace Watched

variable {τ : Type} [Transport τ] {m m' m'' : Watched τ} {id : String}

/-! ## Runs -/

/-- Some run leads from one moment to another. -/
def Leads (m m' : Watched τ) : Prop := ∃ steps, m.run? steps = some m'

theorem Leads.refl (m : Watched τ) : m.Leads m := ⟨[], rfl⟩

theorem Leads.trans (first : m.Leads m') (second : m'.Leads m'') : m.Leads m'' := by
  obtain ⟨earlier, run⟩ := first
  obtain ⟨later, run'⟩ := second
  exact ⟨earlier ++ later, by rw [run?_append, run, Option.bind_some, run']⟩

theorem Leads.step (step : Step τ) (made : m.step? step = some m') : m.Leads m' :=
  ⟨[step], by rw [run?, made, Option.bind_some, run?]⟩

omit [Transport τ] in
/-- A session with the call that closes it is where it was put. -/
theorem withClosing_closing (m : Watched τ) (number : Nat) (c : Closing τ) :
    (m.withClosing number c).closing number c.session = c := by
  simp [withClosing, closing]

omit [Transport τ] in
theorem withClosing_withClosing (m : Watched τ) (number : Nat) (c c' : Closing τ) :
    (m.withClosing number c).withClosing number c' = m.withClosing number c' := by
  simp [withClosing, Registry.put_put]

omit [Transport τ] in
/-- Nothing changes when a session is put where it is. -/
theorem withClosing_self {number : Nat} {s : Session τ} (found : m.registry.session? number = some s) :
    m.withClosing number (m.closing number s) = m := by
  obtain ⟨within, there⟩ := List.getElem?_eq_some_iff.mp found
  simp [withClosing, Registry.put, closing, ← there]

/-- **What is done to a session while it is being closed** is done in the registry. -/
theorem leads_of_reaches {number : Nat} {s : Session τ} {c : Closing τ}
    (found : m.registry.session? number = some s) (reaches : (m.closing number s).Reaches c) :
    m.Leads (m.withClosing number c) := by
  obtain ⟨acts, run⟩ := reaches
  -- by induction on the acts, from wherever the call that closes the session stands
  suffices goes : ∀ {first : Closing τ}, first.run? acts = some c →
      (m.withClosing number first).Leads (m.withClosing number c) by
    have whole := goes run
    rwa [withClosing_self found] at whole
  clear run
  induction acts with
  | nil =>
    intro first run
    obtain rfl := Option.some.inj run
    exact .refl _
  | cons act rest ih =>
    intro first run
    obtain ⟨next, made, run⟩ := Option.bind_eq_some_iff.mp run
    refine .trans (.step (.act number act) ?_) (ih run)
    have there : (m.withClosing number first).registry.session? number = some first.session :=
      (Registry.put_session? found _ number).trans (if_pos rfl)
    rw [step?, there, Option.bind_some, withClosing_closing, made, Option.map_some, withClosing_withClosing]

/-- **What is done to each session on its own** is done one after the other. -/
theorem leads_of_each (f : Nat → Session τ → Session τ)
    (each : ∀ number s, m.registry.session? number = some s →
      (m.closing number s).Reaches ((m.closing number s).withSession (f number s))) :
    m.Leads { m with registry := { m.registry with sessions := m.registry.sessions.mapIdx f } } := by
  let having (sessions : List (Session τ)) : Watched τ :=
    { m with registry := { m.registry with sessions } }
  refine mapIdx_induct (fun sessions => m.Leads (having sessions)) (.refl m) ?_
  intro sessions number s before there found
  refine before.trans ?_
  have turn := leads_of_reaches (m := having sessions) there (each number s found)
  have become : (having sessions).withClosing number ((m.closing number s).withSession (f number s)) =
      having (sessions.set number (f number s)) := by
    simp [having, withClosing, closing, Registry.put]
  exact become ▸ turn

/-- What the followers have asked for is announced. -/
theorem leads_refreshAll (m : Watched τ) : m.Leads { m with registry := m.registry.refreshAll } := by
  rw [Registry.refreshAll]
  generalize List.range m.registry.sessions.length = numbers
  induction numbers generalizing m with
  | nil => exact .refl m
  | cons number rest ih =>
    exact .trans (.step (.relay number) rfl) (ih { m with registry := m.registry.refresh number })

/-! ## When nobody else does anything -/

/-- Nobody is just closing a session of a registry. -/
structure Tidy (m : Watched τ) : Prop where
  free : ∀ number, m.registry.session? number = none → m.closings number = (.ahead, [])
  idle : ∀ number s, m.registry.session? number = some s → (m.closing number s).Idle

omit [Transport τ] in
/-- A registry stays tidy when each session is what it was but for what it does on its own. -/
theorem Tidy.later (tidy : m.Tidy) (closings : m'.closings = m.closings)
    (each : ∀ number, ∃ f : Session τ → Session τ,
      m'.registry.session? number = (m.registry.session? number).map f ∧
        ∀ s, m.registry.session? number = some s → (f s).closed = s.closed ∧ (s.Over → (f s).Over)) :
    m'.Tidy where
  free number absent := by
    obtain ⟨f, there, -⟩ := each number
    rw [closings]
    refine tidy.free number ?_
    rw [there] at absent
    exact Option.map_eq_none_iff.mp absent
  idle number s found := by
    obtain ⟨f, there, kept⟩ := each number
    rw [there] at found
    obtain ⟨before, earlier, rfl⟩ := Option.map_eq_some_iff.mp found
    obtain ⟨closed, ended⟩ := kept before earlier
    rw [closing, closings]
    exact (tidy.idle number before earlier).withSession closed ended

/-- **Time passes**, for all sessions or for all but one, and what is asked for meanwhile is announced. -/
theorem leads_passTime (tidy : m.Tidy) (ms : Nat) (but : Option Nat) :
    m.Leads { m with registry := (m.registry.passTime ms but).refreshAll } := by
  have passed : m.Leads { m with registry := m.registry.passTime ms but } := by
    rw [Registry.passTime]
    split
    · exact .refl m
    · refine leads_of_each _ fun number s found => ?_
      split
      · exact .refl _
      · exact (Session.advance_reaches _ ms (tidy.idle number s found).unhindered).1
  exact passed.trans (leads_refreshAll _)

/-- A registry stays tidy while time passes. -/
theorem Tidy.passTime (tidy : m.Tidy) (ms : Nat) (but : Option Nat) :
    Tidy { m with registry := (m.registry.passTime ms but).refreshAll } := by
  refine tidy.later rfl fun number =>
    ⟨fun s => (if but = some number then s else s.pass ms).takeRefreshes.2, ?_, fun s found => ?_⟩
  · rw [Registry.refreshAll_session?, Registry.passTime_session?, Option.map_map]
    rfl
  · have passes : (if but = some number then s else s.pass ms).closed = s.closed ∧
        Later s (if but = some number then s else s.pass ms) := by
      split
      · exact ⟨rfl, .refl s⟩
      · exact ⟨s.pass_closed ms, .pass s ms⟩
    exact ⟨passes.1, fun ended => ((passes.2.trans (.takeRefreshes _)).ended ended).1⟩

omit [Transport τ] in
/-- A registry stays tidy when a session is put back idle. -/
theorem Tidy.withClosing (tidy : m.Tidy) {number : Nat} {s : Session τ} {c : Closing τ}
    (found : m.registry.session? number = some s) (idle : c.Idle) : (m.withClosing number c).Tidy where
  free other absent := by
    change (m.registry.put number c.session).session? other = none at absent
    rw [Registry.put_session? found] at absent
    split at absent
    · cases absent
    · rename_i differ
      exact (Function.update_of_ne differ _ _).trans (tidy.free other absent)
  idle other t there := by
    change (m.registry.put number c.session).session? other = some t at there
    rw [Registry.put_session? found] at there
    split at there
    · rename_i same
      obtain rfl := Option.some.inj there
      rw [same, withClosing_closing]
      exact idle
    · rename_i differ
      have same : (m.withClosing number c).closing other t = m.closing other t := by
        simp [Watched.withClosing, closing, differ]
      rw [same]
      exact tidy.idle other t there

omit [Transport τ] in
/-- A registry stays tidy when a follower is cut off. -/
theorem Tidy.cut {task : Task} {number : Nat} {s : Session τ} (tidy : m.Tidy)
    (found : m.registry.session? number = some s) : (m.cut task id number s).Tidy := by
  refine tidy.later rfl fun other =>
    ⟨fun t => if other = number then t.stopFollower else t, ?_, fun t _ => ?_⟩
  · rw [cut_session? found]
    split
    · rename_i same
      rw [same, found, Option.map_some]
    · rw [Option.map_id']
  · split
    · exact ⟨rfl, fun ended => ((Later.stopFollower t).ended ended).1⟩
    · exact ⟨rfl, fun ended => ended⟩

/-- The follower of a session that has been closed is cut off. -/
theorem leads_cut {task : Task} {number : Nat} {own : Bool} {s : Session τ} (underWay : m.task = some task)
    (leaving : task.leaving = some (id, number, own)) (found : m.registry.session? number = some s)
    (returned : (m.closings number).1 = .returned) : m.Leads (m.cut task id number s) := by
  refine .step .proceed ?_
  have free : ¬(own = true ∧ (m.closings number).1 ≠ .returned) := fun waits => waits.2 returned
  rw [step?, underWay, Option.bind_some, pursue?, leaving]
  dsimp only
  rw [if_neg free, found, Option.map_some]

/-- **A call evicts the next session.** -/
theorem leads_evict {purpose : Purpose} {rest : List String} (tidy : m.Tidy) (sound : m.registry.Sound)
    (underWay : m.task = some ⟨purpose, id :: rest, none⟩) :
    ∃ m', m.Leads m' ∧ m'.Tidy ∧ m'.registry = m.registry.evict id ∧ m'.disk = m.disk ∧
      m'.task = some ⟨purpose, rest, none⟩ := by
  have next : m.Leads (m.evictNext ⟨purpose, id :: rest, none⟩ id rest) := by
    refine .step .proceed ?_
    rw [step?, underWay]
    rfl
  cases cached : m.registry.cached? id with
  | none =>
    rw [evictNext, cached] at next
    exact ⟨_, next, ⟨tidy.free, tidy.idle⟩, (Registry.evict_of_none cached).symm, rfl, rfl⟩
  | some number =>
    obtain ⟨s, found, -⟩ := sound.owned _ (Registry.mem_of_cached? cached)
    have positive : s.settings.disconnectTimeout ≠ 0 := sound.tuned number s found ▸ sound.timed
    rw [evictNext, cached] at next
    -- the session begins to leave, and is closed
    set leaving : Task := ⟨purpose, rest, some (id, number, (m.closings number).1 == .ahead)⟩
    set begun : Watched τ := { m with registry := m.registry.uncache id, task := some leaving }
    obtain ⟨aborted, closes, idle⟩ := (tidy.idle number s found).close positive
    set ended : Watched τ := begun.withClosing number ⟨s.close, .returned, aborted⟩
    have closed : begun.Leads ended := leads_of_reaches (m := begun) found closes
    have there : ended.registry.session? number = some s.close :=
      (Registry.put_session? (r := begun.registry) found s.close number).trans (if_pos rfl)
    have tidy' : ended.Tidy := Tidy.withClosing (m := begun) ⟨tidy.free, tidy.idle⟩ found idle
    have returned : (ended.closings number).1 = .returned := by
      simp [ended, withClosing]
    -- its follower is cut off, and time passes for the others
    have cuts : ended.Leads (ended.cut leaving id number s.close) := leads_cut rfl rfl there returned
    have tidy'' : (ended.cut leaving id number s.close).Tidy := tidy'.cut there
    have passed := leads_passTime tidy'' (s.close.now - s.now) (some number)
    refine ⟨_, ((next.trans closed).trans cuts).trans passed, tidy''.passTime _ _, ?_, rfl, rfl⟩
    rw [Registry.evict_of_some cached, Registry.inSession_of_some (r := m.registry.uncache id) found]
    have cutOff : (ended.cut leaving id number s.close).registry =
        (m.registry.uncache id).put number s.close.stopFollower := Registry.put_put _ _ _ _
    exact congrArg (fun r => (Registry.passTime r (s.close.now - s.now) (some number)).refreshAll) cutOff

/-- **A call evicts one session after the other.** -/
theorem leads_evictAll {purpose : Purpose} {queue : List String} (tidy : m.Tidy) (sound : m.registry.Sound)
    (underWay : m.task = some ⟨purpose, queue, none⟩) :
    ∃ m', m.Leads m' ∧ m'.Tidy ∧ m'.registry = queue.foldl Registry.evict m.registry ∧ m'.disk = m.disk ∧
      m'.task = some ⟨purpose, [], none⟩ := by
  induction queue generalizing m with
  | nil => exact ⟨m, .refl m, tidy, rfl, rfl, underWay⟩
  | cons id rest ih =>
    obtain ⟨next, first, tidy', evicted, disk, underWay'⟩ := leads_evict tidy sound underWay
    obtain ⟨last, later, tidy'', all, disk', done⟩ := ih tidy' (evicted ▸ sound.evict id) underWay'
    exact ⟨last, first.trans later, tidy'', by rw [all, evicted, List.foldl_cons], disk'.trans disk, done⟩

/-- **A call evicts its sessions and does what it is for.** -/
theorem leads_call (purpose : Purpose) (queue : List String) (disk : Disk) (tidy : m.Tidy)
    (sound : m.registry.Sound) :
    ∃ m' : Watched τ,
      Leads { m with disk, task := some ⟨purpose, queue, none⟩ } (m'.finish purpose) ∧ m'.Tidy ∧
      m'.registry = queue.foldl Registry.evict m.registry ∧ m'.disk = disk := by
  set begun : Watched τ := { m with disk, task := some ⟨purpose, queue, none⟩ }
  have tidy' : begun.Tidy := ⟨tidy.free, tidy.idle⟩
  obtain ⟨m', evicts, tidy'', evicted, same, underWay⟩ := leads_evictAll tidy' sound rfl
  have finishes : m'.step? .proceed = some (m'.finish purpose) := by
    rw [step?, underWay]
    rfl
  exact ⟨m', evicts.trans (.step _ finishes), tidy'', evicted, same⟩

/-! ## Deeds -/

/-- A registry that is watched is that of a world: no call is under way, and nobody is just closing a
session. -/
structure Shadows {φ : Type} (m : Watched τ) (w : World τ φ) : Prop where
  tidy : m.Tidy
  registry : m.registry = w.registry
  disk : m.disk = w.disk
  free : m.task = none

omit [Transport τ] in
/-- A registry stays tidy when nothing is done to its sessions. -/
theorem Tidy.same (tidy : m.Tidy) (closings : m'.closings = m.closings)
    (sessions : ∀ number, m'.registry.session? number = m.registry.session? number) : m'.Tidy := by
  refine tidy.later closings fun number => ⟨fun s => s, ?_, fun _ _ => ⟨rfl, fun ended => ended⟩⟩
  rw [sessions, Option.map_id']

section Shadows

variable {φ : Type} {w : World τ φ}

/-- **A profile is deleted.** -/
theorem Shadows.delete (shadows : m.Shadows w) (sound : w.registry.Sound) (make : Profile → φ → τ × φ)
    (id : String) : ∃ m', m.Leads m' ∧ m'.Shadows (w.after make (.delete id)) := by
  obtain ⟨r, disk, factory, made⟩ := w
  obtain ⟨tidy, rfl, rfl, free⟩ := shadows
  have deletes := m.registry.delete_eq m.disk id
  cases place : m.registry.index? id with
  | none =>
    rw [place] at deletes
    exact ⟨m, .refl m, tidy, (congrArg Prod.fst deletes).symm, (congrArg Prod.snd deletes).symm, free⟩
  | some index =>
    rw [place] at deletes
    have begun : m.step? (.delete id) = some { m with task := some ⟨.delete id index, [id], none⟩ } := by
      rw [step?, free, place]
      rfl
    obtain ⟨m', calls, tidy', evicted, same⟩ := leads_call (.delete id index) [id] m.disk tidy sound
    have place' : m'.registry.index? id = some index := by
      rw [evicted, Registry.index?, List.foldl_cons, List.foldl_nil,
        (m.registry.evict_refreshed id).profiles]
      exact place
    have deleted : m'.registry.deleteAt m'.disk id index = (m.registry.delete m.disk id).2 := by
      rw [evicted, same, deletes]
      rfl
    refine ⟨_, (Leads.step _ begun).trans calls, tidy'.same rfl fun number => ?_, congrArg Prod.fst deleted,
      congrArg Prod.snd deleted, rfl⟩
    change (m'.registry.deleteAt m'.disk id index).1.session? number = _
    rcases Registry.deleteAt_cases m'.disk place' with ⟨_, unsaved⟩ | ⟨_, saved⟩
    · rw [unsaved]
    · rw [saved]
      rfl

/-- **The document is read again.** -/
theorem Shadows.reload (shadows : m.Shadows w) (sound : w.registry.Sound) (make : Profile → φ → τ × φ)
    (ids : Nat → String) : ∃ m', m.Leads m' ∧ m'.Shadows (w.after make (.reload ids)) := by
  obtain ⟨r, disk, factory, made⟩ := w
  obtain ⟨tidy, rfl, rfl, free⟩ := shadows
  have reloads := m.registry.reload_eq m.disk ids
  cases fetches : m.registry.store.fetch m.disk fun k => ids (m.registry.issued + k) with
  | mk after list =>
    rw [fetches] at reloads
    cases list with
    | error failure =>
      have made : m.step? (.reload ids []) = some { m with disk := after } := by
        rw [step?, free, fetches]
        rfl
      exact ⟨_, .step _ made, ⟨tidy.free, tidy.idle⟩, (congrArg Prod.fst reloads).symm,
        (congrArg Prod.snd reloads).symm, free⟩
    | ok fetched =>
      set order := m.registry.vanished fetched.loaded.profiles
      set task : Task := ⟨.reload fetched.loaded, order, none⟩
      have begun : m.step? (.reload ids order) = some { m with disk := after, task := some task } := by
        rw [step?, free, fetches]
        exact if_pos (List.Perm.refl order)
      obtain ⟨m', calls, tidy', evicted, same⟩ := leads_call (.reload fetched.loaded) order after tidy sound
      refine ⟨_, (Leads.step _ begun).trans calls, tidy'.same rfl fun _ => rfl, ?_, ?_, rfl⟩
      · change m'.registry.relist fetched.loaded = _
        rw [evicted]
        exact (congrArg Prod.fst reloads).symm
      · exact same.trans (congrArg Prod.snd reloads).symm

/-- **All sessions are closed.** -/
theorem Shadows.shutdown (shadows : m.Shadows w) (sound : w.registry.Sound) (make : Profile → φ → τ × φ) :
    ∃ m', m.Leads m' ∧ m'.Shadows (w.after make .shutdown) := by
  obtain ⟨r, disk, factory, made⟩ := w
  obtain ⟨tidy, rfl, rfl, free⟩ := shadows
  set order := m.registry.cache.map Prod.fst
  have begun : m.step? (.shutdown order) = some { m with task := some ⟨.shutdown, order, none⟩ } := by
    rw [step?, free]
    exact if_pos (List.Perm.refl order)
  obtain ⟨m', calls, tidy', evicted, same⟩ := leads_call .shutdown order m.disk tidy sound
  exact ⟨_, (Leads.step _ begun).trans calls, tidy'.same rfl fun _ => rfl, evicted, same, rfl⟩

/-- **A session is asked for**, and created if there is none. -/
theorem Shadows.client (shadows : m.Shadows w) (sound : w.registry.Sound) (make : Profile → φ → τ × φ)
    (id : String) : ∃ m', m.Leads m' ∧ m'.Shadows (w.after make (.client id)) := by
  obtain ⟨tidy, registry, disk, free⟩ := shadows
  rcases World.client_cases w make id with ⟨same, -⟩ | ⟨profile, listed, named, uncached, asked⟩
  · exact ⟨m, .refl m, tidy, registry.trans (congrArg World.registry same).symm,
      disk.trans (congrArg World.disk same).symm, free⟩
  · set transport := (make profile w.factory).1
    have found : w.registry.profile? id = some profile := by
      rw [← named]
      exact Registry.profile?_of_distinct sound.distinct listed
    have creates : (w.registry.client (fun _ => transport) id).2 = w.registry.enrol profile transport := by
      rw [Registry.client, Registry.clientFrom, uncached, found]
      subst named
      rfl
    have made : m.step? (.client id transport) =
        some { m with registry := w.registry.enrol profile transport } := by
      rw [step?, free, registry, creates]
      rfl
    refine ⟨_, .step _ made, ⟨fun number absent => ?_, fun number s there => ?_⟩, ?_, ?_, free⟩
    · -- a number that is still free was free before
      have absent : (w.registry.enrol profile transport).session? number = none := absent
      refine tidy.free number (registry ▸ ?_)
      by_contra before
      obtain ⟨s, there⟩ := Option.ne_none_iff_exists'.mp before
      rw [Registry.enrol_session?_of_some there] at absent
      cases absent
    · rcases Registry.enrol_session?_cases there with ⟨last, rfl⟩ | before
      · -- the new session has not been closed
        have unused : m.closings number = (.ahead, []) := by
          refine tidy.free number (registry ▸ ?_)
          rw [last]
          exact List.getElem?_eq_none (Nat.le_refl _)
        refine .inl ⟨rfl, ?_⟩
        rw [closing, unused]
        rfl
      · exact tidy.idle number s (registry ▸ before)
    · exact (congrArg (fun answer => World.registry (Prod.snd answer)) asked).symm
    · exact disk.trans (congrArg (fun answer => World.disk (Prod.snd answer)) asked).symm

/-- **A session is closed by whoever holds it.** -/
theorem Shadows.close (shadows : m.Shadows w) (sound : w.registry.Sound) (make : Profile → φ → τ × φ)
    (number : Nat) : ∃ m', m.Leads m' ∧ m'.Shadows (w.after make (.close number)) := by
  obtain ⟨tidy, registry, disk, free⟩ := shadows
  cases found : w.registry.session? number with
  | none =>
    refine ⟨m, .refl m, tidy, ?_, disk, free⟩
    exact registry.trans (congrArg Prod.snd (Registry.inSession_of_none found fun s => ((), s.close))).symm
  | some s =>
    have there : m.registry.session? number = some s := registry ▸ found
    have positive : s.settings.disconnectTimeout ≠ 0 := sound.tuned number s found ▸ sound.timed
    obtain ⟨aborted, closes, idle⟩ := (tidy.idle number s there).close positive
    have closed := leads_of_reaches there closes
    have tidy' := tidy.withClosing there idle
    have passed := leads_passTime tidy' (s.close.now - s.now) (some number)
    refine ⟨_, closed.trans passed, tidy'.passTime _ _, ?_, disk, free⟩
    have whole := congrArg Prod.snd (Registry.inSession_of_some found fun s => ((), s.close))
    refine Eq.trans ?_ whole.symm
    rw [← registry]
    rfl

/-- **A party makes a move.** -/
theorem Shadows.move (shadows : m.Shadows w) (make : Profile → φ → τ × φ) (number : Nat) (move : Move τ)
    (obeys : w.Obeys (.move number move)) :
    ∃ m', m.Leads m' ∧ m'.Shadows (w.after make (.move number move)) := by
  obtain ⟨tidy, registry, disk, free⟩ := shadows
  have moves : (w.after make (.move number move)).registry = w.registry.moved number move := rfl
  rw [Registry.moved] at moves
  cases made : (w.registry.session? number).bind (·.move? move) with
  | none =>
    -- a move that cannot be made leaves a world as it is
    rw [made] at moves
    exact ⟨m, .refl m, tidy, registry.trans moves.symm, disk, free⟩
  | some s' =>
    rw [made] at moves
    obtain ⟨s, found, made⟩ := Option.bind_eq_some_iff.mp made
    have there : m.registry.session? number = some s := registry ▸ found
    have idle := tidy.idle number s there
    have permitted : (m.closing number s).permits move = true := by
      refine idle.permits made ?_
      rintro rfl
      exact obeys s found
    have turn := leads_of_reaches there (.move move permitted made)
    have stays : ((m.closing number s).withSession s').Idle := by
      have later : Later s s' := .of_move? move made
      exact idle.withSession (closed_of_move? made) fun ended => (later.ended ended).1
    have put : m.registry.put number s' = (w.after make (.move number move)).registry := by
      rw [moves, registry]
      rfl
    exact ⟨_, turn, tidy.withClosing there stays, put, disk, free⟩

/-- **A deed of a world is a run of a registry that is watched.** -/
theorem Shadows.after (shadows : m.Shadows w) (sound : w.registry.Sound) (make : Profile → φ → τ × φ)
    {deed : Deed τ} (obeys : w.Obeys deed) : ∃ m', m.Leads m' ∧ m'.Shadows (w.after make deed) := by
  cases deed with
  | delete id => exact shadows.delete sound make id
  | reload ids => exact shadows.reload sound make ids
  | client id => exact shadows.client sound make id
  | shutdown => exact shadows.shutdown sound make
  | close number => exact shadows.close sound make number
  | move number move => exact shadows.move make number move obeys
  | add profile =>
    obtain ⟨tidy, registry, disk, free⟩ := shadows
    have made : m.step? (.add profile) = some { m with
        registry := (w.registry.add w.disk profile).2.1
        disk := (w.registry.add w.disk profile).2.2 } := by
      rw [step?, free, registry, disk]
      rfl
    refine ⟨_, .step _ made, tidy.same rfl fun number => ?_, rfl, rfl, free⟩
    rw [registry]
    cases adds : w.registry.add w.disk profile with
    | mk outcome rest =>
      obtain ⟨r, after⟩ := rest
      cases Registry.added_of_add adds <;> rfl
  | elapse ms =>
    obtain ⟨tidy, registry, disk, free⟩ := shadows
    refine ⟨_, leads_passTime tidy ms none, tidy.passTime ms none, ?_, disk, free⟩
    exact congrArg (fun r => (Registry.passTime r ms none).refreshAll) registry
  | edit change =>
    obtain ⟨tidy, registry, disk, free⟩ := shadows
    exact ⟨_, .step (.edit change) rfl, ⟨tidy.free, tidy.idle⟩, registry, congrArg change disk, free⟩

/-- Deeds in which the workers take their orders, done one after the other. -/
def InOrder (make : Profile → φ → τ × φ) : World τ φ → List (Deed τ) → Prop
  | _, [] => True
  | w, deed :: rest => w.Obeys deed ∧ InOrder make (w.after make deed) rest

/-- **A world whose deeds are done one after the other is a registry that is watched.** -/
theorem shadow_run (make : Profile → φ → τ × φ) {deeds : List (Deed τ)} (shadows : m.Shadows w)
    (sound : w.registry.Sound) (inOrder : InOrder make w deeds) :
    ∃ m', m.Leads m' ∧ m'.Shadows (w.run make deeds) := by
  induction deeds generalizing m w with
  | nil => exact ⟨m, .refl m, shadows⟩
  | cons deed rest ih =>
    obtain ⟨obeys, inOrder⟩ := inOrder
    obtain ⟨next, first, shadows'⟩ := shadows.after sound make obeys
    obtain ⟨last, later, shadows''⟩ := ih shadows' (World.continued_after sound make deed).sound inOrder
    exact ⟨last, first.trans later, shadows''⟩

omit [Transport τ] in
/-- A world whose registry has just been opened is watched from the start. -/
theorem shadows_opened (store : Store) (settings : SessionSettings) (disk : Disk) (ids : Nat → String)
    (factory : φ) :
    (opened (τ := τ) store settings disk ids).Shadows (World.opened store settings disk ids factory) where
  tidy := ⟨fun _ _ => rfl, fun number s there => by cases (List.getElem?_eq_some_iff.mp there).1⟩
  registry := rfl
  disk := rfl
  free := rfl

/-- **Whatever deeds lead to, steps lead to.** -/
theorem run_of_deeds {settings : Settings} (valid : settings.firstZero? = none) (make : Profile → φ → τ × φ)
    (store : Store) (disk : Disk) (ids : Nat → String) (factory : φ) {deeds : List (Deed τ)}
    (inOrder : InOrder make (World.opened store settings.session disk ids factory) deeds) :
    ∃ steps m, (opened store settings.session disk ids).run? steps = some m ∧
      m.registry = ((World.opened store settings.session disk ids factory).run make deeds).registry ∧
      m.disk = ((World.opened store settings.session disk ids factory).run make deeds).disk := by
  have sound : (World.opened (τ := τ) store settings.session disk ids factory).registry.Sound :=
    Registry.sound_of_create valid store disk ids
  have shadows := shadows_opened (τ := τ) store settings.session disk ids factory
  obtain ⟨m, ⟨steps, ran⟩, shadows'⟩ := shadow_run make shadows sound inOrder
  exact ⟨steps, m, ran, shadows'.registry, shadows'.disk⟩

end Shadows

end Watched

end MqttSessions
