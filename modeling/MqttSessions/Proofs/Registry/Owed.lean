import MqttSessions.Proofs.Registry.Snapshot
import MqttSessions.Proofs.Registry.Watched

/-! # What a registry owes its observers

Between a change and its announcement something is still to come: a follower that will ask for a fresh look
and has not been cut off, or the announcement of a whole list. Where neither will come a row has been given
up (**`Watched.Lost`**). A step of a watched registry leaves nothing unaccounted for: every row that it
changes is announced by the step or owed after it (**`Watched.Accounts`**), and so is what was owed before.

Each kind of step has a lemma of its own, and **`Watched.accounts_of_step?`** puts them together:

* somebody does something to a session, or what its follower has asked for is announced: `Watched.Puts`;
* the sessions are left alone, and the list changes or a call begins, goes on or ends;
* the follower of a session that has been closed is cut off: `Watched.accounts_of_cut`. -/

namespace MqttSessions

open Session

namespace Registry

/-- **A profile is deleted at its place** and that is announced, or the list cannot be saved and is what it
was. -/
theorem deleteAt_cases {τ : Type} {r : Registry τ} {id : String} {index : Nat} (disk : Disk)
    (place : r.index? id = some index) :
    (∃ disk', r.deleteAt disk id index = (r, disk')) ∨
      ∃ disk', r.deleteAt disk id index =
        ({ r with profiles := r.profiles.eraseIdx index }.announce (.removed index id), disk') := by
  rw [deleteAt, restore_eraseIdx place]
  cases r.store.save disk (r.profiles.eraseIdx index) with
  | mk disk' saved =>
    cases saved with
    | error => exact .inl ⟨disk', rfl⟩
    | ok => exact .inr ⟨disk', rfl⟩

end Registry

namespace Watched

variable {τ : Type} {m m' m'' : Watched τ} {id : String}

/-! ## What is owed -/

/-- The session that the registry holds for a profile: the cached one, or the one that is being closed by
the call that is under way. -/
def held? (m : Watched τ) (id : String) : Option Nat :=
  match m.task.bind Task.leaving with
  | some (other, number, _) => if other = id then some number else m.registry.cached? id
  | none => m.registry.cached? id

/-- Where the connection of a profile stands, also while its session is being closed. -/
def stateOf (m : Watched τ) (id : String) : ConnectionState :=
  ((m.held? id).bind m.registry.session?).elim .disconnected Session.state

/-- The row of a profile, also while its session is being closed. -/
def row? (m : Watched τ) (id : String) : Option Row :=
  (m.registry.profile? id).map fun profile => ⟨profile, m.stateOf id⟩

/-- A fresh look at a row is on its way: a follower has asked for it or will. -/
def Due (m : Watched τ) (id : String) : Prop :=
  ∃ number s, m.registry.session? number = some s ∧ s.profile.id = id ∧ s.Owing

/-- The list is about to be announced anew. -/
def Promised (m : Watched τ) : Prop := ∃ task loaded, m.task = some task ∧ task.purpose = .reload loaded

/-- A row has been given up: the follower of its session was cut off too early, and nothing that was
announced since is about the row. -/
def Lost (m : Watched τ) (id : String) : Prop :=
  ∃ position, (id, position) ∈ m.severed ∧
    ∀ change ∈ m.registry.changes.toList.drop position, change.refreshes id = false

/-- What may be missing for an observer to know a row. -/
def Owes (m : Watched τ) (id : String) : Prop := m.Due id ∨ m.Promised ∨ m.Lost id

/-- When no call is under way, the rows are those of the registry. -/
theorem row?_of_idle (idle : m.task = none) (id : String) : m.row? id = m.registry.row? id := by
  have held : m.held? id = m.registry.cached? id := by rw [held?, idle]; rfl
  rw [row?, stateOf, held, Registry.row?]
  cases found : m.registry.profile? id with
  | none => rfl
  | some profile =>
    have named : profile.id = id := by simpa using List.find?_some found
    rw [Option.map_some, Option.map_some, Registry.rowOf, named]
    rfl

/-! ## What holds throughout -/

/-- A call that is under way fits the registry: a session that it closes is not cached any more, a profile
that it deletes is still in its place, and a list that it takes over has no id twice. -/
structure Task.Fits (task : Task) (r : Registry τ) : Prop where
  leaving : ∀ id number own, task.leaving = some (id, number, own) → r.cached? id = none
  place : ∀ id index, task.purpose = .delete id index → r.index? id = some index
  relist : ∀ loaded, task.purpose = .reload loaded → (loaded.profiles.map Profile.id).Nodup

/-- What holds of a watched registry at any time. -/
structure Sound (m : Watched τ) : Prop where
  distinct : m.registry.ids.Nodup
  held : ∀ id number, m.held? id = some number →
    ∃ s, m.registry.session? number = some s ∧ s.profile.id = id ∧ s.follower.isActive = true
  within : ∀ number s, m.registry.session? number = some s → s.FollowerWithin
  fits : ∀ task, m.task = some task → task.Fits m.registry

/-- Between two moments just this has been announced, and what was owed is still owed or has been announced.
So it is with every row that has changed. -/
structure Tells (news : List RowChange) (m m' : Watched τ) : Prop where
  changes : m'.registry.changes = news.foldl Feed.push m.registry.changes
  owes : ∀ id, m.Owes id → m'.Owes id ∨ ∃ change ∈ news, change.refreshes id = true
  rows : ∀ id, m'.row? id ≠ m.row? id → m'.Owes id ∨ ∃ change ∈ news, change.shows id = true

/-- The session that is held for a profile is altered. -/
def Alters (m m' : Watched τ) (id : String) : Prop :=
  ∃ number s s', m.held? id = some number ∧ m.registry.session? number = some s ∧
    m'.registry.session? number = some s' ∧ Altered s s'

/-- **What a step leaves to be told**: also every session that is held and that it alters is owed a fresh
look. -/
structure Accounts (news : List RowChange) (m m' : Watched τ) : Prop extends Tells news m m' where
  altered : ∀ id, m.Alters m' id → m'.Owes id

/-! ## One step -/

/-- Where a connection stands depends on which session is held and on the sessions. -/
theorem stateOf_congr (held : m'.held? id = m.held? id)
    (sessions : ∀ number, m'.registry.session? number = m.registry.session? number) :
    m'.stateOf id = m.stateOf id := by
  rw [stateOf, stateOf, held]
  exact congrArg (Option.elim · _ _) (congrArg (Option.bind _) (funext sessions))

/-- One session is not held for two profiles. -/
theorem Sound.number_ne {other : String} {number number' : Nat} (sound : m.Sound)
    (held : m.held? id = some number) (held' : m.held? other = some number') (differ : other ≠ id) :
    number' ≠ number := by
  rintro rfl
  obtain ⟨s, there, owner, -⟩ := sound.held id number' held
  obtain ⟨t, there', owner', -⟩ := sound.held other number' held'
  obtain rfl := Option.some.inj (there.symm.trans there')
  exact differ (owner'.symm.trans owner)

/-- Rows with the same profiles and the same connections are the same. -/
theorem row?_congr (profile : m'.registry.profile? id = m.registry.profile? id)
    (state : m'.stateOf id = m.stateOf id) : m'.row? id = m.row? id := by
  rw [row?, row?, profile, state]

/-- A row that has been given up stays so until something is announced about it. -/
theorem Lost.told {news : List RowChange} (lost : m.Lost id)
    (severed : ∀ entry ∈ m.severed, entry ∈ m'.severed)
    (changes : m'.registry.changes = news.foldl Feed.push m.registry.changes) :
    m'.Lost id ∨ ∃ change ∈ news, change.refreshes id = true := by
  by_cases told : ∃ change ∈ news, change.refreshes id = true
  · exact .inr told
  · -- the silence since the follower was cut off goes on
    obtain ⟨position, noted, silent⟩ := lost
    refine .inl ⟨position, severed _ noted, fun change mem => ?_⟩
    rw [changes, Feed.toList_foldl_push, List.drop_append] at mem
    rcases List.mem_append.mp mem with earlier | later
    · exact silent change earlier
    · by_contra refreshes
      exact told ⟨change, List.mem_of_mem_drop later, by simpa using refreshes⟩

/-! ### A session is put in the place of one that it comes from -/

/-- A session is put in the place of one that it comes from, and what its follower has asked for may be
announced. -/
structure Puts (news : List RowChange) (number : Nat) (s s' : Session τ) (m m' : Watched τ) : Prop where
  found : m.registry.session? number = some s
  become : ∃ closings, m' = { m with
    registry := { m.registry.put number s' with changes := news.foldl Feed.push m.registry.changes }
    closings }
  profile : s'.profile = s.profile
  active : s'.follower.isActive = s.follower.isActive
  within : s.FollowerWithin → s'.FollowerWithin
  owing : s.Owing → s'.Owing ∨ ∃ change ∈ news, change.refreshes s.profile.id = true
  altered : s.follower.isActive = true → s.FollowerWithin → Altered s s' → s'.Owing

namespace Puts

variable {number : Nat} {s s' : Session τ} {news : List RowChange}

theorem self (puts : Puts news number s s' m m') : m'.registry.session? number = some s' := by
  obtain ⟨closings, rfl⟩ := puts.become
  exact (Registry.put_session? puts.found s' number).trans (if_pos rfl)

theorem others (puts : Puts news number s s' m m') {other : Nat} (differ : other ≠ number) :
    m'.registry.session? other = m.registry.session? other := by
  obtain ⟨closings, rfl⟩ := puts.become
  exact (Registry.put_session? puts.found s' other).trans (if_neg differ)

/-- A session that is there was there before, unless it is the one that was put. -/
theorem cases (puts : Puts news number s s' m m') {other : Nat} {t t' : Session τ}
    (there : m.registry.session? other = some t) (there' : m'.registry.session? other = some t') :
    other = number ∧ t = s ∧ t' = s' ∨ other ≠ number ∧ t' = t := by
  by_cases same : other = number
  · subst same
    obtain rfl := Option.some.inj (puts.found.symm.trans there)
    exact .inl ⟨rfl, rfl, (Option.some.inj (puts.self.symm.trans there')).symm⟩
  · rw [puts.others same, there] at there'
    exact .inr ⟨same, (Option.some.inj there').symm⟩

theorem held? (puts : Puts news number s s' m m') (id : String) : m'.held? id = m.held? id := by
  obtain ⟨closings, rfl⟩ := puts.become
  rfl

theorem changes (puts : Puts news number s s' m m') :
    m'.registry.changes = news.foldl Feed.push m.registry.changes := by
  obtain ⟨closings, rfl⟩ := puts.become
  rfl

theorem severed (puts : Puts news number s s' m m') : m'.severed = m.severed := by
  obtain ⟨closings, rfl⟩ := puts.become
  rfl

theorem task (puts : Puts news number s s' m m') : m'.task = m.task := by
  obtain ⟨closings, rfl⟩ := puts.become
  rfl

/-- A fresh look is due if the session is held and has been altered. -/
theorem due (puts : Puts news number s s' m m') (sound : m.Sound) (held : m.held? id = some number)
    (changed : Altered s s') : m'.Due id := by
  obtain ⟨t, there, owner, working⟩ := sound.held id number held
  obtain rfl := Option.some.inj (puts.found.symm.trans there)
  have owing : s'.Owing := puts.altered working (sound.within number s puts.found) changed
  exact ⟨number, s', puts.self, by rw [puts.profile, owner], owing⟩

theorem sound (puts : Puts news number s s' m m') (sound : m.Sound) : m'.Sound := by
  obtain ⟨closings, become⟩ := puts.become
  refine ⟨by rw [become]; exact sound.distinct, fun id other cached => ?_, fun other t there => ?_,
    fun task there => ?_⟩
  · obtain ⟨t, there, owner, working⟩ := sound.held id other (puts.held? id ▸ cached)
    by_cases same : other = number
    · subst same
      obtain rfl := Option.some.inj (puts.found.symm.trans there)
      exact ⟨s', puts.self, by rw [puts.profile, owner], by rw [puts.active, working]⟩
    · exact ⟨t, (puts.others same).trans there, owner, working⟩
  · by_cases same : other = number
    · subst same
      obtain rfl := Option.some.inj (puts.self.symm.trans there)
      exact puts.within (sound.within other s puts.found)
    · exact sound.within other t ((puts.others same).symm.trans there)
  · -- neither the list nor the cache is touched
    have fits := sound.fits task (puts.task ▸ there)
    rw [become]
    exact ⟨fits.leaving, fits.place, fits.relist⟩

/-- **What is changed by putting a session is told or owed.** -/
theorem accounts (puts : Puts news number s s' m m') (sound : m.Sound) : Accounts news m m' where
  changes := puts.changes
  owes id := by
    rintro (⟨other, t, there, owner, owed⟩ | promised | lost)
    · by_cases same : other = number
      · subst same
        obtain rfl := Option.some.inj (puts.found.symm.trans there)
        -- it is about its own row that a session owes something
        rcases puts.owing owed with still | told
        · exact .inl (.inl ⟨other, s', puts.self, by rw [puts.profile, owner], still⟩)
        · exact .inr (owner ▸ told)
      · exact .inl (.inl ⟨other, t, (puts.others same).trans there, owner, owed⟩)
    · have still : m'.Promised := by rwa [Promised, puts.task]
      exact .inl (.inr (.inl still))
    · have told := lost.told (fun entry mem => by rwa [puts.severed]) puts.changes
      exact told.imp_left fun lost => .inr (.inr lost)
  rows id differ := by
    -- the list is the same, so that the state has changed
    have states : m'.stateOf id ≠ m.stateOf id := by
      refine fun same => differ (row?_congr ?_ same)
      obtain ⟨closings, rfl⟩ := puts.become
      rfl
    rw [stateOf, puts.held?, stateOf] at states
    cases held : m.held? id with
    | none => exact absurd (by rw [held]; rfl) states
    | some other =>
      rw [held, Option.bind_some, Option.bind_some] at states
      by_cases same : other = number
      · subst same
        rw [puts.self, puts.found] at states
        exact .inl (.inl (puts.due sound held (.inl states)))
      · rw [puts.others same] at states
        exact absurd rfl states
  altered := by
    rintro id ⟨other, t, t', held, there, there', changed⟩
    obtain ⟨rfl, rfl, rfl⟩ | ⟨-, rfl⟩ := puts.cases there there'
    · exact .inl (puts.due sound held changed)
    · exact absurd changed (not_altered rfl rfl)

end Puts

/-- **Somebody does something to a session.** -/
theorem accounts_of_tended {number : Nat} {s s' : Session τ} {closings : Nat → Closing.Phase × List Party}
    (sound : m.Sound) (found : m.registry.session? number = some s) (tended : Tended s s')
    (become : m' = { m with registry := m.registry.put number s', closings }) :
    m'.Sound ∧ ∃ news, Accounts news m m' := by
  have puts : Puts [] number s s' m m' :=
    ⟨found, ⟨closings, become⟩, tended.profile, tended.active, tended.within,
      fun owing => .inl (tended.owing owing), tended.altered⟩
  exact ⟨puts.sound sound, [], puts.accounts sound⟩

/-- **What a follower has asked for is announced.** -/
theorem accounts_of_taken {number : Nat} {s : Session τ} (sound : m.Sound)
    (found : m.registry.session? number = some s)
    (become : m' = { m with registry := m.registry.refresh number }) :
    m'.Sound ∧ ∃ news, Accounts news m m' := by
  rw [Registry.refresh_eq, found] at become
  set news := List.replicate s.takeRefreshes.1 (RowChange.refreshed s.profile.id) with looks
  have puts : Puts news number s s.takeRefreshes.2 m m' := by
    refine ⟨found, ⟨m.closings, become⟩, rfl, rfl, fun within => within, fun owing => ?_,
      fun _ _ changed => absurd changed (not_altered rfl rfl)⟩
    -- what had been asked for is announced now, and what is unread stays so
    rcases owing with asked | reads
    · refine .inr ⟨.refreshed s.profile.id, ?_, by simp [RowChange.refreshes]⟩
      exact List.mem_replicate.mpr ⟨Nat.ne_of_gt asked, rfl⟩
    · exact .inl (.inr reads)
  exact ⟨puts.sound sound, news, puts.accounts sound⟩

/-! ### The sessions are left alone -/

/-- A step that leaves the sessions alone tells what it changes if it announces every row that is another
one. -/
theorem accounts_of_sessions {news : List RowChange}
    (sessions : ∀ number s, m.registry.session? number = some s → m'.registry.session? number = some s)
    (severed : m'.severed = m.severed)
    (changes : m'.registry.changes = news.foldl Feed.push m.registry.changes)
    (promised : m.Promised → m'.Promised ∨ ∀ id, ∃ change ∈ news, change.refreshes id = true)
    (rows : ∀ id, m'.row? id ≠ m.row? id → ∃ change ∈ news, change.shows id = true) :
    Accounts news m m' where
  changes := changes
  owes id := by
    rintro (⟨number, s, there, owner, owing⟩ | due | lost)
    · exact .inl (.inl ⟨number, s, sessions number s there, owner, owing⟩)
    · exact (promised due).imp (fun still => .inr (.inl still)) fun told => told id
    · exact (lost.told (fun entry mem => severed ▸ mem) changes).imp_left fun lost => .inr (.inr lost)
  rows id differ := .inr (rows id differ)
  altered := by
    rintro id ⟨number, s, s', -, there, there', altered⟩
    obtain rfl := Option.some.inj ((sessions number s there).symm.trans there')
    exact absurd altered (not_altered rfl rfl)

/-- A registry stays sound as long as its sessions and what is held of them stay the same. -/
theorem Sound.relisted (sound : m.Sound)
    (sessions : ∀ number, m'.registry.session? number = m.registry.session? number)
    (held : ∀ id, m'.held? id = m.held? id) (distinct : m'.registry.ids.Nodup)
    (fits : ∀ task, m'.task = some task → task.Fits m'.registry) : m'.Sound where
  distinct := distinct
  held id number := by
    rw [held, sessions]
    exact sound.held id number
  within number s := by
    rw [sessions]
    exact sound.within number s
  fits := fits

/-- What an idle registry holds is what it has cached. -/
theorem held?_of_idle (idle : m.task = none) (id : String) : m.held? id = m.registry.cached? id := by
  rw [held?, idle]
  rfl

/-- Where no call is under way, none has to fit. -/
theorem fits_of_idle (idle : m.task = none) (r : Registry τ) (task : Task) (underWay : m.task = some task) :
    task.Fits r := nomatch idle.symm.trans underWay

theorem not_promised_of_idle (idle : m.task = none) : ¬m.Promised := by
  rintro ⟨task, loaded, underWay, -⟩
  exact nomatch idle.symm.trans underWay

/-- A new list is promised just if the call that is under way takes one over. -/
theorem promised_iff {task : Task} (underWay : m.task = some task) :
    m.Promised ↔ ∃ loaded, task.purpose = .reload loaded := by
  constructor
  · rintro ⟨other, loaded, there, purpose⟩
    obtain rfl := Option.some.inj (underWay.symm.trans there)
    exact ⟨loaded, purpose⟩
  · rintro ⟨loaded, purpose⟩
    exact ⟨task, loaded, underWay, purpose⟩

/-- **A step that changes no list, no session and no announcement** leaves everything as it was. -/
theorem accounts_of_unchanged (sound : m.Sound)
    (sessions : ∀ number, m'.registry.session? number = m.registry.session? number)
    (held : ∀ id, m'.held? id = m.held? id) (profiles : m'.registry.profiles = m.registry.profiles)
    (changes : m'.registry.changes = m.registry.changes) (severed : m'.severed = m.severed)
    (promised : m.Promised → m'.Promised) (fits : ∀ task, m'.task = some task → task.Fits m'.registry) :
    m'.Sound ∧ ∃ news, Accounts news m m' := by
  have distinct : m'.registry.ids.Nodup := by
    rw [Registry.ids, profiles]
    exact sound.distinct
  have profile (id : String) : m'.registry.profile? id = m.registry.profile? id := by
    rw [Registry.profile?, Registry.profile?, profiles]
  exact ⟨sound.relisted sessions held distinct fits, [],
    accounts_of_sessions (fun number s there => (sessions number).trans there) severed changes
      (fun due => .inl (promised due))
      fun id differ => absurd (row?_congr (profile id) (stateOf_congr (held id) sessions)) differ⟩

/-- Others edit the disk, or the observer moves. -/
theorem accounts_of_same (sound : m.Sound) (registry : m'.registry = m.registry) (task : m'.task = m.task)
    (severed : m'.severed = m.severed) : m'.Sound ∧ ∃ news, Accounts news m m' := by
  refine accounts_of_unchanged sound (fun number => by rw [registry])
    (fun id => by rw [held?, held?, registry, task]) (by rw [registry]) (by rw [registry]) severed
    (fun promised => by rwa [Promised, task]) ?_
  rw [task, registry]
  exact sound.fits

/-- **A call begins.** -/
theorem accounts_of_begin {task : Task} {disk : Disk} (sound : m.Sound) (idle : m.task = none)
    (leaving : task.leaving = none) (fits : task.Fits m.registry)
    (become : m' = { m with disk, task := some task }) : m'.Sound ∧ ∃ news, Accounts news m m' := by
  subst become
  refine accounts_of_unchanged sound (fun _ => rfl) (fun id => ?_) rfl rfl rfl
    (fun promised => absurd promised (not_promised_of_idle idle)) ?_
  · rw [held?_of_idle idle, held?, Option.bind_some, leaving]
  · rintro task ⟨⟩
    exact fits

/-- What a call that closes no session right now holds is what is cached. -/
theorem held?_of_leaving {task : Task} (underWay : m.task = some task) (leaving : task.leaving = none)
    (id : String) : m.held? id = m.registry.cached? id := by
  rw [held?, underWay, Option.bind_some, leaving]

/-- **A session begins to leave**: it is still held. -/
theorem accounts_of_evictNext {task : Task} {rest : List String} (sound : m.Sound)
    (underWay : m.task = some task) (leaving : task.leaving = none)
    (become : m' = m.evictNext task id rest) : m'.Sound ∧ ∃ news, Accounts news m m' := by
  have held := held?_of_leaving underWay leaving
  have fits := sound.fits task underWay
  -- what the call is for does not change
  have promised {w : Watched τ} {task' : Task} (there : w.task = some task')
      (same : task'.purpose = task.purpose) (before : m.Promised) : w.Promised := by
    obtain ⟨loaded, purpose⟩ := (promised_iff underWay).mp before
    exact (promised_iff there).mpr ⟨loaded, same.trans purpose⟩
  rw [evictNext] at become
  cases cached : m.registry.cached? id with
  | none =>
    rw [cached] at become
    subst become
    refine accounts_of_unchanged sound (fun _ => rfl) (fun other => ?_) rfl rfl rfl (promised rfl rfl) ?_
    · rw [held, held?, Option.bind_some, leaving]
    · rintro task' ⟨⟩
      exact ⟨fits.leaving, fits.place, fits.relist⟩
  | some number =>
    rw [cached] at become
    subst become
    refine accounts_of_unchanged sound (fun _ => rfl) (fun other => ?_) rfl rfl rfl (promised rfl rfl) ?_
    · rw [held, held?, Option.bind_some]
      by_cases same : id = other
      · subst same
        simp [cached]
      · simp [same, Registry.uncache_cached?, Ne.symm same]
    · rintro task' ⟨⟩
      refine ⟨?_, fits.place, fits.relist⟩
      rintro other number own ⟨⟩
      rw [Registry.uncache_cached?, if_pos rfl]

/-- **A profile is added**: its row is announced. -/
theorem accounts_of_added {profile : Profile} {outcome : Registry.Outcome} {r : Registry τ} {disk : Disk}
    (sound : m.Sound) (idle : m.task = none)
    (added : Registry.Added m.registry m.disk profile outcome r disk)
    (become : m' = { m with registry := r, disk }) : m'.Sound ∧ ∃ news, Accounts news m m' := by
  subst become
  cases added with
  | known => exact accounts_of_same sound rfl rfl rfl
  | unsaved => exact accounts_of_same sound rfl rfl rfl
  | saved fresh =>
    have distinct := Registry.nodup_of_fresh sound.distinct fresh
    refine ⟨sound.relisted (fun _ => rfl) (fun _ => rfl) distinct (fits_of_idle idle _), [_],
      accounts_of_sessions (fun _ _ there => there) rfl rfl
        (fun promised => absurd promised (not_promised_of_idle idle))
        fun id differ => ⟨_, List.mem_singleton_self _, ?_⟩⟩
    -- a row of another profile is what it was
    by_contra other
    have other : profile.id ≠ id := by simpa [RowChange.shows] using other
    refine differ (row?_congr ?_ rfl)
    change (m.registry.profiles ++ [profile]).find? _ = m.registry.profiles.find? _
    rw [List.find?_append, List.find?_singleton]
    simp [other]

/-- **A session is created**: its row still shows that it is disconnected. -/
theorem accounts_of_created {φ : Type} {make : Profile → φ → τ × φ} {factory factory' : φ}
    {answer : Except SessionFailure Nat} {r : Registry τ} (sound : m.Sound) (idle : m.task = none)
    (created : Registry.Created m.registry make factory id answer r factory')
    (become : m' = { m with registry := r }) : m'.Sound ∧ ∃ news, Accounts news m m' := by
  subst become
  cases created with
  | cached => exact accounts_of_same sound rfl rfl rfl
  | unknown => exact accounts_of_same sound rfl rfl rfl
  | @created profile uncached listed named =>
    set transport := (make profile factory).1
    set fresh := (Session.create profile transport m.registry.settings).startFollower with begins
    have held (other : String) :
        held? { m with registry := m.registry.enrol profile transport } other =
          (m.held? other).or (if profile.id = other then some m.registry.sessions.length else none) := by
      rw [held?_of_idle idle, ← Registry.enrol_cached? _ _ transport]
      exact held?_of_idle (m := { m with registry := m.registry.enrol profile transport }) idle other
    have last : (m.registry.enrol profile transport).session? m.registry.sessions.length = some fresh := by
      rw [Registry.enrol_session?, if_pos rfl]
    refine ⟨⟨sound.distinct, fun other number cached => ?_, fun number s there => ?_,
      fits_of_idle idle _⟩, [],
      accounts_of_sessions (fun _ _ => Registry.enrol_session?_of_some) rfl rfl
        (fun promised => absurd promised (not_promised_of_idle idle))
        fun other differ => absurd (row?_congr (by rfl) ?_) differ⟩
    · rw [held] at cached
      cases before : m.held? other with
      | some earlier =>
        rw [before] at cached
        obtain rfl := Option.some.inj cached
        obtain ⟨s, there, owner, active⟩ := sound.held other earlier before
        exact ⟨s, Registry.enrol_session?_of_some there, owner, active⟩
      | none =>
        -- only the new session is held that was not held before
        rw [before, Option.none_or] at cached
        obtain ⟨owner, cached⟩ := Option.ite_none_right_eq_some.mp cached
        obtain rfl := Option.some.inj cached
        exact ⟨fresh, last, owner, rfl⟩
    · rcases Registry.enrol_session?_cases there with ⟨-, rfl⟩ | before
      · exact Nat.le_refl _
      · exact sound.within number s before
    · rw [stateOf, stateOf, held]
      cases before : m.held? other with
      | some earlier =>
        obtain ⟨s, there, -⟩ := sound.held other earlier before
        rw [Option.some_or, Option.bind_some, Option.bind_some, there]
        exact congrArg (Option.elim · _ _) (Registry.enrol_session?_of_some there)
      | none =>
        -- a new session is disconnected, as is a row without one
        rw [Option.none_or]
        split
        · rw [Option.bind_some, show Registry.session? _ _ = _ from last]
          rfl
        · rfl

/-- A follower that has asked for something or not. -/
theorem accounts_of_relay (sound : m.Sound) (number : Nat)
    (become : m' = { m with registry := m.registry.refresh number }) :
    m'.Sound ∧ ∃ news, Accounts news m m' := by
  cases found : m.registry.session? number with
  | some s => exact accounts_of_taken sound found become
  | none =>
    rw [Registry.refresh_eq, found] at become
    exact accounts_of_same sound (by rw [become]) (by rw [become]) (by rw [become])

/-- Whatever is given up stays so when a follower is cut off. -/
theorem mem_cut_severed {task : Task} {number : Nat} {s : Session τ} {entry : String × Nat}
    (mem : entry ∈ m.severed) : entry ∈ (m.cut task id number s).severed := by
  simp only [cut]
  split
  · exact mem
  · split
    · exact mem
    · exact List.mem_append_left _ mem

/-- **A follower that is cut off too early** leaves its row to the list that is about to be announced, or
gives it up. -/
theorem owes_cut {task : Task} {number : Nat} {s : Session τ}
    (early : s.state ≠ .disconnected ∨ s.feed.stirs s.follower.position = true) :
    (m.cut task id number s).Owes id := by
  -- only a call that reads the document again makes up for it in the end
  cases purpose : task.purpose with
  | reload loaded => exact .inr (.inl ⟨_, loaded, rfl, purpose⟩)
  | _ =>
    have hasty : ¬(s.state = .disconnected ∧ s.feed.stirs s.follower.position = false) := by
      rintro ⟨state, calm⟩
      exact early.elim (fun other => other state) fun stirs => nomatch calm.symm.trans stirs
    refine .inr (.inr ⟨m.registry.changes.position, ?_, fun change mem => ?_⟩)
    · simp only [cut, purpose, if_neg hasty]
      exact List.mem_append_right _ (List.mem_singleton_self _)
    · -- nothing has been announced since
      have silent : m.registry.changes.toList.drop m.registry.changes.position = [] :=
        List.drop_of_length_le (Nat.le_of_eq (Feed.length_toList _))
      exact absurd (silent ▸ mem) List.not_mem_nil

/-! ### A follower is cut off -/

section Cut

variable {task : Task} {number : Nat} {own : Bool} {s : Session τ}

/-- The session of a call that closes one is held for its profile. -/
theorem held?_of_leaving_some (underWay : m.task = some task)
    (leaving : task.leaving = some (id, number, own)) : m.held? id = some number := by
  rw [held?, underWay, Option.bind_some, leaving]
  exact if_pos rfl

/-- A profile whose session's follower is cut off holds no session any more. -/
theorem held?_cut (sound : m.Sound) (underWay : m.task = some task)
    (leaving : task.leaving = some (id, number, own)) (other : String) :
    (m.cut task id number s).held? other = if other = id then none else m.held? other := by
  change m.registry.cached? other = _
  split
  · rename_i same
    rw [same]
    exact (sound.fits task underWay).leaving id number own leaving
  · rename_i differ
    rw [held?, underWay, Option.bind_some, leaving]
    exact (if_neg (Ne.symm differ)).symm

theorem cut_session? (found : m.registry.session? number = some s) (other : Nat) :
    (m.cut task id number s).registry.session? other =
      if other = number then some s.stopFollower else m.registry.session? other :=
  Registry.put_session? found s.stopFollower other

/-- What another profile holds is another session, and stays what it is. -/
theorem session?_cut_of_held {other : String} {number' : Nat} (sound : m.Sound)
    (underWay : m.task = some task) (leaving : task.leaving = some (id, number, own))
    (found : m.registry.session? number = some s) (held : m.held? other = some number')
    (differ : other ≠ id) :
    (m.cut task id number s).registry.session? number' = m.registry.session? number' := by
  have unlike := sound.number_ne (held?_of_leaving_some underWay leaving) held differ
  rw [cut_session? found, if_neg unlike]

theorem Sound.cut (sound : m.Sound) (underWay : m.task = some task)
    (leaving : task.leaving = some (id, number, own)) (found : m.registry.session? number = some s) :
    (m.cut task id number s).Sound where
  distinct := sound.distinct
  held other number' held := by
    rw [held?_cut sound underWay leaving] at held
    obtain ⟨differ, held⟩ := Option.ite_none_left_eq_some.mp held
    rw [session?_cut_of_held sound underWay leaving found held differ]
    exact sound.held other number' held
  within other t there := by
    rw [cut_session? found] at there
    split at there
    · obtain rfl := Option.some.inj there
      exact sound.within number s found
    · exact sound.within other t there
  fits := by
    have fits := sound.fits task underWay
    rintro _ ⟨⟩
    exact ⟨by rintro other number' own' ⟨⟩, fits.place, fits.relist⟩

/-- **The follower of a session that has been closed is cut off.** -/
theorem accounts_of_cut (sound : m.Sound) (underWay : m.task = some task)
    (leaving : task.leaving = some (id, number, own)) (found : m.registry.session? number = some s) :
    Accounts [] m (m.cut task id number s) where
  changes := rfl
  owes other owes := by
    have owner : s.profile.id = id := by
      obtain ⟨t, there, owner, -⟩ := sound.held id number (held?_of_leaving_some underWay leaving)
      obtain rfl := Option.some.inj (found.symm.trans there)
      exact owner
    rcases owes with ⟨number', t, there, named, owing⟩ | promised | lost
    · by_cases same : number' = number
      · subst same
        obtain rfl := Option.some.inj (found.symm.trans there)
        obtain rfl := owner.symm.trans named
        -- what has been asked for will still be announced, what is unread will not be read any more
        rcases owing with asked | ⟨-, stirs⟩
        · have self :
              (m.cut task s.profile.id number' s).registry.session? number' = some s.stopFollower := by
            rw [cut_session? found, if_pos rfl]
          exact .inl (.inl ⟨number', s.stopFollower, self, owner, .inl asked⟩)
        · exact .inl (owes_cut (.inr stirs))
      · have still : (m.cut task id number s).registry.session? number' = some t := by
          rw [cut_session? found, if_neg same, there]
        exact .inl (.inl ⟨number', t, still, named, owing⟩)
    · obtain ⟨loaded, purpose⟩ := (promised_iff underWay).mp promised
      exact .inl (.inr (.inl ⟨_, loaded, rfl, purpose⟩))
    · have silent : (m.cut task id number s).registry.changes = [].foldl Feed.push m.registry.changes :=
        rfl
      exact (lost.told (fun entry => mem_cut_severed) silent).imp_left fun lost => .inr (.inr lost)
  rows other differ := by
    have states : (m.cut task id number s).stateOf other ≠ m.stateOf other :=
      fun same => differ (row?_congr (by rfl) same)
    rw [stateOf, held?_cut sound underWay leaving, stateOf] at states
    -- the row of the session that goes is disconnected from now on
    by_cases same : other = id
    · subst same
      rw [if_pos rfl, held?_of_leaving_some underWay leaving, Option.bind_some, found] at states
      exact .inl (owes_cut (.inl fun state => states state.symm))
    · rw [if_neg same] at states
      cases held : m.held? other with
      | none => exact absurd (by rw [held]; rfl) states
      | some number' =>
        rw [held, Option.bind_some, Option.bind_some,
          session?_cut_of_held sound underWay leaving found held same] at states
        exact absurd rfl states
  altered := by
    rintro other ⟨number', t, t', -, there, there', changed⟩
    rw [cut_session? found] at there'
    split at there'
    · rename_i same
      subst same
      obtain rfl := Option.some.inj (found.symm.trans there)
      obtain rfl := Option.some.inj there'
      exact absurd changed (not_altered rfl rfl)
    · obtain rfl := Option.some.inj (there.symm.trans there')
      exact absurd changed (not_altered rfl rfl)

end Cut

/-- **The call that is under way does what it is for.** -/
theorem accounts_of_finish {task : Task} (sound : m.Sound) (underWay : m.task = some task)
    (leaving : task.leaving = none) (become : m' = m.finish task.purpose) :
    m'.Sound ∧ ∃ news, Accounts news m m' := by
  obtain ⟨purpose, queue, leaves⟩ := task
  obtain rfl : leaves = none := leaving
  have held := held?_of_leaving underWay rfl
  cases purpose with
  | shutdown =>
    subst become
    refine accounts_of_unchanged sound (fun _ => rfl) (fun other => ?_) rfl rfl rfl (fun promised => ?_)
      (fits_of_idle rfl _)
    · rw [held]
      exact held?_of_idle rfl other
    · obtain ⟨loaded, purpose⟩ := (promised_iff underWay).mp promised
      cases purpose
  | delete id index =>
    have place : m.registry.index? id = some index := (sound.fits _ underWay).place id index rfl
    have broken : ¬m.Promised := fun promised => by
      obtain ⟨loaded, purpose⟩ := (promised_iff underWay).mp promised
      cases purpose
    have done : m'.task = none := by
      rw [become]
      rfl
    obtain ⟨disk, deleted⟩ | ⟨disk, deleted⟩ := Registry.deleteAt_cases m.disk place
    · -- the list is what it was
      have same : m'.registry = m.registry := by rw [become, finish, deleted]
      refine accounts_of_unchanged sound (fun _ => by rw [same]) (fun other => ?_) (by rw [same])
        (by rw [same]) (by rw [become]; rfl) (fun promised => absurd promised broken) (fits_of_idle done _)
      rw [held, held?_of_idle done, same]
    · have announced : m'.registry =
          { m.registry with
            profiles := m.registry.profiles.eraseIdx index
            changes := m.registry.changes.push (.removed index id) } := by
        rw [become, finish, deleted]
        rfl
      have held' (other : String) : m'.held? other = m.held? other := by
        rw [held, held?_of_idle done, announced]
        rfl
      have sessions (number : Nat) : m'.registry.session? number = m.registry.session? number := by
        rw [announced]
        rfl
      refine ⟨sound.relisted sessions held' ?_ (fits_of_idle done _), [.removed index id],
        accounts_of_sessions (fun number s there => (sessions number).trans there) (by rw [become]; rfl)
          (by rw [announced]; rfl) (fun promised => absurd promised broken) fun other differ => ?_⟩
      · rw [announced]
        exact Registry.nodup_eraseIdx sound.distinct index
      · refine ⟨_, List.mem_singleton_self _, ?_⟩
        -- a row of another profile is what it was
        by_contra unshown
        have unlike : id ≠ other := by simpa [RowChange.shows, RowChange.refreshes] using unshown
        refine differ (row?_congr ?_ ?_)
        · rw [announced]
          change (m.registry.profiles.eraseIdx index).find? _ = m.registry.profiles.find? _
          rw [Registry.eraseIdx_index? sound.distinct place, Registry.find?_filter_of_ne unlike]
        · exact stateOf_congr (held' other) sessions
  | reload loaded =>
    subst become
    refine ⟨sound.relisted (fun _ => rfl) (fun other => ?_) ((sound.fits _ underWay).relist loaded rfl)
        (fits_of_idle rfl _),
      [.reloaded], accounts_of_sessions (fun _ _ there => there) rfl rfl
        (fun _ => .inr fun other => ⟨_, List.mem_singleton_self _, rfl⟩)
        fun other _ => ⟨_, List.mem_singleton_self _, rfl⟩⟩
    rw [held]
    exact held?_of_idle rfl other

/-- **The call that is under way goes on.** -/
theorem accounts_of_pursue? {task : Task} (sound : m.Sound) (underWay : m.task = some task)
    (made : m.pursue? task = some m') : m'.Sound ∧ ∃ news, Accounts news m m' := by
  rw [pursue?] at made
  split at made
  · rename_i other number own _ leaving
    obtain ⟨-, made⟩ := Option.ite_none_left_eq_some.mp made
    obtain ⟨s, found, become⟩ := Option.map_eq_some_iff.mp made
    subst become
    exact ⟨sound.cut underWay leaving found, [], accounts_of_cut sound underWay leaving found⟩
  · rename_i leaving _
    exact accounts_of_evictNext sound underWay leaving (Option.some.inj made).symm
  · rename_i leaving _
    exact accounts_of_finish sound underWay leaving (Option.some.inj made).symm

/-- A step that has to wait for the call that is under way is made when there is none. -/
theorem idle_of_waits {w : Option (Watched τ)} (made : (if m.task.isSome then none else w) = some m') :
    m.task = none ∧ w = some m' := by
  obtain ⟨idle, made⟩ := Option.ite_none_left_eq_some.mp made
  exact ⟨by simpa using idle, made⟩

variable [Transport τ]

/-- **Every step tells or owes what it changes.** -/
theorem accounts_of_step? {step : Step τ} (sound : m.Sound) (made : m.step? step = some m') :
    m'.Sound ∧ ∃ news, Accounts news m m' := by
  cases step with
  | add profile =>
    obtain ⟨idle, made⟩ := idle_of_waits made
    exact accounts_of_added sound idle (Registry.added_of_add rfl) (Option.some.inj made).symm
  | client id transport =>
    obtain ⟨idle, made⟩ := idle_of_waits made
    have created :
        Registry.Created m.registry (fun (_ : Profile) (_ : Unit) => (transport, ())) () id _ _ _ :=
      Registry.created_of_clientFrom rfl
    exact accounts_of_created sound idle created (Option.some.inj made).symm
  | delete id =>
    obtain ⟨idle, made⟩ := idle_of_waits made
    split at made
    · obtain rfl := Option.some.inj made
      exact accounts_of_same sound rfl rfl rfl
    · rename_i index place
      refine accounts_of_begin sound idle rfl ⟨?_, ?_, ?_⟩ (Option.some.inj made).symm
      · rintro id number own ⟨⟩
      · rintro id index ⟨⟩
        exact place
      · rintro loaded ⟨⟩
  | reload ids order =>
    obtain ⟨idle, made⟩ := idle_of_waits made
    split at made
    · obtain rfl := Option.some.inj made
      exact accounts_of_same sound rfl rfl rfl
    · rename_i fetched fetches
      obtain ⟨-, made⟩ := Option.ite_none_right_eq_some.mp made
      refine accounts_of_begin sound idle rfl ⟨?_, ?_, ?_⟩ (Option.some.inj made).symm
      · rintro id number own ⟨⟩
      · rintro id index ⟨⟩
      · rintro loaded ⟨⟩
        exact Registry.fetched_distinct fetches
  | shutdown order =>
    obtain ⟨idle, made⟩ := idle_of_waits made
    obtain ⟨-, made⟩ := Option.ite_none_right_eq_some.mp made
    refine accounts_of_begin sound idle rfl ⟨?_, ?_, ?_⟩ (Option.some.inj made).symm
    · rintro id number own ⟨⟩
    · rintro id index ⟨⟩
    · rintro loaded ⟨⟩
  | proceed =>
    obtain ⟨task, underWay, made⟩ := Option.bind_eq_some_iff.mp made
    exact accounts_of_pursue? sound underWay made
  | act number act =>
    obtain ⟨s, found, made⟩ := Option.bind_eq_some_iff.mp made
    obtain ⟨c, acted, become⟩ := Option.map_eq_some_iff.mp made
    exact accounts_of_tended sound found (tended_of_act? acted) become.symm
  | read number =>
    obtain ⟨s, found, made⟩ := Option.bind_eq_some_iff.mp made
    obtain ⟨s', read, become⟩ := Option.map_eq_some_iff.mp made
    exact accounts_of_tended sound found (followed_of_readNext? read).tended become.symm
  | relay number => exact accounts_of_relay sound number (Option.some.inj made).symm
  | edit change =>
    obtain rfl := Option.some.inj made
    exact accounts_of_same sound rfl rfl rfl
  | subscribe =>
    obtain ⟨-, made⟩ := idle_of_waits made
    obtain rfl := Option.some.inj made
    exact accounts_of_same sound rfl rfl rfl
  | look =>
    obtain ⟨-, made⟩ := idle_of_waits made
    split at made
    · obtain rfl := Option.some.inj made
      exact accounts_of_same sound rfl rfl rfl
    · cases made

end Watched

end MqttSessions
