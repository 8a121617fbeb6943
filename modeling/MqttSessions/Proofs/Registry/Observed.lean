import MqttSessions.Proofs.Registry.Owed

/-! # What an observer of a registry knows

An observer looks at a row whenever the registry announces something about it. In every run it knows each
row, or will look at it again, or the row has been given up (**`Watched.Informed`**). So when nobody has
anything left to do, it is wrong at most about rows whose session's follower was cut off before it had read
of the last change, and only as long as nothing is announced about them:
**`Watched.changes_reach_observers`**. -/

namespace MqttSessions

open Session

namespace Watched

variable {τ : Type} {m m' m'' : Watched τ} {id : String}

/-! ## One step after the other -/

theorem Tells.refl (m : Watched τ) : Tells [] m m :=
  ⟨rfl, fun _ owes => .inl owes, fun _ differ => absurd rfl differ⟩

/-- What has been announced is announced still, and what was owed may have been announced since. -/
theorem Tells.trans {news news' : List RowChange} (first : Tells news m m') (second : Tells news' m' m'') :
    Tells (news ++ news') m m'' where
  changes := by rw [second.changes, first.changes, List.foldl_append]
  owes id owes := by
    rcases first.owes id owes with owes | ⟨change, mem, told⟩
    · exact (second.owes id owes).imp_right fun ⟨change, mem, told⟩ =>
        ⟨change, List.mem_append_right _ mem, told⟩
    · exact .inr ⟨change, List.mem_append_left _ mem, told⟩
  rows id differ := by
    by_cases later : m''.row? id = m'.row? id
    · -- the row changed at first
      rcases first.rows id (later ▸ differ) with owes | ⟨change, mem, shown⟩
      · exact (second.owes id owes).imp_right fun ⟨change, mem, told⟩ =>
          ⟨change, List.mem_append_right _ mem, RowChange.shows_of_refreshes told⟩
      · exact .inr ⟨change, List.mem_append_left _ mem, shown⟩
    · exact (second.rows id later).imp_right fun ⟨change, mem, shown⟩ =>
        ⟨change, List.mem_append_right _ mem, shown⟩

/-- What has been announced since a moment. -/
def since (m m' : Watched τ) : List RowChange :=
  m'.registry.changes.toList.drop m.registry.changes.position

theorem Tells.since_eq {news : List RowChange} (tells : Tells news m m') : since m m' = news := by
  rw [since, tells.changes, Feed.toList_foldl_push, ← Feed.length_toList, List.drop_left]

/-- A registry that has just been opened is sound. -/
theorem sound_opened (store : Store) (settings : SessionSettings) (disk : Disk) (ids : Nat → String) :
    (opened (τ := τ) store settings disk ids).Sound where
  distinct := by
    rw [opened, Registry.create]
    cases fetches : store.fetch disk ids with
    | mk disk' list =>
      cases list with
      | error failure => exact List.nodup_nil
      | ok fetched => exact Registry.fetched_distinct fetches
  held id number held := by
    cases held
  within number s there := by
    cases (List.getElem?_eq_some_iff.mp there).1
  fits := by
    rintro task ⟨⟩

variable [Transport τ]

theorem run?_append (m : Watched τ) (first second : List (Step τ)) :
    m.run? (first ++ second) = (m.run? first).bind (run? · second) := by
  induction first generalizing m with
  | nil => rfl
  | cons step rest ih =>
    rw [List.cons_append, run?, run?]
    cases m.step? step with
    | none => rfl
    | some next => exact ih next

/-- **Every run tells or owes what it changes.** -/
theorem tells_of_run? {steps : List (Step τ)} (sound : m.Sound) (ran : m.run? steps = some m') :
    m'.Sound ∧ ∃ news, Tells news m m' := by
  induction steps generalizing m with
  | nil =>
    obtain rfl := Option.some.inj ran
    exact ⟨sound, [], .refl m⟩
  | cons step rest ih =>
    obtain ⟨next, made, ran⟩ := Option.bind_eq_some_iff.mp ran
    obtain ⟨sound, news, accounts⟩ := accounts_of_step? sound made
    obtain ⟨sound', news', tells⟩ := ih sound ran
    exact ⟨sound', news ++ news', accounts.toTells.trans tells⟩

/-! ## The observer -/

/-- What an observer knows of a row: it has seen it as it is, or it will look at it again, or something is
missing for that. It has not read further than has been announced. -/
structure Informed (m : Watched τ) : Prop where
  within : m.position ≤ m.registry.changes.position
  knows : ∀ id, m.view id = m.row? id ∨ m.Owes id ∨
    ∃ change ∈ m.registry.changes.toList.drop m.position, change.shows id = true

omit [Transport τ] in
/-- An observer that does nothing will learn of what others do. -/
theorem Informed.kept {news : List RowChange} (informed : m.Informed) (tells : Tells news m m')
    (view : m'.view = m.view) (position : m'.position = m.position) : m'.Informed where
  within := by
    rw [position, tells.changes, Feed.position_foldl_push]
    exact Nat.le_add_right_of_le informed.within
  knows id := by
    have unread : m'.registry.changes.toList.drop m'.position =
        m.registry.changes.toList.drop m.position ++ news := by
      rw [position, tells.changes, Feed.toList_foldl_push, List.drop_append_of_le_length]
      rw [Feed.length_toList]
      exact informed.within
    have later {P : Prop} (told : ∃ change ∈ news, change.shows id = true) : P ∨ m'.Owes id ∨
        ∃ change ∈ m'.registry.changes.toList.drop m'.position, change.shows id = true := by
      obtain ⟨change, mem, shown⟩ := told
      exact .inr (.inr ⟨change, unread ▸ List.mem_append_right _ mem, shown⟩)
    rcases informed.knows id with seen | owes | ⟨change, mem, shown⟩
    · -- what was seen is true as long as the row does not change
      by_cases differ : m'.row? id = m.row? id
      · exact .inl (by rw [view, seen, differ])
      · rcases tells.rows id differ with owes | told
        · exact .inr (.inl owes)
        · exact later told
    · rcases tells.owes id owes with owes | ⟨change, mem, told⟩
      · exact .inr (.inl owes)
      · exact later ⟨change, mem, RowChange.shows_of_refreshes told⟩
    · exact .inr (.inr ⟨change, unread ▸ List.mem_append_left _ mem, shown⟩)

omit [Transport τ] in
/-- The call that is under way does not disturb an observer. -/
theorem observer_of_pursue? {task : Task} (made : m.pursue? task = some m') :
    m'.view = m.view ∧ m'.position = m.position := by
  rw [pursue?] at made
  split at made
  · obtain ⟨-, made⟩ := Option.ite_none_left_eq_some.mp made
    obtain ⟨s, -, rfl⟩ := Option.map_eq_some_iff.mp made
    exact ⟨rfl, rfl⟩
  · obtain rfl := Option.some.inj made
    rw [evictNext]
    split <;> exact ⟨rfl, rfl⟩
  · obtain rfl := Option.some.inj made
    cases task.purpose <;> exact ⟨rfl, rfl⟩

/-- **What a step is for an observer**: it does nothing, it starts anew, or it reads the next announcement
and looks at the rows that it is about. -/
theorem observer_of_step? {step : Step τ} (made : m.step? step = some m') :
    (m'.view = m.view ∧ m'.position = m.position) ∨
      m.task = none ∧
        (m' = { m with view := m.registry.row?, position := m.registry.changes.position } ∨
          ∃ change position, m.registry.changes.next? m.position = some (.item change, position) ∧
            m' = { m with view := m.look change, position }) := by
  cases step with
  | add profile =>
    obtain rfl := Option.some.inj (idle_of_waits made).2
    exact .inl ⟨rfl, rfl⟩
  | client id transport =>
    obtain rfl := Option.some.inj (idle_of_waits made).2
    exact .inl ⟨rfl, rfl⟩
  | delete id =>
    have made := (idle_of_waits made).2
    left
    split at made <;> obtain rfl := Option.some.inj made <;> exact ⟨rfl, rfl⟩
  | reload ids order =>
    have made := (idle_of_waits made).2
    left
    split at made
    · obtain rfl := Option.some.inj made
      exact ⟨rfl, rfl⟩
    · obtain ⟨-, made⟩ := Option.ite_none_right_eq_some.mp made
      obtain rfl := Option.some.inj made
      exact ⟨rfl, rfl⟩
  | shutdown order =>
    obtain ⟨-, made⟩ := Option.ite_none_right_eq_some.mp (idle_of_waits made).2
    obtain rfl := Option.some.inj made
    exact .inl ⟨rfl, rfl⟩
  | proceed =>
    obtain ⟨task, -, made⟩ := Option.bind_eq_some_iff.mp made
    exact .inl (observer_of_pursue? made)
  | act number act =>
    obtain ⟨s, -, made⟩ := Option.bind_eq_some_iff.mp made
    obtain ⟨c, -, rfl⟩ := Option.map_eq_some_iff.mp made
    exact .inl ⟨rfl, rfl⟩
  | read number =>
    obtain ⟨s, -, made⟩ := Option.bind_eq_some_iff.mp made
    obtain ⟨s', -, rfl⟩ := Option.map_eq_some_iff.mp made
    exact .inl ⟨rfl, rfl⟩
  | relay number =>
    obtain rfl := Option.some.inj made
    exact .inl ⟨rfl, rfl⟩
  | edit change =>
    obtain rfl := Option.some.inj made
    exact .inl ⟨rfl, rfl⟩
  | subscribe =>
    obtain ⟨idle, made⟩ := idle_of_waits made
    exact .inr ⟨idle, .inl (Option.some.inj made).symm⟩
  | look =>
    obtain ⟨idle, made⟩ := idle_of_waits made
    split at made
    · rename_i change position next
      exact .inr ⟨idle, .inr ⟨change, position, next, (Option.some.inj made).symm⟩⟩
    · cases made

/-- **After every step an observer knows what it can know.** -/
theorem Informed.step {step : Step τ} {news : List RowChange} (informed : m.Informed)
    (made : m.step? step = some m') (tells : Tells news m m') : m'.Informed := by
  rcases observer_of_step? made with ⟨view, position⟩ | ⟨idle, rfl | ⟨change, position, next, rfl⟩⟩
  · exact informed.kept tells view position
  · refine ⟨Nat.le_refl _, fun id => .inl ?_⟩
    exact (row?_of_idle (m := { m with view := _, position := _ }) idle id).symm
  · obtain ⟨within, unread⟩ := Feed.next?_eq_item next
    refine ⟨within, fun id => ?_⟩
    by_cases shown : change.shows id = true
    · left
      change m.look change id = _
      rw [look, if_pos shown]
      exact (row?_of_idle (m := { m with view := m.look change, position }) idle id).symm
    · have same : m.look change id = m.view id := if_neg shown
      rcases informed.knows id with seen | owes | ⟨other, mem, told⟩
      · exact .inl (same.trans seen)
      · exact .inr (.inl owes)
      · -- it is not what is read now that the observer will look for
        rw [unread] at mem
        rcases List.mem_cons.mp mem with rfl | later
        · exact absurd told shown
        · exact .inr (.inr ⟨other, later, told⟩)

theorem informed_of_run? {steps : List (Step τ)} (sound : m.Sound) (informed : m.Informed)
    (ran : m.run? steps = some m') : m'.Informed := by
  induction steps generalizing m with
  | nil =>
    obtain rfl := Option.some.inj ran
    exact informed
  | cons step rest ih =>
    obtain ⟨next, made, ran⟩ := Option.bind_eq_some_iff.mp ran
    obtain ⟨sound, news, accounts⟩ := accounts_of_step? sound made
    exact ih sound (informed.step made accounts.toTells) ran

/-! ## When nobody has anything left to do -/

/-- Nobody has anything left to do: no call is under way, the followers and the observer have read all that
has been announced, and what the followers have asked for has been announced. -/
structure Quiet (m : Watched τ) : Prop where
  idle : m.task = none
  relayed : ∀ s ∈ m.registry.sessions, s.follower.refreshes = 0
  followed : ∀ s ∈ m.registry.sessions, s.follower.isActive = true → s.follower.position = s.feed.position
  seen : m.position = m.registry.changes.position

instance (m : Watched τ) : Decidable m.Quiet :=
  decidable_of_iff
    (m.task = none ∧ (∀ s ∈ m.registry.sessions, s.follower.refreshes = 0) ∧
      (∀ s ∈ m.registry.sessions, s.follower.isActive = true → s.follower.position = s.feed.position) ∧
      m.position = m.registry.changes.position)
    ⟨fun ⟨idle, relayed, followed, seen⟩ => ⟨idle, relayed, followed, seen⟩,
      fun quiet => ⟨quiet.idle, quiet.relayed, quiet.followed, quiet.seen⟩⟩

omit [Transport τ] in
/-- What is missing when nobody has anything left to do will not come. -/
theorem Quiet.lost (quiet : m.Quiet) (owes : m.Owes id) : m.Lost id := by
  rcases owes with ⟨number, s, there, -, asked | ⟨active, stirs⟩⟩ | promised | lost
  · exact absurd (quiet.relayed s (List.mem_of_getElem? there)) (Nat.ne_of_gt asked)
  · -- nothing is left to be read
    rw [quiet.followed s (List.mem_of_getElem? there) active, Feed.stirs_iff, ← Feed.length_toList,
      List.drop_length] at stirs
    rcases stirs with behind | ⟨event, mem, -⟩
    · omega
    · exact absurd mem List.not_mem_nil
  · exact absurd promised (not_promised_of_idle quiet.idle)
  · exact lost

/-- **Changes reach the observers**, except those that are lost with a follower. Take any run of a registry
that has just been opened, over any transports, until nobody has anything left to do. Every change of a
session while it is held has been followed by an announcement that stands for it, and every row is what the
observer has seen, unless the row has been given up. -/
theorem changes_reach_observers (store : Store) (settings : SessionSettings) (disk : Disk)
    (ids : Nat → String) {steps : List (Step τ)}
    (ran : (opened store settings disk ids).run? steps = some m) (quiet : m.Quiet) :
    (∀ earlier step later m₁ m₂ id, steps = earlier ++ step :: later →
      (opened store settings disk ids).run? earlier = some m₁ → m₁.step? step = some m₂ →
      m₁.Alters m₂ id → (∃ change ∈ since m₂ m, change.refreshes id = true) ∨ m.Lost id) ∧
    ∀ id, m.view id = m.registry.row? id ∨ m.Lost id := by
  have sound := sound_opened (τ := τ) store settings disk ids
  constructor
  · -- the run is split at the step that alters the session, which owes what is told later on
    rintro earlier step later m₁ m₂ id rfl before made alters
    rw [run?_append, before, Option.bind_some, run?, made, Option.bind_some] at ran
    obtain ⟨sound₁, -⟩ := tells_of_run? sound before
    obtain ⟨sound₂, news, accounts⟩ := accounts_of_step? sound₁ made
    obtain ⟨-, told, tells⟩ := tells_of_run? sound₂ ran
    rcases tells.owes id (accounts.altered id alters) with owes | announced
    · exact .inr (quiet.lost owes)
    · exact .inl (tells.since_eq ▸ announced)
  · intro id
    have fresh : (opened (τ := τ) store settings disk ids).Informed :=
      ⟨Nat.le_refl _, fun id => .inl (row?_of_idle (m := opened store settings disk ids) rfl id).symm⟩
    obtain seen | owes | ⟨change, mem, -⟩ := (informed_of_run? sound fresh ran).knows id
    · exact .inl (seen.trans (row?_of_idle quiet.idle id))
    · exact .inr (quiet.lost owes)
    · rw [quiet.seen, ← Feed.length_toList, List.drop_length] at mem
      exact absurd mem List.not_mem_nil

/-- A registry whose document is missing, with an observer. -/
def vacant : Watched Rehearsal := opened ⟨["connections.json"], "connections.json"⟩ {} {} fun _ => ""

/-- A profile is added, and its session connects; then the registry is shut down, and the session tells of
its end while it is being closed. -/
def evening : List (Step Rehearsal) :=
  [.add World.home, .look, .client World.home.id { plan := {} }, .act 0 (.other (.ask .connect)),
    .act 0 (.other .takeCommand), .act 0 (.other .takeEvent), .act 0 (.other .dispatch), .read 0, .read 0,
    .relay 0, .look, .look, .shutdown [World.home.id], .proceed, .act 0 .proceed, .act 0 .proceed,
    .act 0 (.other .takeCommand)]

/-- What the parties do after that: the follower reads of the last change before it is cut off. -/
def night : List (Step Rehearsal) :=
  [.read 0, .read 0, .act 0 .proceed, .act 0 .proceed, .act 0 .proceed, .act 0 (.other .takeCommand),
    .act 0 .proceed, .act 0 (.other .finishTicker), .act 0 .proceed, .act 0 .proceed, .act 0 .proceed,
    .relay 0, .proceed, .proceed, .look, .look]

/-- The last change, which comes while the session is being closed, is announced, and the observer has seen
its row. -/
theorem changes_reach_observers_evening :
    ∃ m₁ m₂ m, vacant.run? evening = some m₁ ∧ m₁.step? (.act 0 (.other .dispatch)) = some m₂ ∧
      vacant.run? (evening ++ .act 0 (.other .dispatch) :: night) = some m ∧ m.Quiet ∧
      m₁.Alters m₂ World.home.id ∧
      (∃ change ∈ since m₂ m, change.refreshes World.home.id = true) ∧
      m.view World.home.id = m.registry.row? World.home.id := by
  have facts : ((vacant.run? evening).bind fun m₁ => (m₁.step? (.act 0 (.other .dispatch))).bind fun m₂ =>
      (m₂.run? night).map fun m => decide (m.Quiet ∧ m.severed = [] ∧ m₁.held? World.home.id = some 0 ∧
        (m₁.registry.session? 0).map Session.state = some .disconnecting ∧
        (m₂.registry.session? 0).map Session.state = some .disconnected)) = some true := by
    decide +kernel
  obtain ⟨m₁, before, facts⟩ := Option.bind_eq_some_iff.mp facts
  obtain ⟨m₂, made, facts⟩ := Option.bind_eq_some_iff.mp facts
  obtain ⟨m, after, facts⟩ := Option.map_eq_some_iff.mp facts
  obtain ⟨quiet, unsevered, held, first, second⟩ := of_decide_eq_true facts
  obtain ⟨s, there, state⟩ := Option.map_eq_some_iff.mp first
  obtain ⟨s', there', state'⟩ := Option.map_eq_some_iff.mp second
  have altered : Altered s s' := by
    left
    rw [state, state']
    decide
  have alters : m₁.Alters m₂ World.home.id := ⟨0, s, s', held, there, there', altered⟩
  have ran : vacant.run? (evening ++ .act 0 (.other .dispatch) :: night) = some m := by
    rw [run?_append, before, Option.bind_some, run?, made, Option.bind_some, after]
  obtain ⟨announced, seen⟩ := changes_reach_observers _ _ _ _ ran quiet
  have kept (id : String) : ¬m.Lost id := by
    rintro ⟨position, noted, -⟩
    exact absurd (unsevered ▸ noted) List.not_mem_nil
  exact ⟨m₁, m₂, m, before, made, ran, quiet, alters,
    (announced evening _ night m₁ m₂ World.home.id rfl before made alters).resolve_right (kept _),
    (seen World.home.id).resolve_right (kept _)⟩

end Watched

namespace World

/-- A factory of rehearsals that never come back from disconnecting. -/
def unsure (_ : Profile) (_ : Unit) : Rehearsal × Unit := ({ plan := { hang := [.disconnect] } }, ())

/-- The session of `home` has connected and been asked to disconnect, which it will never have done. -/
def hanging : World Rehearsal Unit :=
  housed.run unsure
    [.client home.id, .move 0 (.ask .connect), .elapse 1, .move 0 (.ask .disconnect), .elapse 1]

/-- **A last change that nobody hears of.** The registry is shut down, which forces the session into the
disconnected state: its row is another one, nothing is announced, and nobody is left to announce it. -/
theorem shutdown_unannounced :
    (hanging.registry.row? home.id).map Row.state = some .disconnecting ∧
      ((hanging.after unsure .shutdown).registry.row? home.id).map Row.state = some .disconnected ∧
      (hanging.after unsure .shutdown).registry.changes.toList = hanging.registry.changes.toList ∧
      ∀ s ∈ (hanging.after unsure .shutdown).registry.sessions,
        s.follower.isActive = false ∧ s.follower.refreshes = 0 := by
  refine ⟨?_, ?_, ?_, ?_⟩ <;> decide +kernel

end World

end MqttSessions
