import MqttSessions.Proofs.Registry.Calls
import MqttSessions.Proofs.Registry.Sessions
import MqttSessions.Proofs.Store

/-! # What the cache of a registry says

Every registry that its calls can lead to is *sound* (**`Registry.Sound`**): no id is listed twice,
every cached session belongs to a listed profile, and every session that is not cached is over. It is so
when it is opened (**`Registry.sound_of_create`**), and each of its calls leads from a sound registry to a
sound one with the same sessions, later on (**`Registry.Continued`**). For deleting, reading again and
shutting down this rests on evicting (**`Registry.Sound.evict`**): a session leaves the cache only to be
closed, and a profile leaves the list only after its session has left the cache. -/

namespace MqttSessions

open Session

namespace Registry

variable {τ : Type} {r r' r'' : Registry τ} {disk disk' : Disk} {id : String}

/-- A registry whose list, cache and sessions agree. -/
structure Sound (r : Registry τ) : Prop where
  distinct : r.ids.Nodup
  keys : (r.cache.map Prod.fst).Nodup
  listed : ∀ entry ∈ r.cache, entry.1 ∈ r.ids
  owned : ∀ entry ∈ r.cache, ∃ s, r.session? entry.2 = some s ∧ s.profile.id = entry.1
  timed : r.settings.disconnectTimeout ≠ 0
  tuned : ∀ number s, r.session? number = some s → s.settings = r.settings
  sealed : ∀ number s, r.session? number = some s → s.closed = true → s.Over
  gone : ∀ number s, r.session? number = some s → (∀ entry ∈ r.cache, entry.2 ≠ number) → s.Over

/-! ## What the cache says -/

theorem cached?_of_mem {number : Nat} (keys : (r.cache.map Prod.fst).Nodup)
    (mem : (id, number) ∈ r.cache) : r.cached? id = some number := by
  cases cached : r.cached? id with
  | none => exact absurd rfl (cached?_eq_none_iff.mp cached _ mem)
  | some other =>
    have same := List.inj_on_of_nodup_map keys (mem_of_cached? cached) mem rfl
    exact congrArg some (Prod.ext_iff.mp same).2

namespace Sound

/-- The profile of a cached session is listed. -/
theorem mem_ids (sound : r.Sound) {number : Nat} (cached : r.cached? id = some number) : id ∈ r.ids :=
  sound.listed _ (mem_of_cached? cached)

/-- A session whose number the cache does not give is over. -/
theorem ended (sound : r.Sound) {number : Nat} {s : Session τ} (found : r.session? number = some s)
    (uncached : ∀ id, r.cached? id ≠ some number) : s.Over := by
  refine sound.gone number s found fun entry mem same => ?_
  obtain ⟨id, number'⟩ := entry
  obtain rfl : number' = number := same
  exact uncached id (cached?_of_mem sound.keys mem)

/-- A registry is as sound as one with the same sessions and cache, if its list is in order. -/
theorem relist (sound : r.Sound) (settings : r'.settings = r.settings)
    (sessions : r'.sessions = r.sessions) (cache : r'.cache = r.cache) (distinct : r'.ids.Nodup)
    (listed : ∀ entry ∈ r.cache, entry.1 ∈ r'.ids) : r'.Sound := by
  have same (number : Nat) : r'.session? number = r.session? number := by
    rw [session?, sessions, session?]
  exact
    { distinct
      keys := cache ▸ sound.keys
      listed := cache ▸ listed
      owned := by
        rw [cache]
        simp only [same]
        exact sound.owned
      timed := settings ▸ sound.timed
      tuned := by
        simp only [same, settings]
        exact sound.tuned
      sealed := by
        simp only [same]
        exact sound.sealed
      gone := by
        simp only [same, cache]
        exact sound.gone }

/-- **A registry stays sound when a session is created** for a listed profile that has none. -/
theorem enrol {profile : Profile} (sound : r.Sound) (transport : τ) (listed : profile.id ∈ r.ids)
    (uncached : r.cached? profile.id = none) : (r.enrol profile transport).Sound where
  distinct := sound.distinct
  keys := by
    change ((r.cache ++ [(profile.id, r.sessions.length)]).map Prod.fst).Nodup
    rw [List.map_append, List.map_singleton, ← List.concat_eq_append]
    refine List.Nodup.concat (fun mem => ?_) sound.keys
    obtain ⟨entry, there, same⟩ := List.mem_map.mp mem
    exact cached?_eq_none_iff.mp uncached entry there same
  listed := List.forall_mem_append.mpr ⟨sound.listed, List.forall_mem_singleton.mpr listed⟩
  owned := by
    refine List.forall_mem_append.mpr ⟨fun entry mem => ?_, List.forall_mem_singleton.mpr ?_⟩
    · obtain ⟨s, found, owner⟩ := sound.owned entry mem
      exact ⟨s, enrol_session?_of_some found, owner⟩
    · exact ⟨_, by rw [enrol_session?, if_pos rfl], rfl⟩
  timed := sound.timed
  tuned number s found := by
    rcases enrol_session?_cases found with ⟨-, rfl⟩ | old
    · rfl
    · exact sound.tuned number s old
  sealed number s found closed := by
    rcases enrol_session?_cases found with ⟨-, rfl⟩ | old
    · cases closed
    · exact sound.sealed number s old closed
  gone number s found unnamed := by
    obtain ⟨before, new⟩ := List.forall_mem_append.mp unnamed
    rcases enrol_session?_cases found with ⟨rfl, -⟩ | old
    · exact absurd rfl (new _ (List.mem_singleton_self _))
    · exact sound.gone number s old before

/-- **Time keeps a registry sound**, also if sessions leave the cache meanwhile, as long as they are over
afterwards. -/
theorem narrowed {cache : List (String × Nat)} (sound : r.Sound) (kept : cache.Sublist r.cache)
    (aged : Aged { r with cache } r')
    (left : ∀ entry ∈ r.cache, entry ∉ cache → ∀ s, r'.session? entry.2 = some s → s.Over) :
    r'.Sound where
  distinct := by
    rw [ids, aged.profiles]
    exact sound.distinct
  keys := aged.cache ▸ sound.keys.sublist (kept.map Prod.fst)
  listed := by
    rw [ids, aged.cache, aged.profiles]
    exact fun entry mem => sound.listed entry (kept.subset mem)
  owned := by
    rw [aged.cache]
    intro entry mem
    obtain ⟨s, found, owner⟩ := sound.owned entry (kept.subset mem)
    obtain ⟨s', found', later⟩ := aged.after found
    exact ⟨s', found', later.profile ▸ owner⟩
  timed := aged.settings ▸ sound.timed
  tuned number s' found' := by
    obtain ⟨s, found, later⟩ := aged.before found'
    rw [later.settings, aged.settings]
    exact sound.tuned number s found
  sealed number s' found' := by
    obtain ⟨s, found, later⟩ := aged.before found'
    exact later.sealed (sound.sealed number s found)
  gone number s' found' unnamed := by
    obtain ⟨s, found, later⟩ := aged.before found'
    by_cases named : ∀ entry ∈ r.cache, entry.2 ≠ number
    · exact (later.ended (sound.gone number s found named)).1
    · -- the cache named the session before, so that it is one of those that have left
      push Not at named
      obtain ⟨entry, mem, rfl⟩ := named
      have out : entry ∉ cache := fun still => unnamed entry (aged.cache ▸ still) rfl
      exact left entry mem out s' found'

theorem aged (sound : r.Sound) (aged : Aged r r') : r'.Sound :=
  sound.narrowed (.refl r.cache) aged fun _ mem out => absurd mem out

variable [Transport τ]

/-- Every session may be closed: it is older afterwards. -/
theorem dismissed (sound : r.Sound) {number : Nat} {s : Session τ} (found : r.session? number = some s) :
    s.Later (dismiss s).2 := by
  have positive : s.settings.disconnectTimeout ≠ 0 := sound.tuned number s found ▸ sound.timed
  exact (Later.close positive).trans (.stopFollower _)

/-- Evicting makes the sessions of a registry older. -/
theorem evict_aged (sound : r.Sound) (id : String) : Aged (r.uncache id) (r.evict id) := by
  cases cached : r.cached? id with
  | none =>
    rw [evict_of_none cached, uncache_of_none cached]
    exact .refl r
  | some number =>
    rw [evict_of_some cached]
    exact inSession_aged fun s found => sound.dismissed found

/-- **Evicting keeps a registry sound**: the session that is evicted is over. -/
theorem evict (sound : r.Sound) (id : String) : (r.evict id).Sound := by
  refine sound.narrowed List.filter_sublist (sound.evict_aged id) fun entry mem out s' found' => ?_
  -- what has left the cache is what was cached under the id
  obtain ⟨key, number⟩ := entry
  obtain rfl : key = id := by
    by_contra other
    exact out (List.mem_filter.mpr ⟨mem, by simpa using other⟩)
  obtain ⟨s, found, -⟩ := sound.owned _ mem
  have closed := evict_session?_self (cached?_of_mem sound.keys mem) found
  obtain rfl := Option.some.inj (found'.symm.trans closed)
  have positive : s.settings.disconnectTimeout ≠ 0 := sound.tuned number s found ▸ sound.timed
  have ended : s.close.Over := Later.over_of_close positive (sound.sealed number s found)
  exact ((Later.takeRefreshes _).ended ((Later.stopFollower _).ended ended).1).1

end Sound

/-! ## From one moment to the next -/

/-- From one moment of a registry to a later one: it is sound then, the sessions that there were are
there, later on, and what has come into the cache is new. -/
structure Continued (r r' : Registry τ) : Prop where
  sound : r'.Sound
  later : ∀ {number : Nat} {s : Session τ}, r.session? number = some s →
    ∃ s', r'.session? number = some s' ∧ s.Later s'
  entries : ∀ entry ∈ r'.cache, entry ∈ r.cache ∨ r.session? entry.2 = none

namespace Continued

theorem refl (sound : r.Sound) : Continued r r :=
  ⟨sound, fun found => ⟨_, found, .refl _⟩, fun _ => .inl⟩

theorem trans (first : Continued r r') (second : Continued r' r'') : Continued r r'' where
  sound := second.sound
  later found := by
    obtain ⟨s', found', later⟩ := first.later found
    obtain ⟨s'', found'', later'⟩ := second.later found'
    exact ⟨s'', found'', later.trans later'⟩
  entries entry mem := by
    rcases second.entries entry mem with before | new
    · exact first.entries entry before
    · cases found : r.session? entry.2 with
      | none => exact .inr rfl
      | some s =>
        obtain ⟨s', found', -⟩ := first.later found
        exact nomatch found'.symm.trans new

/-- Only the list has changed, and it is in order. -/
theorem relist (sound : r.Sound) (settings : r'.settings = r.settings)
    (sessions : r'.sessions = r.sessions) (cache : r'.cache = r.cache) (distinct : r'.ids.Nodup)
    (listed : ∀ entry ∈ r.cache, entry.1 ∈ r'.ids) : Continued r r' where
  sound := sound.relist settings sessions cache distinct listed
  later {number s} found := by
    refine ⟨s, ?_, .refl s⟩
    rw [session?, sessions]
    exact found
  entries _ mem := .inl (cache ▸ mem)

/-- Only time has passed. -/
theorem of_aged (sound : r.Sound) (aged : Aged r r') : Continued r r' :=
  ⟨sound.aged aged, aged.after, fun _ mem => .inl (aged.cache ▸ mem)⟩

/-- A new session has been created for a profile that had none. -/
theorem enrol {profile : Profile} (sound : r.Sound) (transport : τ) (listed : profile.id ∈ r.ids)
    (uncached : r.cached? profile.id = none) : Continued r (r.enrol profile transport) where
  sound := sound.enrol transport listed uncached
  later {_ s} found := ⟨s, enrol_session?_of_some found, .refl s⟩
  entries := by
    refine List.forall_mem_append.mpr ⟨fun entry => .inl, List.forall_mem_singleton.mpr (.inr ?_)⟩
    exact List.getElem?_eq_none (Nat.le_refl _)

variable [Transport τ]

/-- A session has been evicted. -/
theorem evict (sound : r.Sound) (id : String) : Continued r (r.evict id) := by
  have aged := sound.evict_aged id
  refine ⟨sound.evict id, aged.after, fun entry mem => .inl ?_⟩
  exact List.mem_of_mem_filter (aged.cache ▸ mem)

/-- Sessions have been evicted one after the other. -/
theorem evictAll (sound : r.Sound) (ids : List String) : Continued r (ids.foldl Registry.evict r) := by
  induction ids generalizing r with
  | nil => exact .refl sound
  | cons id rest ih => exact (evict sound id).trans (ih (sound.evict id))

end Continued

/-! ## Calls -/

/-- A list that was fetched has no id twice. -/
theorem fetched_distinct {store : Store} {ids : Nat → String} {fetched : Store.Fetched}
    (fetches : store.fetch disk ids = (disk', .ok fetched)) :
    (fetched.loaded.profiles.map Profile.id).Nodup := by
  cases Store.fetching_of_fetch fetches with
  | complete loads => exact (Store.loadable_of_load loads).distinct
  | completed loads => exact (Store.loadable_of_load loads).distinct

/-- **A registry is sound when it has been opened.** -/
theorem sound_of_create {settings : Settings} (valid : settings.firstZero? = none) (store : Store)
    (disk : Disk) (ids : Nat → String) : (create (τ := τ) store settings.session disk ids).1.Sound := by
  have timed := (Settings.firstZero?_eq_none_iff.mp valid).2.1
  have distinct : (create (τ := τ) store settings.session disk ids).1.ids.Nodup := by
    rw [create]
    cases fetches : store.fetch disk ids with
    | mk disk' list =>
      cases list with
      | error failure => exact List.nodup_nil
      | ok fetched => exact fetched_distinct fetches
  have unborn (number : Nat) (s : Session τ) :
      (create (τ := τ) store settings.session disk ids).1.session? number ≠ some s := by
    simp [session?, create, ofFetched]
  refine ⟨distinct, List.nodup_nil, ?_, ?_, timed, ?_, ?_, ?_⟩
  · exact fun entry mem => absurd mem List.not_mem_nil
  · exact fun entry mem => absurd mem List.not_mem_nil
  · exact fun number s found => absurd found (unborn number s)
  · exact fun number s found => absurd found (unborn number s)
  · exact fun number s found => absurd found (unborn number s)

namespace Continued

/-- A profile has been added, or has not. -/
theorem add {profile : Profile} {outcome : Outcome} (sound : r.Sound)
    (adds : r.add disk profile = (outcome, r', disk')) : Continued r r' := by
  cases added_of_add adds with
  | known => exact .refl sound
  | unsaved => exact .refl sound
  | saved fresh =>
    refine .relist sound rfl rfl rfl (nodup_of_fresh sound.distinct fresh) fun entry mem => ?_
    change entry.1 ∈ (r.profiles ++ [profile]).map Profile.id
    rw [List.map_append]
    exact List.mem_append_left _ (sound.listed entry mem)

variable [Transport τ]

/-- A profile has been deleted, or has not: its session has been evicted before. -/
theorem delete {outcome : Outcome} (sound : r.Sound)
    (deletes : r.delete disk id = (outcome, r', disk')) : Continued r r' := by
  cases deleted_of_delete deletes with
  | unknown => exact .refl sound
  | unsaved => exact .evict sound id
  | saved place =>
    refine (Continued.evict sound id).trans ?_
    refine .relist (sound.evict id) rfl rfl rfl (nodup_eraseIdx sound.distinct _) fun entry mem => ?_
    -- what is still cached belongs to another profile, which is listed still
    obtain ⟨there, other⟩ := List.mem_filter.mp ((r.evict_refreshed id).cache ▸ mem)
    obtain ⟨p, listed, named⟩ := List.mem_map.mp (sound.listed entry there)
    change entry.1 ∈ (r.profiles.eraseIdx _).map Profile.id
    rw [eraseIdx_index? sound.distinct place]
    exact List.mem_map.mpr ⟨p, List.mem_filter.mpr ⟨listed, named ▸ other⟩, named⟩

/-- The document has been read again, or has not: sessions without a profile have been evicted
before. -/
theorem reload {ids : Nat → String} {outcome : Outcome} {fetched : Except Store.Failure Store.Fetched}
    (sound : r.Sound) (reloads : r.reload disk ids = (outcome, r', disk', fetched)) :
    Continued r r' := by
  cases reloaded_of_reload reloads with
  | unread => exact .refl sound
  | read fetches =>
    rename_i fetched
    have evicted := Continued.evictAll sound (r.vanished fetched.loaded.profiles)
    have distinct : (fetched.loaded.profiles.map Profile.id).Nodup := fetched_distinct fetches
    refine evicted.trans (.relist evicted.sound rfl rfl rfl distinct fun entry mem => ?_)
    -- what is still cached has not vanished, so that its profile is in the new list
    obtain ⟨cached, kept⟩ := mem_evictAll_cache.mp mem
    rw [mem_vanished_iff, not_and, not_not] at kept
    exact kept (List.mem_map_of_mem cached)

/-- All sessions have been evicted. -/
theorem shutdown (sound : r.Sound) : Continued r r.shutdown := evictAll sound _

/-- A session has been closed. -/
theorem close (sound : r.Sound) (number : Nat) :
    Continued r (r.inSession number fun s => ((), s.close)).2 := by
  refine .of_aged sound (inSession_aged fun s found => Later.close ?_)
  exact sound.tuned number s found ▸ sound.timed

end Continued

end Registry

end MqttSessions
