import Mathlib.Data.List.InsertIdx
import Mathlib.Data.List.Nodup
import MqttSessions.Proofs.Registry.Steps

/-! # What the calls of a registry come to

Each call of a registry has few outcomes, told apart by what it finds in the list, on the disk and in
the cache: **`Registry.Added`**, **`Registry.Deleted`**, **`Registry.Reloaded`** and
**`Registry.Created`**. Taking a session out of the cache is part of several of them:
**`Registry.evict_refreshed`** says what it leaves alone, **`Registry.evict_cached?`** what is cached
afterwards, and **`Registry.evict_session?`** what becomes of the sessions. -/

namespace MqttSessions

/-- What became of fetching a list: it could not be loaded, it was complete, or it was given new ids
and saved. -/
inductive Store.Fetching (store : Store) (disk : Disk) (ids : Nat → String) :
    Disk → Except Store.Failure Store.Fetched → Prop
  | unread {failure : Store.Failure} (loads : store.load disk ids = .error failure) :
      Fetching store disk ids disk (.error failure)
  | complete {loaded : Document.Loaded} (loads : store.load disk ids = .ok loaded)
      (named : loaded.generated = 0) : Fetching store disk ids disk (.ok ⟨loaded, none⟩)
  | completed {loaded : Document.Loaded} {disk' : Disk} {saved : Except Store.Failure Unit}
      (loads : store.load disk ids = .ok loaded) (unnamed : loaded.generated ≠ 0)
      (saves : store.save disk loaded.profiles = (disk', saved)) :
      Fetching store disk ids disk' (.ok ⟨loaded, some saved⟩)

theorem Store.fetching_of_fetch {store : Store} {disk disk' : Disk} {ids : Nat → String}
    {fetched : Except Store.Failure Store.Fetched} (fetches : store.fetch disk ids = (disk', fetched)) :
    Store.Fetching store disk ids disk' fetched := by
  rw [Store.fetch] at fetches
  split at fetches
  · rename_i failure loads
    cases fetches
    exact .unread loads
  · rename_i loaded loads
    by_cases named : loaded.generated = 0
    · rw [if_neg (by simp [Document.Loaded.needsSave, named])] at fetches
      cases fetches
      exact .complete loads named
    · rw [if_pos (by simp [Document.Loaded.needsSave]; omega)] at fetches
      cases saves : store.save disk loaded.profiles with
      | mk after saved =>
        rw [saves] at fetches
        cases fetches
        exact .completed loads named saves

namespace Registry

variable {τ : Type} {r r' : Registry τ} {disk disk' : Disk} {id : String}

/-! ## The list -/

theorem index?_eq_none_iff : r.index? id = none ↔ id ∉ r.ids := by
  simp [index?, ids, List.findIdx?_eq_none_iff]

/-- The one profile of an id is taken out of a list. -/
theorem eraseP_eq_filter {profiles : List Profile} (distinct : (profiles.map Profile.id).Nodup)
    (id : String) :
    (profiles.eraseP fun p => p.id == id) = profiles.filter fun p => p.id != id := by
  induction profiles with
  | nil => rfl
  | cons p rest ih =>
    obtain ⟨once, distinct⟩ := List.nodup_cons.mp distinct
    by_cases same : p.id = id
    · subst same
      -- no later profile has the id, so that the filter keeps all of them
      have others : ∀ q ∈ rest, q.id ≠ p.id := fun q mem eq =>
        once (eq ▸ List.mem_map_of_mem mem)
      rw [List.eraseP_cons_of_pos (by simp), List.filter_cons_of_neg (by simp)]
      exact (List.filter_eq_self.mpr fun q mem => by simpa using others q mem).symm
    · rw [List.eraseP_cons_of_neg (by simpa using same), List.filter_cons_of_pos (by simpa using same),
        ih distinct]

/-- Deleting at the place of a profile deletes that profile. -/
theorem eraseIdx_index? {index : Nat} (distinct : r.ids.Nodup) (place : r.index? id = some index) :
    r.profiles.eraseIdx index = r.profiles.filter fun p => p.id != id := by
  rw [← eraseP_eq_filter distinct, List.eraseP_eq_eraseIdx,
    show r.profiles.findIdx? (fun p => p.id == id) = some index from place]

/-- A profile whose id is new may be added. -/
theorem nodup_of_fresh {profile : Profile} (distinct : r.ids.Nodup) (fresh : profile.id ∉ r.ids) :
    ((r.profiles ++ [profile]).map Profile.id).Nodup := by
  rw [List.map_append, List.map_singleton, ← List.concat_eq_append]
  exact List.Nodup.concat fresh distinct

/-- Whatever is deleted, the ids that are left are distinct. -/
theorem nodup_eraseIdx (distinct : r.ids.Nodup) (index : Nat) :
    ((r.profiles.eraseIdx index).map Profile.id).Nodup :=
  distinct.sublist ((List.eraseIdx_sublist _ _).map Profile.id)

/-- Nothing is deleted from a list that does not have the id. -/
theorem filter_of_unknown (unknown : id ∉ r.ids) :
    (r.profiles.filter fun p => p.id != id) = r.profiles := by
  refine List.filter_eq_self.mpr fun p mem => ?_
  have other : p.id ≠ id := fun same => unknown (same ▸ List.mem_map_of_mem mem)
  simpa using other

/-- **A profile that is put back in its place has never been gone.** -/
theorem restore_eraseIdx {index : Nat} (place : r.index? id = some index) :
    ({ r with profiles := r.profiles.eraseIdx index }).restore index r.profiles[index]? = r := by
  obtain ⟨within, -, -⟩ := List.findIdx?_eq_some_iff_getElem.mp place
  rw [List.getElem?_eq_getElem within, restore, List.insertIdx_eraseIdx_getElem within]

/-! ## The cache -/

theorem cached?_eq_none_iff : r.cached? id = none ↔ ∀ entry ∈ r.cache, entry.1 ≠ id := by
  simp [cached?]

theorem mem_of_cached? {number : Nat} (cached : r.cached? id = some number) :
    (id, number) ∈ r.cache := by
  obtain ⟨⟨key, other⟩, found, rfl⟩ := Option.map_eq_some_iff.mp cached
  obtain rfl : key = id := by simpa using List.find?_some found
  exact List.mem_of_find?_eq_some found

/-- A registry that has forgotten which session it cached for a profile. -/
def uncache (r : Registry τ) (id : String) : Registry τ :=
  { r with cache := r.cache.filter fun entry => entry.1 != id }

theorem uncache_cached? (r : Registry τ) (id other : String) :
    (r.uncache id).cached? other = if other = id then none else r.cached? other := by
  split
  · rename_i same
    subst same
    refine cached?_eq_none_iff.mpr fun entry mem => ?_
    simpa using (List.mem_filter.mp mem).2
  · rename_i differ
    rw [cached?, uncache, List.find?_filter, cached?]
    refine congrArg (Option.map _) (congrArg (List.find? · r.cache) (funext fun entry => ?_))
    by_cases hit : entry.1 = other
    · simp [hit, differ]
    · simp [hit]

theorem uncache_of_none (uncached : r.cached? id = none) : r.uncache id = r := by
  have all : r.cache.filter (fun entry => entry.1 != id) = r.cache :=
    List.filter_eq_self.mpr fun entry mem => by
      simpa using cached?_eq_none_iff.mp uncached entry mem
  rw [uncache, all]

/-- The sessions that vanish with a new list are those whose profiles are not in it. -/
theorem mem_vanished_iff {profiles : List Profile} :
    id ∈ r.vanished profiles ↔ id ∈ r.cache.map Prod.fst ∧ id ∉ profiles.map Profile.id := by
  simp [vanished]

/-! ## Evicting -/

section Evicting

variable [Transport τ]

/-- What is done with a session that is evicted. -/
def dismiss (s : Session τ) : Unit × Session τ := ((), s.close.stopFollower)

theorem evict_of_none (uncached : r.cached? id = none) : r.evict id = r := by
  rw [evict, uncached]

theorem evict_of_some {number : Nat} (cached : r.cached? id = some number) :
    r.evict id = ((r.uncache id).inSession number dismiss).2 := by
  rw [evict, cached]
  rfl

/-- **Evicting changes the cache and the sessions only.** -/
theorem evict_refreshed (r : Registry τ) (id : String) : Refreshed (r.uncache id) (r.evict id) := by
  cases cached : r.cached? id with
  | none =>
    rw [evict_of_none cached, uncache_of_none cached]
    exact .refl r
  | some number =>
    rw [evict_of_some cached]
    exact inSession_refreshed _ _ _

theorem evict_cached? (r : Registry τ) (id other : String) :
    (r.evict id).cached? other = if other = id then none else r.cached? other := by
  rw [(r.evict_refreshed id).cached?, uncache_cached?]

/-- The session that is evicted is dismissed. -/
theorem evict_session?_self {number : Nat} {s : Session τ} (cached : r.cached? id = some number)
    (found : r.session? number = some s) :
    (r.evict id).session? number = some (dismiss s).2.takeRefreshes.2 := by
  have found' : (r.uncache id).session? number = some s := found
  rw [evict_of_some cached, inSession_session? found', if_pos rfl]

theorem evictAll_cached? (r : Registry τ) (ids : List String) (other : String) :
    (ids.foldl evict r).cached? other = if other ∈ ids then none else r.cached? other := by
  induction ids generalizing r with
  | nil => simp
  | cons id rest ih =>
    rw [List.foldl_cons, ih, evict_cached?]
    by_cases first : other = id
    · simp [first]
    · simp [first]

/-- What is left in the cache when several have been evicted. -/
theorem mem_evictAll_cache {ids : List String} {entry : String × Nat} :
    entry ∈ (ids.foldl evict r).cache ↔ entry ∈ r.cache ∧ entry.1 ∉ ids := by
  induction ids generalizing r with
  | nil => simp
  | cons id rest ih =>
    have first : (r.evict id).cache = r.cache.filter fun entry => entry.1 != id :=
      (r.evict_refreshed id).cache
    rw [List.foldl_cons, ih, first, List.mem_filter, List.mem_cons, not_or, bne_iff_ne, and_assoc]

/-- Evicting several changes the cache and the sessions only. -/
theorem evictAll_frame (r : Registry τ) (ids : List String) :
    (ids.foldl evict r).profiles = r.profiles ∧ (ids.foldl evict r).store = r.store ∧
      (ids.foldl evict r).settings = r.settings := by
  induction ids generalizing r with
  | nil => exact ⟨rfl, rfl, rfl⟩
  | cons id rest ih =>
    obtain ⟨profiles, store, settings⟩ := ih (r.evict id)
    have evicted := r.evict_refreshed id
    exact ⟨profiles.trans evicted.profiles, store.trans evicted.store,
      settings.trans evicted.settings⟩

/-- Nothing is cached after a shutdown. -/
theorem shutdown_cached? (r : Registry τ) (id : String) : r.shutdown.cached? id = none := by
  rw [shutdown, evictAll_cached?]
  split
  · rfl
  · rename_i unknown
    exact cached?_eq_none_iff.mpr fun entry mem same => unknown (List.mem_map.mpr ⟨entry, mem, same⟩)

/-- **Reading the document again keeps the sessions of the profiles that it holds.** -/
theorem reload_cached? (r : Registry τ) (disk : Disk) (ids : Nat → String) (id : String) :
    (r.reload disk ids).2.1.cached? id =
      match (r.reload disk ids).2.2.2 with
      | .error _ => r.cached? id
      | .ok fetched => if id ∈ fetched.loaded.profiles.map Profile.id then r.cached? id else none := by
  rw [reload]
  cases r.store.fetch disk fun k => ids (r.issued + k) with
  | mk after list =>
    cases list with
    | error failure => rfl
    | ok fetched =>
      change ((r.vanished fetched.loaded.profiles).foldl evict r).cached? id = if _ then _ else _
      simp only [evictAll_cached?, mem_vanished_iff]
      by_cases listed : id ∈ fetched.loaded.profiles.map Profile.id
      · rw [if_neg (fun vanished => vanished.2 listed), if_pos listed]
      · rw [if_neg listed]
        split
        · rfl
        · rename_i kept
          refine cached?_eq_none_iff.mpr fun entry mem same => kept ⟨?_, listed⟩
          exact List.mem_map.mpr ⟨entry, mem, same⟩

end Evicting

/-! ## Outcomes -/

/-- What became of adding a profile: its id was known, or the list could not be saved, or it was. -/
inductive Added (r : Registry τ) (disk : Disk) (profile : Profile) :
    Outcome → Registry τ → Disk → Prop
  | known (known : profile.id ∈ r.ids) :
      Added r disk profile (.error (.duplicateProfile profile.id)) r disk
  | unsaved {disk' : Disk} {failure : Store.Failure} (fresh : profile.id ∉ r.ids)
      (saves : r.store.save disk (r.profiles ++ [profile]) = (disk', .error failure)) :
      Added r disk profile (.error (.persistence failure)) r disk'
  | saved {disk' : Disk} (fresh : profile.id ∉ r.ids)
      (saves : r.store.save disk (r.profiles ++ [profile]) = (disk', .ok ())) :
      Added r disk profile (.ok ())
        (({ r with profiles := r.profiles ++ [profile] }).announce
          (.inserted r.profiles.length profile.id))
        disk'

theorem added_of_add {profile : Profile} {outcome : Outcome}
    (adds : r.add disk profile = (outcome, r', disk')) : Added r disk profile outcome r' disk' := by
  rw [add] at adds
  cases place : r.index? profile.id with
  | some index =>
    rw [place] at adds
    cases adds
    refine .known (Classical.byContradiction fun unknown => ?_)
    exact nomatch place.symm.trans (index?_eq_none_iff.mpr unknown)
  | none =>
    rw [place] at adds
    have fresh := index?_eq_none_iff.mp place
    simp only [Option.isSome_none, Bool.false_eq_true, if_false] at adds
    split at adds
    · rename_i saves
      cases adds
      rw [List.dropLast_concat]
      exact .unsaved fresh saves
    · rename_i saves
      cases adds
      rw [List.length_append, List.length_singleton, Nat.add_sub_cancel]
      exact .saved fresh saves

/-- Adding changes nothing in the cache. -/
theorem Added.cached? {profile : Profile} {outcome : Outcome}
    (added : Added r disk profile outcome r' disk') (id : String) : r'.cached? id = r.cached? id := by
  cases added with
  | known => rfl
  | unsaved => rfl
  | saved => rfl

/-- A registry with a new session for a profile, which it caches. -/
def enrol (r : Registry τ) (profile : Profile) (transport : τ) : Registry τ :=
  { r with
    sessions := r.sessions ++ [(Session.create profile transport r.settings).startFollower]
    cache := r.cache ++ [(profile.id, r.sessions.length)] }

/-- The new session has the next number. -/
theorem enrol_session? (r : Registry τ) (profile : Profile) (transport : τ) (number : Nat) :
    (r.enrol profile transport).session? number =
      if number = r.sessions.length then
        some (Session.create profile transport r.settings).startFollower
      else r.session? number := by
  by_cases last : number = r.sessions.length
  · simp [enrol, session?, last]
  · rw [if_neg last, session?, enrol, List.getElem?_append, session?]
    split
    · rfl
    · rw [List.getElem?_eq_none (by simp; omega), List.getElem?_eq_none (by omega)]

/-- A session that is there has an earlier number than a new one. -/
theorem enrol_session?_of_some {profile : Profile} {transport : τ} {number : Nat} {s : Session τ}
    (found : r.session? number = some s) : (r.enrol profile transport).session? number = some s := by
  have within : number < r.sessions.length := (List.getElem?_eq_some_iff.mp found).1
  rw [enrol_session?, if_neg (Nat.ne_of_lt within)]
  exact found

/-- A session is the new one, or it was there before. -/
theorem enrol_session?_cases {profile : Profile} {transport : τ} {number : Nat} {s : Session τ}
    (found : (r.enrol profile transport).session? number = some s) :
    (number = r.sessions.length ∧ s = (Session.create profile transport r.settings).startFollower) ∨
      r.session? number = some s := by
  rw [enrol_session?] at found
  split at found
  · rename_i last
    exact .inl ⟨last, (Option.some.inj found).symm⟩
  · exact .inr found

/-- The new session is cached, unless there was one. -/
theorem enrol_cached? (r : Registry τ) (profile : Profile) (transport : τ) (id : String) :
    (r.enrol profile transport).cached? id =
      (r.cached? id).or (if profile.id = id then some r.sessions.length else none) := by
  rw [cached?, enrol, List.find?_append, cached?]
  cases r.cache.find? fun entry => entry.1 == id with
  | some entry => rfl
  | none =>
    by_cases named : profile.id = id
    · simp [named]
    · simp [named]

/-- What became of asking for the session of a profile: it was cached, or its id was unknown, or it was
created over a transport from the factory. -/
inductive Created {φ : Type} (r : Registry τ) (make : Profile → φ → τ × φ) (factory : φ) (id : String) :
    Except SessionFailure Nat → Registry τ → φ → Prop
  | cached {number : Nat} (cached : r.cached? id = some number) :
      Created r make factory id (.ok number) r factory
  | unknown (uncached : r.cached? id = none) (unknown : id ∉ r.ids) :
      Created r make factory id (.error (.notFound id)) r factory
  | created {profile : Profile} (uncached : r.cached? id = none) (listed : profile ∈ r.profiles)
      (named : profile.id = id) :
      Created r make factory id (.ok r.sessions.length) (r.enrol profile (make profile factory).1)
        (make profile factory).2

theorem created_of_clientFrom {φ : Type} {make : Profile → φ → τ × φ} {factory factory' : φ}
    {answer : Except SessionFailure Nat} (asks : r.clientFrom make factory id = (answer, r', factory')) :
    Created r make factory id answer r' factory' := by
  rw [clientFrom] at asks
  cases cached : r.cached? id with
  | some number =>
    rw [cached] at asks
    cases asks
    exact .cached cached
  | none =>
    rw [cached] at asks
    cases found : r.profile? id with
    | none =>
      rw [found] at asks
      cases asks
      refine .unknown cached fun listed => ?_
      obtain ⟨p, mem, named⟩ := List.mem_map.mp listed
      exact absurd named (by simpa using List.find?_eq_none.mp found p mem)
    | some profile =>
      rw [found] at asks
      cases asks
      obtain rfl : profile.id = id := by simpa using List.find?_some found
      exact .created cached (List.mem_of_find?_eq_some found) rfl

variable [Transport τ]

/-- What became of deleting a profile: its id was unknown, or the list could not be saved, or it was.
In the latter two cases its session has been evicted. -/
inductive Deleted (r : Registry τ) (disk : Disk) (id : String) : Outcome → Registry τ → Disk → Prop
  | unknown (unknown : id ∉ r.ids) : Deleted r disk id (.ok ()) r disk
  | unsaved {index : Nat} {disk' : Disk} {failure : Store.Failure}
      (place : r.index? id = some index)
      (saves : r.store.save disk (r.profiles.eraseIdx index) = (disk', .error failure)) :
      Deleted r disk id (.error (.persistence failure)) (r.evict id) disk'
  | saved {index : Nat} {disk' : Disk} (place : r.index? id = some index)
      (saves : r.store.save disk (r.profiles.eraseIdx index) = (disk', .ok ())) :
      Deleted r disk id (.ok ())
        (({ r.evict id with profiles := r.profiles.eraseIdx index }).announce (.removed index id))
        disk'

theorem deleted_of_delete {outcome : Outcome} (deletes : r.delete disk id = (outcome, r', disk')) :
    Deleted r disk id outcome r' disk' := by
  have evicted := r.evict_refreshed id
  rw [delete] at deletes
  split at deletes
  · rename_i place
    cases deletes
    exact .unknown (index?_eq_none_iff.mp place)
  · rename_i index place
    have profiles : (r.evict id).profiles = r.profiles := evicted.profiles
    have store : (r.evict id).store = r.store := evicted.store
    dsimp only at deletes
    split at deletes
    · rename_i saves
      cases deletes
      have place' : (r.evict id).index? id = some index := by
        rw [index?, profiles]
        exact place
      rw [restore_eraseIdx place']
      rw [profiles, store] at saves
      exact .unsaved place saves
    · rename_i saves
      cases deletes
      rw [profiles, store] at saves
      rw [profiles]
      exact .saved place saves

/-- Deleting takes the session of the profile out of the cache, whether or not the list can be saved. -/
theorem Deleted.cached? {outcome : Outcome} (deleted : Deleted r disk id outcome r' disk')
    (other : String) :
    r'.cached? other = if other = id ∧ id ∈ r.ids then none else r.cached? other := by
  have listed {index : Nat} (place : r.index? id = some index) : id ∈ r.ids := by
    by_contra unknown
    exact nomatch place.symm.trans (index?_eq_none_iff.mpr unknown)
  cases deleted with
  | unknown unknown => rw [if_neg fun gone => unknown gone.2]
  | unsaved place => simp only [evict_cached?, listed place, and_true]
  | saved place =>
    change (r.evict id).cached? other = _
    simp only [evict_cached?, listed place, and_true]

/-- What became of reading the document again: it could not be loaded, or it was, and the sessions whose
profiles were gone have been evicted. -/
inductive Reloaded (r : Registry τ) (disk : Disk) (ids : Nat → String) :
    Outcome → Registry τ → Disk → Prop
  | unread {failure : Store.Failure}
      (loads : r.store.load disk (fun k => ids (r.issued + k)) = .error failure) :
      Reloaded r disk ids (.error (.persistence failure)) r disk
  | read {fetched : Store.Fetched} {disk' : Disk}
      (fetches : r.store.fetch disk (fun k => ids (r.issued + k)) = (disk', .ok fetched)) :
      Reloaded r disk ids (.ok ())
        (({ (r.vanished fetched.loaded.profiles).foldl evict r with
            profiles := fetched.loaded.profiles
            issued := ((r.vanished fetched.loaded.profiles).foldl evict r).issued
              + fetched.loaded.generated }).announce .reloaded)
        disk'

theorem reloaded_of_reload {ids : Nat → String} {outcome : Outcome}
    {fetched : Except Store.Failure Store.Fetched}
    (reloads : r.reload disk ids = (outcome, r', disk', fetched)) :
    Reloaded r disk ids outcome r' disk' := by
  rw [reload] at reloads
  cases fetches : r.store.fetch disk fun k => ids (r.issued + k) with
  | mk after list =>
    rw [fetches] at reloads
    cases list with
    | error failure =>
      cases reloads
      cases Store.fetching_of_fetch fetches with
      | unread loads => exact .unread loads
    | ok list =>
      cases reloads
      exact .read fetches

end Registry

end MqttSessions
