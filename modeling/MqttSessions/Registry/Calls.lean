import MqttSessions.Registry.Basic

/-! # What can be done with a registry

The list is changed by adding and deleting profiles and by reading the document again. Every change
is saved at once, and a change that cannot be saved is taken back. The session of a profile is
created when it is first asked for, and closed when its profile goes.

Main definitions: **`Registry.create`**, **`Registry.reload`**, **`Registry.add`**,
**`Registry.delete`**, **`Registry.client`** and **`Registry.shutdown`**. -/

namespace MqttSessions

/-! ## Loading -/

/-- A list that was loaded, and how saving it went if it held new ids. -/
structure Store.Fetched where
  loaded : Document.Loaded
  writeBack : Option (Except Store.Failure Unit)

/-- Loads the profile list, and saves it if it holds new ids, so that they are the same the next
time. -/
def Store.fetch (store : Store) (disk : Disk) (ids : Nat → String) :
    Disk × Except Store.Failure Store.Fetched :=
  match store.load disk ids with
  | .error failure => (disk, .error failure)
  | .ok loaded =>
    if loaded.needsSave then
      let (disk, saved) := store.save disk loaded.profiles
      (disk, .ok ⟨loaded, some saved⟩)
    else (disk, .ok ⟨loaded, none⟩)

namespace Registry

variable {τ : Type}

/-- The outcome of a call. -/
abbrev Outcome := Except SessionFailure Unit

/-- A registry over the list that was fetched; without one it starts empty. -/
def ofFetched (store : Store) (settings : SessionSettings)
    (fetched : Except Store.Failure Store.Fetched) : Registry τ where
  store := store
  settings := settings
  profiles := match fetched with
    | .ok fetched => fetched.loaded.profiles
    | .error _ => []
  sessions := []
  cache := []
  changes := .ofCapacity settings.eventCapacity
  issued := match fetched with
    | .ok fetched => fetched.loaded.generated
    | .error _ => 0

/-- A registry over the document of a store, and what became of loading it. A document that cannot be
loaded is left alone, and the registry starts empty; `ids` are the ids to be given out. -/
def create (store : Store) (settings : SessionSettings) (disk : Disk) (ids : Nat → String) :
    Registry τ × Disk × Except Store.Failure Store.Fetched :=
  let (disk, fetched) := store.fetch disk ids
  (ofFetched store settings fetched, disk, fetched)

/-! ## Adding and putting back -/

/-- Adds a profile at the end of the list. If the list cannot be saved, the profile is taken off it
again. -/
def add (r : Registry τ) (disk : Disk) (profile : Profile) : Outcome × Registry τ × Disk :=
  if (r.index? profile.id).isSome then (.error (.duplicateProfile profile.id), r, disk)
  else
    let r := { r with profiles := r.profiles ++ [profile] }
    match r.store.save disk r.profiles with
    | (disk, .error failure) =>
      (.error (.persistence failure), { r with profiles := r.profiles.dropLast }, disk)
    | (disk, .ok ()) =>
      (.ok (), r.announce (.inserted (r.profiles.length - 1) profile.id), disk)

/-- Puts a profile back in its place. -/
def restore (r : Registry τ) (index : Nat) (removed : Option Profile) : Registry τ :=
  match removed with
  | none => r
  | some profile => { r with profiles := r.profiles.insertIdx index profile }

/-! ## Sessions of profiles -/

/-- The number of the session of a profile, which is created if there is none; `make` makes its
transport, which may change the factory that it comes from. -/
def clientFrom {φ : Type} (r : Registry τ) (make : Profile → φ → τ × φ) (factory : φ) (id : String) :
    Except SessionFailure Nat × Registry τ × φ :=
  match r.cached? id with
  | some number => (.ok number, r, factory)
  | none =>
    match r.profile? id with
    | none => (.error (.notFound id), r, factory)
    | some profile =>
      let (transport, factory) := make profile factory
      let session := (Session.create profile transport r.settings).startFollower
      (.ok r.sessions.length,
        { r with
          sessions := r.sessions ++ [session]
          cache := r.cache ++ [(id, r.sessions.length)] },
        factory)

/-- The number of the session of a profile, which is created if there is none, from a factory that
never changes; `transport` makes its transport. -/
def client (r : Registry τ) (transport : Profile → τ) (id : String) :
    Except SessionFailure Nat × Registry τ :=
  let (answer, r, _) := r.clientFrom (fun profile factory => (transport profile, factory)) () id
  (answer, r)

section Evicting

variable [Transport τ]

/-- Closes the cached session of a profile, if there is one, and takes it out of the cache. -/
def evict (r : Registry τ) (id : String) : Registry τ :=
  match r.cached? id with
  | none => r
  | some number =>
    let r := { r with cache := r.cache.filter fun entry => entry.1 != id }
    (r.inSession number fun session => ((), session.close.stopFollower)).2

/-- Deletes a profile, after closing its session. An unknown id is ignored. If the list cannot be
saved, the profile is put back in its place. -/
def delete (r : Registry τ) (disk : Disk) (id : String) : Outcome × Registry τ × Disk :=
  match r.index? id with
  | none => (.ok (), r, disk)
  | some index =>
    let r := r.evict id
    let removed := r.profiles[index]?
    let r := { r with profiles := r.profiles.eraseIdx index }
    match r.store.save disk r.profiles with
    | (disk, .error failure) => (.error (.persistence failure), r.restore index removed, disk)
    | (disk, .ok ()) => (.ok (), r.announce (.removed index id), disk)

/-- The ids of the cached sessions whose profiles are not in a list. -/
def vanished (r : Registry τ) (profiles : List Profile) : List String :=
  (r.cache.map (·.1)).filter fun id => !profiles.any fun profile => profile.id == id

/-- Reads the document again, and what became of loading it. Sessions whose profiles are gone are
closed; if the document cannot be loaded the list stays as it is. -/
def reload (r : Registry τ) (disk : Disk) (ids : Nat → String) :
    Outcome × Registry τ × Disk × Except Store.Failure Store.Fetched :=
  let (disk, fetched) := r.store.fetch disk fun k => ids (r.issued + k)
  match fetched with
  | .error failure => (.error (.persistence failure), r, disk, fetched)
  | .ok { loaded, .. } =>
    let r := (r.vanished loaded.profiles).foldl evict r
    let r := { r with profiles := loaded.profiles, issued := r.issued + loaded.generated }
    (.ok (), r.announce .reloaded, disk, fetched)

/-- Closes all cached sessions. -/
def shutdown (r : Registry τ) : Registry τ := (r.cache.map (·.1)).foldl evict r

end Evicting

end Registry

end MqttSessions
