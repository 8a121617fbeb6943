import MqttSessions.Session.Run
import MqttSessions.Store

/-! # The registry

A **`Registry`** owns the profile list and at most one session per profile, its cached session. A
session that is no longer cached stays usable for whoever holds it. Observers of the registry follow
the list by **`RowChange`**s.

This module holds the registry's data, what can be asked of it, and how a step of one of its
sessions is taken: **`Registry.inSession`**. -/

namespace MqttSessions

/-- What a registry announces about its list: a row that came, a row that went, a row whose
connection has changed, or a new list. -/
inductive RowChange where
  | inserted (index : Nat) (id : String)
  | removed (index : Nat) (id : String)
  | refreshed (id : String)
  | reloaded
  deriving DecidableEq, Repr

/-- What a list shows of a profile: the profile and where its connection stands. -/
structure Row where
  profile : Profile
  state : ConnectionState
  deriving DecidableEq, Repr

/-- The profile list and its sessions. All sessions ever created are kept, numbered by their places;
the cache tells which of them belong to profiles, each under the id of its profile. -/
structure Registry (τ : Type) where
  store : Store
  settings : SessionSettings
  profiles : List Profile
  sessions : List (Session τ)
  cache : List (String × Nat)
  changes : Feed RowChange
  issued : Nat

namespace Registry

variable {τ : Type}

/-! ## The list -/

/-- The ids in the list. -/
def ids (r : Registry τ) : List String := r.profiles.map Profile.id

/-- The place of a profile. -/
def index? (r : Registry τ) (id : String) : Option Nat :=
  r.profiles.findIdx? fun profile => profile.id == id

/-- The profile of an id. -/
def profile? (r : Registry τ) (id : String) : Option Profile :=
  r.profiles.find? fun profile => profile.id == id

/-- The id at a place of the list. -/
def idAt? (r : Registry τ) (index : Nat) : Option String := r.profiles[index]?.map Profile.id

/-- The number of profiles. -/
def size (r : Registry τ) : Nat := r.profiles.length

/-! ## The sessions -/

/-- The number of the cached session of a profile. -/
def cached? (r : Registry τ) (id : String) : Option Nat :=
  (r.cache.find? fun entry => entry.1 == id).map (·.2)

/-- Whether a profile has a cached session. -/
def hasSession (r : Registry τ) (id : String) : Bool := (r.cached? id).isSome

/-- The session of a number. -/
def session? (r : Registry τ) (number : Nat) : Option (Session τ) := r.sessions[number]?

/-- Where the connection of a profile stands; without a session it is disconnected. -/
def stateOf (r : Registry τ) (id : String) : ConnectionState :=
  ((r.cached? id).bind r.session?).elim .disconnected Session.state

/-- The row of a profile. -/
def rowOf (r : Registry τ) (profile : Profile) : Row := ⟨profile, r.stateOf profile.id⟩

/-- The rows in the order of the list. -/
def rows (r : Registry τ) : List Row := r.profiles.map r.rowOf

/-- The row of an id. -/
def row? (r : Registry τ) (id : String) : Option Row := (r.profile? id).map r.rowOf

/-! ## Announcements -/

/-- Announces a change of the list. -/
def announce (r : Registry τ) (change : RowChange) : Registry τ :=
  { r with changes := r.changes.push change }

/-- Announces the fresh looks that the follower of a session has asked for. -/
def refresh (r : Registry τ) (number : Nat) : Registry τ :=
  match r.sessions[number]? with
  | none => r
  | some session =>
    let (refreshes, session) := session.takeRefreshes
    let r := { r with sessions := r.sessions.set number session }
    (List.replicate refreshes (.refreshed session.profile.id)).foldl announce r

/-- Announces what all followers have asked for. -/
def refreshAll (r : Registry τ) : Registry τ :=
  (List.range r.sessions.length).foldl refresh r

/-! ## Steps of sessions -/

section Steps

variable [Transport τ] {α : Type}

/-- Lets time pass for all sessions but one. -/
def passTime (r : Registry τ) (ms : Nat) (but : Option Nat) : Registry τ :=
  if ms = 0 then r
  else
    { r with sessions := r.sessions.mapIdx fun number session =>
        if but = some number then session else session.advance ms }

/-- Lets time pass. -/
def advance (r : Registry τ) (ms : Nat) : Registry τ := (r.passTime ms none).refreshAll

/-- Takes a step of a session. The time that it takes passes for all sessions, and the fresh looks
that are asked for meanwhile are announced. -/
def inSession (r : Registry τ) (number : Nat) (step : Session τ → α × Session τ) :
    Option α × Registry τ :=
  match r.sessions[number]? with
  | none => (none, r)
  | some before =>
    let (answer, after) := step before
    let r := { r with sessions := r.sessions.set number after }
    (some answer, (r.passTime (after.now - before.now) (some number)).refreshAll)

end Steps

end Registry

end MqttSessions
