import Mathlib.Logic.Function.Basic
import MqttSessions.Proofs.Closing.Announced
import MqttSessions.Proofs.Registry.Cached

/-! # A registry that is watched

While a call closes a session, everybody else goes on. Here a registry is taken step by step: its calls,
of which there is one at a time, the parties of its sessions and the calls that close them, the followers
of its sessions, and an observer that reads what the registry announces and looks at the row that has
changed, or at all rows of a new list. -/

namespace MqttSessions

/-- Whether an announcement stands for the changes of a row: it has changed, it is gone, or the list is
new. -/
def RowChange.refreshes (id : String) : RowChange → Bool
  | .inserted .. => false
  | .removed _ other => other == id
  | .refreshed other => other == id
  | .reloaded => true

/-- Whether an observer looks at a row when it reads an announcement. -/
def RowChange.shows (id : String) : RowChange → Bool
  | .inserted _ other => other == id
  | change => change.refreshes id

theorem RowChange.shows_of_refreshes {id : String} {change : RowChange}
    (refreshes : change.refreshes id = true) : change.shows id = true := by
  cases change with
  | inserted => cases refreshes
  | _ => exact refreshes

namespace Registry

variable {τ : Type}

/-- A registry with another session in the place of one that is there. -/
def put (r : Registry τ) (number : Nat) (s : Session τ) : Registry τ :=
  { r with sessions := r.sessions.set number s }

theorem put_session? {r : Registry τ} {number : Nat} {s : Session τ} (found : r.session? number = some s)
    (s' : Session τ) (other : Nat) :
    (r.put number s').session? other = if other = number then some s' else r.session? other := by
  have within := (List.getElem?_eq_some_iff.mp found).1
  by_cases same : other = number
  · subst same
    simp [put, session?, within]
  · simp [put, session?, List.getElem?_set_ne (Ne.symm same), same]

/-- Deletes the profile at a place, or puts it back if the list cannot be saved. -/
def deleteAt (r : Registry τ) (disk : Disk) (id : String) (index : Nat) : Registry τ × Disk :=
  match r.store.save disk (r.profiles.eraseIdx index) with
  | (disk, .error _) =>
    ({ r with profiles := r.profiles.eraseIdx index }.restore index r.profiles[index]?, disk)
  | (disk, .ok ()) => ({ r with profiles := r.profiles.eraseIdx index }.announce (.removed index id), disk)

/-- Takes over a list that has been read. -/
def relist (r : Registry τ) (loaded : Document.Loaded) : Registry τ :=
  { r with profiles := loaded.profiles, issued := r.issued + loaded.generated }.announce .reloaded

variable [Transport τ]

/-- **A call that deletes a profile** first evicts its session. -/
theorem delete_eq (r : Registry τ) (disk : Disk) (id : String) :
    (r.delete disk id).2 =
      match r.index? id with
      | none => (r, disk)
      | some index => (r.evict id).deleteAt disk id index := by
  rw [delete]
  cases r.index? id with
  | none => rfl
  | some index =>
    simp only [deleteAt]
    cases (r.evict id).store.save disk ((r.evict id).profiles.eraseIdx index) with
    | mk disk saved => cases saved <;> rfl

/-- **A call that reads the document again** evicts the sessions that have vanished before it takes over
the list. -/
theorem reload_eq (r : Registry τ) (disk : Disk) (ids : Nat → String) :
    ((r.reload disk ids).2.1, (r.reload disk ids).2.2.1) =
      match r.store.fetch disk fun k => ids (r.issued + k) with
      | (disk, .error _) => (r, disk)
      | (disk, .ok fetched) =>
        (((r.vanished fetched.loaded.profiles).foldl evict r).relist fetched.loaded, disk) := by
  rw [reload]
  cases r.store.fetch disk fun k => ids (r.issued + k) with
  | mk after list => cases list <;> rfl

end Registry

/-! ## The parties -/

namespace Watched

/-- What a call of a registry is for, when it has sessions to evict. -/
inductive Purpose where
  | delete (id : String) (index : Nat)
  | reload (loaded : Document.Loaded)
  | shutdown

/-- A call of a registry that is under way: what it is for, whose sessions are still to be evicted, and
whose session is being closed, under which number, and whether it is this call that closes it. -/
structure Task where
  purpose : Purpose
  queue : List String
  leaving : Option (String × Nat × Bool)

end Watched

/-- A registry that is watched: the disk, how far the call that closes each session has come and which
parties it has aborted, the call of the registry that is under way, and an observer, with the rows that it
has seen and how far it has read. The sessions whose followers were cut off too early are noted, with how
much had been announced by then. -/
structure Watched (τ : Type) where
  registry : Registry τ
  disk : Disk
  closings : Nat → Closing.Phase × List Party := fun _ => (.ahead, [])
  task : Option Watched.Task := none
  severed : List (String × Nat) := []
  view : String → Option Row
  position : Nat

namespace Watched

/-- A step: a call of the registry begins, or the one that is under way goes on; somebody does something
to a session; a follower reads, or what it has asked for is announced; others edit the disk; the observer
starts anew, or reads the next announcement. A call that evicts several sessions does so in any order. -/
inductive Step (τ : Type) where
  | add (profile : Profile)
  | client (id : String) (transport : τ)
  | delete (id : String)
  | reload (ids : Nat → String) (order : List String)
  | shutdown (order : List String)
  | proceed
  | act (number : Nat) (act : Closing.Act τ)
  | read (number : Nat)
  | relay (number : Nat)
  | edit (change : Disk → Disk)
  | subscribe
  | look

variable {τ : Type}

/-- A session with the call that closes it. -/
def closing (m : Watched τ) (number : Nat) (s : Session τ) : Closing τ :=
  ⟨s, (m.closings number).1, (m.closings number).2⟩

/-- Puts a session back with the call that closes it. -/
def withClosing (m : Watched τ) (number : Nat) (c : Closing τ) : Watched τ :=
  { m with
    registry := m.registry.put number c.session
    closings := Function.update m.closings number (c.phase, c.aborted) }

/-- The follower of a session that has been closed is stopped. That is too early if it has not read of the
last change, or if the session is not even disconnected since somebody else is closing it. It does not
matter when the list is about to be announced anew. -/
def cut (m : Watched τ) (task : Task) (id : String) (number : Nat) (s : Session τ) : Watched τ :=
  { m with
    registry := m.registry.put number s.stopFollower
    task := some { task with leaving := none }
    severed :=
      match task.purpose with
      | .reload _ => m.severed
      | _ =>
        if s.state = .disconnected ∧ s.feed.stirs s.follower.position = false then m.severed
        else m.severed ++ [(id, m.registry.changes.position)] }

/-- The call that is under way evicts the next session, if there is one. It closes the session itself
unless somebody else has begun to. -/
def evictNext (m : Watched τ) (task : Task) (id : String) (rest : List String) : Watched τ :=
  match m.registry.cached? id with
  | none => { m with task := some { task with queue := rest } }
  | some number =>
    { m with
      registry := m.registry.uncache id
      task := some ⟨task.purpose, rest, some (id, number, (m.closings number).1 == .ahead)⟩ }

/-- The call that is under way does what it is for. -/
def finish (m : Watched τ) : Purpose → Watched τ
  | .delete id index =>
    let (registry, disk) := m.registry.deleteAt m.disk id index
    { m with registry, disk, task := none }
  | .reload loaded => { m with registry := m.registry.relist loaded, task := none }
  | .shutdown => { m with task := none }

/-- The call that is under way goes on, unless it has to wait until a session has been closed. -/
def pursue? (m : Watched τ) (task : Task) : Option (Watched τ) :=
  match task.leaving, task.queue with
  | some (id, number, own), _ =>
    if own ∧ (m.closings number).1 ≠ .returned then none
    else (m.registry.session? number).map (m.cut task id number)
  | none, id :: rest => some (m.evictNext task id rest)
  | none, [] => some (m.finish task.purpose)

/-- What an observer has seen when it has looked at the rows that an announcement is about. -/
def look (m : Watched τ) (change : RowChange) (id : String) : Option Row :=
  if change.shows id then m.registry.row? id else m.view id

variable [Transport τ]

/-- One step, `none` if it cannot be made: there is one call at a time, nobody can look at rows while there
is one, and an observer that has missed something does not go on. -/
def step? (m : Watched τ) : Step τ → Option (Watched τ)
  | .add profile =>
    if m.task.isSome then none
    else
      let (_, registry, disk) := m.registry.add m.disk profile
      some { m with registry, disk }
  | .client id transport =>
    if m.task.isSome then none
    else some { m with registry := (m.registry.client (fun _ => transport) id).2 }
  | .delete id =>
    if m.task.isSome then none
    else match m.registry.index? id with
      | none => some m
      | some index => some { m with task := some ⟨.delete id index, [id], none⟩ }
  | .reload ids order =>
    if m.task.isSome then none
    else match m.registry.store.fetch m.disk fun k => ids (m.registry.issued + k) with
      | (disk, .error _) => some { m with disk }
      | (disk, .ok fetched) =>
        if order.Perm (m.registry.vanished fetched.loaded.profiles) then
          some { m with disk, task := some ⟨.reload fetched.loaded, order, none⟩ }
        else none
  | .shutdown order =>
    if m.task.isSome then none
    else if order.Perm (m.registry.cache.map Prod.fst) then
      some { m with task := some ⟨.shutdown, order, none⟩ }
    else none
  | .proceed => m.task.bind m.pursue?
  | .act number act =>
    (m.registry.session? number).bind fun s => ((m.closing number s).act? act).map (m.withClosing number)
  | .read number =>
    (m.registry.session? number).bind fun s =>
      s.readNext?.map fun s => { m with registry := m.registry.put number s }
  | .relay number => some { m with registry := m.registry.refresh number }
  | .edit change => some { m with disk := change m.disk }
  | .subscribe =>
    if m.task.isSome then none
    else some { m with view := m.registry.row?, position := m.registry.changes.position }
  | .look =>
    if m.task.isSome then none
    else match m.registry.changes.next? m.position with
      | some (.item change, position) => some { m with view := m.look change, position }
      | _ => none

/-- Steps made one after the other; `none` if one of them cannot be made. -/
def run? : Watched τ → List (Step τ) → Option (Watched τ)
  | m, [] => some m
  | m, step :: rest => (m.step? step).bind (run? · rest)

/-- A registry that has just been opened, with an observer that has looked at its rows. -/
def opened (store : Store) (settings : SessionSettings) (disk : Disk) (ids : Nat → String) : Watched τ :=
  let (registry, disk, _) := Registry.create store settings disk ids
  { registry, disk, view := registry.row?, position := registry.changes.position }

end Watched

end MqttSessions
