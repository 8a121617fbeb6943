import MqttSessions.Proofs.Feed
import MqttSessions.Proofs.Registry.World

/-! # Mirrors of the list

Whoever shows the list somewhere else keeps a **`Mirror`**: the ids as they were when it began to read
the announcements, changed by each announcement since. A mirror takes an insertion or a removal only
where it fits, and copies the list anew when that has been replaced.

Whatever is done to a registry, what has been announced leads from the old list to the new one
(**`Registry.Told`**): a row is announced once its coming or going has been saved, at the place that it
then has or had, and what is announced of connections moves no row. So a mirror that misses nothing shows
the list after every deed (**`World.mirrored_ids`**). -/

namespace MqttSessions

/-- A copy of the ids in a list, and how far the announcements have been read for it. -/
structure Mirror where
  position : Nat
  ids : List String
  deriving DecidableEq, Repr

namespace Mirror

variable {τ : Type}

/-- A mirror that is set up now. -/
def ofRegistry (r : Registry τ) : Mirror := ⟨r.changes.position, r.ids⟩

/-- What a change makes of a copy of the list, `none` if it does not fit: a row can come at a place of
the copy or at its end, and a row that goes must be the one at its place. A new list is copied as it is
now. -/
def replay? (current ids : List String) : RowChange → Option (List String)
  | .inserted index id => if index ≤ ids.length then some (ids.insertIdx index id) else none
  | .removed index id => if ids[index]? = some id then some (ids.eraseIdx index) else none
  | .refreshed _ => some ids
  | .reloaded => some current

/-- What is made of a copy by what is read; a copy is worth nothing once a change has been missed. -/
def take? (current ids : List String) : Feed.Reading RowChange → Option (List String)
  | .item change => replay? current ids change
  | .missed _ => none

/-- The mirror after reading all that has been announced. -/
def read? (m : Mirror) (r : Registry τ) : Option Mirror :=
  ((r.changes.read m.position).foldlM (take? r.ids) m.ids).map fun ids => ⟨r.changes.position, ids⟩

end Mirror

namespace Registry

variable {τ : Type} {r r' r'' : Registry τ} {disk disk' : Disk} {id : String}

/-! ## What is announced of the list -/

/-- What has been announced between two moments of a registry leads from the old list to the new one. -/
def Told (r r' : Registry τ) : Prop :=
  ∃ changes : List RowChange, r'.changes = changes.foldl Feed.push r.changes ∧
    changes.foldlM (Mirror.replay? r'.ids) r.ids = some r'.ids

/-- Fresh looks move no row. -/
theorem replay?_refreshed (current ids : List String) (looks : List String) :
    (looks.map RowChange.refreshed).foldlM (Mirror.replay? current) ids = some ids := by
  induction looks with
  | nil => rfl
  | cons look rest ih => exact ih

/-- First some fresh looks are announced, and then one change that leads to the new list. -/
theorem told_of_announced (looks : List String) {change : RowChange}
    (announced : r'.changes = ((looks.map RowChange.refreshed).foldl Feed.push r.changes).push change)
    (fits : Mirror.replay? r'.ids r.ids change = some r'.ids) : Told r r' := by
  refine ⟨looks.map RowChange.refreshed ++ [change], ?_, ?_⟩
  · rw [announced, List.foldl_append]
    rfl
  · rw [List.foldlM_append, replay?_refreshed]
    simpa using fits

namespace Refreshed

/-- **Where only sessions have moved, nothing is told of the list.** -/
theorem told (refreshed : Refreshed r r') : Told r r' := by
  obtain ⟨looks, announced⟩ := refreshed.changes
  have same : r'.ids = r.ids := congrArg (List.map Profile.id) refreshed.profiles
  exact ⟨_, announced, same ▸ replay?_refreshed _ _ looks⟩

end Refreshed

theorem told_refl (r : Registry τ) : Told r r := (Refreshed.refl r).told

/-- **A profile that is added is announced at the end of the list**, and one that is not is not. -/
theorem told_of_add {profile : Profile} {outcome : Outcome}
    (adds : r.add disk profile = (outcome, r', disk')) : Told r r' := by
  cases added_of_add adds with
  | known => exact told_refl r
  | unsaved => exact told_refl r
  | saved =>
    refine told_of_announced [] rfl ?_
    have count : r.profiles.length = r.ids.length := (List.length_map _).symm
    change Mirror.replay? _ r.ids (.inserted r.profiles.length profile.id) =
      some ((r.profiles ++ [profile]).map Profile.id)
    rw [count, Mirror.replay?, if_pos (Nat.le_refl _), List.insertIdx_length_self, List.map_append]
    rfl

variable [Transport τ]

/-- What is announced when sessions are evicted are fresh looks. -/
theorem evictAll_changes (r : Registry τ) (ids : List String) :
    ∃ looks : List String,
      (ids.foldl evict r).changes = (looks.map RowChange.refreshed).foldl Feed.push r.changes := by
  induction ids generalizing r with
  | nil => exact ⟨[], rfl⟩
  | cons id rest ih =>
    obtain ⟨first, announced⟩ := (r.evict_refreshed id).changes
    obtain ⟨later, announced'⟩ := ih (r.evict id)
    refine ⟨first ++ later, ?_⟩
    rw [List.foldl_cons, announced', announced, List.map_append, List.foldl_append]
    rfl

/-- Evicting sessions tells nothing of the list. -/
theorem told_of_evictAll (r : Registry τ) (ids : List String) : Told r (ids.foldl evict r) := by
  obtain ⟨looks, announced⟩ := evictAll_changes r ids
  have same : (ids.foldl evict r).ids = r.ids :=
    congrArg (List.map Profile.id) (evictAll_frame r ids).1
  exact ⟨_, announced, same ▸ replay?_refreshed _ _ looks⟩

/-- **A profile that is deleted is announced at the place that it had**, and one that is not deleted, or
not for good, is not. -/
theorem told_of_delete {outcome : Outcome} (deletes : r.delete disk id = (outcome, r', disk')) :
    Told r r' := by
  cases deleted_of_delete deletes with
  | unknown => exact told_refl r
  | unsaved => exact told_of_evictAll r [id]
  | saved place =>
    rename_i index _
    obtain ⟨looks, announced⟩ := (r.evict_refreshed id).changes
    refine told_of_announced looks (congrArg (Feed.push · _) announced) ?_
    obtain ⟨within, named, -⟩ := List.findIdx?_eq_some_iff_getElem.mp place
    have there : r.ids[index]? = some id := by
      rw [ids, List.getElem?_map, List.getElem?_eq_getElem within, Option.map_some]
      exact congrArg some (by simpa using named)
    change Mirror.replay? _ r.ids (.removed index id) = some ((r.profiles.eraseIdx index).map Profile.id)
    rw [Mirror.replay?, if_pos there, ids, List.eraseIdx_map]

/-- **A list that replaces another is announced as such.** -/
theorem told_of_reload {ids : Nat → String} {outcome : Outcome}
    {fetched : Except Store.Failure Store.Fetched}
    (reloads : r.reload disk ids = (outcome, r', disk', fetched)) : Told r r' := by
  cases reloaded_of_reload reloads with
  | unread => exact told_refl r
  | read =>
    rename_i fetched _
    obtain ⟨looks, announced⟩ := evictAll_changes r (r.vanished fetched.loaded.profiles)
    exact told_of_announced looks (congrArg (Feed.push · _) announced) rfl

end Registry

/-! ## Mirrors and deeds -/

/-- **A mirror of the old list that misses nothing is one of the new list** when it has read what has
been told. -/
theorem Registry.Told.read? {τ : Type} {r r' : Registry τ} (told : Registry.Told r r')
    (unmissed : ∀ count, .missed count ∉ r'.changes.read r.changes.position) :
    (Mirror.ofRegistry r).read? r' = some (Mirror.ofRegistry r') := by
  obtain ⟨changes, announced, leads⟩ := told
  have items : r'.changes.read r.changes.position = changes.map .item := by
    rw [announced] at unmissed ⊢
    exact Feed.read_foldl_push unmissed
  have taken : (r'.changes.read r.changes.position).foldlM (Mirror.take? r'.ids) r.ids = some r'.ids := by
    rw [items, List.foldlM_map]
    exact leads
  rw [Mirror.read?, Mirror.ofRegistry, taken]
  rfl

namespace World

variable {τ φ : Type} [Transport τ]

/-- **Whatever is done, the list is told.** -/
theorem told_after (w : World τ φ) (make : Profile → φ → τ × φ) (deed : Deed τ) :
    Registry.Told w.registry (w.after make deed).registry := by
  cases deed with
  | add profile => exact Registry.told_of_add rfl
  | delete id => exact Registry.told_of_delete rfl
  | reload ids => exact Registry.told_of_reload rfl
  | client id =>
    change Registry.Told w.registry (w.client make id).2.registry
    rcases client_cases w make id with ⟨same, -⟩ | ⟨profile, -, -, -, same⟩
    · rw [same]
      exact Registry.told_refl _
    · rw [same]
      exact ⟨[], rfl, rfl⟩
  | shutdown => exact Registry.told_of_evictAll _ _
  | close number => exact (Registry.inSession_refreshed _ _ _).told
  | move number move => exact (Registry.moved_aged _ number move).told
  | elapse ms => exact (Registry.advance_refreshed _ ms).told
  | edit change => exact Registry.told_refl _

/-- The mirror that reads after each of some deeds, `none` once an announcement did not fit. -/
def mirror? (make : Profile → φ → τ × φ) : World τ φ → List (Deed τ) → Mirror → Option Mirror
  | _, [], m => some m
  | w, deed :: rest, m =>
    (m.read? (w.after make deed).registry).bind ((w.after make deed).mirror? make rest)

/-- Whether a reader that reads after each of some deeds never misses an announcement. -/
def KeepsUp (make : Profile → φ → τ × φ) : World τ φ → List (Deed τ) → Prop
  | _, [] => True
  | w, deed :: rest =>
    (∀ count, .missed count ∉
      (w.after make deed).registry.changes.read w.registry.changes.position) ∧
    (w.after make deed).KeepsUp make rest

/-- **A mirror shows the list after every deed.** In whatever world it was set up, whatever is done there
and whether it succeeds or fails: as long as the mirror misses nothing, every row that comes is announced
at a place of the mirror or at its end, every row that goes is announced at its place in the mirror and
with its id, and the mirror has the ids of the list in their order. -/
theorem mirrored_ids (w : World τ φ) (make : Profile → φ → τ × φ) (deeds : List (Deed τ))
    (keepsUp : w.KeepsUp make deeds) :
    w.mirror? make deeds (.ofRegistry w.registry) = some (.ofRegistry (w.run make deeds).registry) := by
  induction deeds generalizing w with
  | nil => rfl
  | cons deed rest ih =>
    obtain ⟨unmissed, later⟩ := keepsUp
    have first := (w.told_after make deed).read? unmissed
    rw [mirror?, first]
    exact ih _ later

/-- A profile of a broker elsewhere. -/
def abroad : Profile := .fresh 3 3 "abroad" "broker.example" 8883

/-- The session connects, another profile is added, a third one cannot be saved, the first one goes, and
then the document is lost, read again, and begun anew. -/
def eventful : List (Deed Rehearsal) :=
  [.client home.id, .move 0 (.ask .connect), .elapse 50, .add abroad,
    .edit fun disk => { disk with outage := { atWrite := some (.noSpace, 0) } },
    .add (.fresh 4 4 "third" "localhost" 1883), .edit fun disk => { disk with outage := {} },
    .delete home.id, .edit fun disk => { disk with tree := [] }, .reload fun _ => "", .add home]

/-- A mirror that was set up before all this shows the one profile that is left. -/
theorem mirrored_ids_eventful :
    housed.KeepsUp rehearse eventful ∧
      (housed.mirror? rehearse eventful (.ofRegistry housed.registry)).map Mirror.ids = some [home.id] := by
  have keepsUp : housed.KeepsUp rehearse eventful := by
    refine ⟨?_, ?_, ?_, ?_, ?_, ?_, ?_, ?_, ?_, ?_, ?_, trivial⟩ <;>
      exact Feed.unmissed_of_le (by decide)
  rw [mirrored_ids housed rehearse eventful keepsUp]
  exact ⟨keepsUp, rfl⟩

end World

end MqttSessions
