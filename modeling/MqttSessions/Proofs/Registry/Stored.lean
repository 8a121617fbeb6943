import MqttSessions.Proofs.Registry.Calls
import MqttSessions.Proofs.Store
import MqttSessions.Rehearsal

/-! # The document follows the list

A registry that was opened over a document, or over none, and whose calls have all succeeded since, is
*in step* with its disk (**`Registry.InStep`**): the store holds the list, each profile described. Every
successful **`ListChange`** keeps it so and makes of the list what it is meant to make
(**`Registry.InStep.change`**). So a registry that is opened over the same document finds the same list
(**`Registry.list_is_stored`**), but for profiles without a description, which come back with the one of
their connection (**`Registry.added_bare_returns_described`**). -/

namespace MqttSessions

/-- A change of the list. Reading again may have to give out ids. -/
inductive ListChange where
  | add (profile : Profile)
  | delete (id : String)
  | reload (ids : Nat → String)

namespace ListChange

/-- What a change that succeeds makes of a list. -/
def listed (profiles : List Profile) : ListChange → List Profile
  | .add profile => profiles ++ [profile]
  | .delete id => profiles.filter fun p => p.id != id
  | .reload _ => profiles.map Profile.described

/-- The numbers of a profile that is added fit into two bytes each. -/
def InRange : ListChange → Prop
  | .add profile => profile.InRange
  | .delete _ => True
  | .reload _ => True

instance : (change : ListChange) → Decidable change.InRange
  | .add profile => inferInstanceAs (Decidable profile.InRange)
  | .delete _ => inferInstanceAs (Decidable True)
  | .reload _ => inferInstanceAs (Decidable True)

end ListChange

namespace Registry

variable {τ : Type} [Transport τ]

/-- Makes a change of the list. -/
def change (r : Registry τ) (disk : Disk) : ListChange → Outcome × Registry τ × Disk
  | .add profile => r.add disk profile
  | .delete id => r.delete disk id
  | .reload ids => ((r.reload disk ids).1, (r.reload disk ids).2.1, (r.reload disk ids).2.2.1)

/-- Makes changes one after the other, with nobody else at the files, until one fails. What ails the disk
may be something else each time. -/
def changeAll? : Registry τ → Files.Tree → List (Outage × ListChange) → Option (Registry τ × Files.Tree)
  | r, tree, [] => some (r, tree)
  | r, tree, (outage, change) :: rest =>
    match r.change ⟨tree, outage⟩ change with
    | (.ok (), r, disk) => r.changeAll? disk.tree rest
    | (.error _, _, _) => none

/-! ## In step -/

omit [Transport τ] in
/-- The store of a registry holds its list, and the list is one that can be stored. -/
structure InStep (r : Registry τ) (tree : Files.Tree) : Prop where
  holds : r.store.Holds tree (r.profiles.map Profile.described)
  inRange : ∀ p ∈ r.profiles, p.InRange
  distinct : r.ids.Nodup

omit [Transport τ] in
/-- A list that has been saved is held. -/
theorem InStep.of_save {r : Registry τ} {store : Store} {disk disk' : Disk}
    (inRange : ∀ p ∈ r.profiles, p.InRange) (distinct : r.ids.Nodup)
    (saves : store.save disk r.profiles = (disk', .ok ())) (same : r.store = store) :
    r.InStep disk'.tree :=
  ⟨same ▸ Store.holds_of_save inRange distinct saves, inRange, distinct⟩

omit [Transport τ] in
/-- **A registry is in step when it has been opened**, unless new ids could not be saved. -/
theorem inStep_of_create {store : Store} {settings : SessionSettings} {disk disk' : Disk}
    {ids : Nat → String} {r : Registry τ} {fetched : Store.Fetched}
    (truthful : Store.Truthful disk.outage)
    (opens : create store settings disk ids = (r, disk', .ok fetched))
    (written : ∀ failure, fetched.writeBack ≠ some (.error failure)) :
    r.InStep disk'.tree ∧ r.store = store ∧ r.profiles = fetched.loaded.profiles := by
  rw [create] at opens
  cases fetches : store.fetch disk ids with
  | mk after list =>
    rw [fetches] at opens
    cases opens
    refine ⟨?_, rfl, rfl⟩
    cases Store.fetching_of_fetch fetches with
    | complete loads named =>
      obtain ⟨distinct, inRange, described⟩ := Store.loadable_of_load loads
      have held := Store.holds_of_load truthful loads named
      rw [← described] at held
      exact ⟨held, inRange, distinct⟩
    | completed loads unnamed saves =>
      obtain ⟨distinct, inRange, -⟩ := Store.loadable_of_load loads
      rename_i saved
      cases saved with
      | error failure => exact absurd rfl (written failure)
      | ok _ => exact .of_save inRange distinct saves rfl

/-- **A change that succeeds keeps a registry in step**, and makes of the list what it is meant to make. -/
theorem InStep.change {r r' : Registry τ} {tree : Files.Tree} {outage : Outage} {disk' : Disk}
    {c : ListChange} (inStep : r.InStep tree) (truthful : Store.Truthful outage) (fits : c.InRange)
    (succeeds : r.change ⟨tree, outage⟩ c = (.ok (), r', disk')) :
    r'.InStep disk'.tree ∧ r'.store = r.store ∧ r'.profiles = c.listed r.profiles := by
  obtain ⟨holds, inRange, distinct⟩ := inStep
  cases c with
  | add profile =>
    cases added_of_add succeeds with
    | saved fresh saves =>
      refine ⟨.of_save ?_ ?_ saves rfl, rfl, rfl⟩
      · exact List.forall_mem_append.mpr ⟨inRange, List.forall_mem_singleton.mpr fits⟩
      · exact nodup_of_fresh distinct fresh
  | delete id =>
    cases deleted_of_delete succeeds with
    | unknown unknown =>
      exact ⟨⟨holds, inRange, distinct⟩, rfl, (filter_of_unknown unknown).symm⟩
    | saved place saves =>
      have erased := eraseIdx_index? distinct place
      have store : (r.evict id).store = r.store := (r.evict_refreshed id).store
      refine ⟨.of_save ?_ ?_ saves store, store, erased⟩
      · exact fun p mem => inRange p (List.mem_of_mem_eraseIdx mem)
      · exact nodup_eraseIdx distinct _
  | reload ids =>
    obtain ⟨outcome, rest⟩ := Prod.ext_iff.mp succeeds
    obtain ⟨registry, disk⟩ := Prod.ext_iff.mp rest
    have reloads : r.reload ⟨tree, outage⟩ ids = (.ok (), r', disk', _) :=
      Prod.ext outcome (Prod.ext registry (Prod.ext disk rfl))
    cases reloaded_of_reload reloads with
    | read fetches =>
      rename_i fetched
      obtain ⟨-, store, -⟩ := evictAll_frame r (r.vanished fetched.loaded.profiles)
      -- what is loaded is what the store holds, so that no ids are given out and nothing is saved
      have known {loaded : Document.Loaded} {ids : Nat → String}
          (loads : r.store.load ⟨tree, outage⟩ ids = .ok loaded) :
          loaded = ⟨r.profiles.map Profile.described, 0⟩ :=
        Store.Holds.load (show r.store.Holds (Disk.mk tree outage).tree _ from holds) truthful loads
      cases Store.fetching_of_fetch fetches with
      | complete loads named =>
        obtain rfl := known loads
        refine ⟨⟨?_, ?_, ?_⟩, store, rfl⟩
        · change (Registry.store _).Holds tree ((r.profiles.map Profile.described).map Profile.described)
          rw [Document.map_described_described]
          exact store ▸ holds
        · exact List.forall_mem_map.mpr fun p mem => (inRange p mem).described
        · change ((r.profiles.map Profile.described).map Profile.id).Nodup
          rw [Document.map_id_described]
          exact distinct
      | completed loads unnamed _ =>
        obtain rfl := known loads
        exact absurd rfl unnamed

/-- **Changes that succeed keep a registry in step.** -/
theorem InStep.changeAll? {r r' : Registry τ} {tree tree' : Files.Tree}
    {steps : List (Outage × ListChange)} (inStep : r.InStep tree)
    (truthful : ∀ step ∈ steps, Store.Truthful step.1) (fits : ∀ step ∈ steps, step.2.InRange)
    (succeed : r.changeAll? tree steps = some (r', tree')) :
    r'.InStep tree' ∧ r'.store = r.store ∧
      r'.profiles = (steps.map Prod.snd).foldl ListChange.listed r.profiles := by
  induction steps generalizing r tree with
  | nil =>
    cases succeed
    exact ⟨inStep, rfl, rfl⟩
  | cons step rest ih =>
    obtain ⟨outage, c⟩ := step
    rw [Registry.changeAll?] at succeed
    split at succeed
    · rename_i next disk makes
      obtain ⟨first, others⟩ := List.forall_mem_cons.mp truthful
      obtain ⟨fits, fit⟩ := List.forall_mem_cons.mp fits
      obtain ⟨kept, store, listed⟩ := inStep.change first fits makes
      obtain ⟨last, store', listed'⟩ := ih kept others fit succeed
      refine ⟨last, store'.trans store, ?_⟩
      rw [listed', listed]
      rfl
    · cases succeed

omit [Transport τ] in
/-- **A registry that is opened over the same document finds the list**, and nothing is saved. -/
theorem InStep.create {r : Registry τ} {tree : Files.Tree} (inStep : r.InStep tree) (outage : Outage)
    (readable : outage.atRead = none) (settings : SessionSettings) (ids : Nat → String) :
    create (τ := τ) r.store settings ⟨tree, outage⟩ ids =
      (ofFetched r.store settings (.ok ⟨⟨r.profiles.map Profile.described, 0⟩, none⟩), ⟨tree, outage⟩,
        .ok ⟨⟨r.profiles.map Profile.described, 0⟩, none⟩) := by
  have fetches : r.store.fetch ⟨tree, outage⟩ ids
      = (⟨tree, outage⟩, .ok ⟨⟨r.profiles.map Profile.described, 0⟩, none⟩) := by
    rw [Store.fetch, inStep.holds outage ids readable]
    rfl
  rw [Registry.create, fetches]

/-- **The list is what the changes make of it, and the document is the list.** The registry was opened
over a document, or over none, and its changes have all succeeded. Then every registry that is opened
over the same document finds its list, in the same order and field by field, except that a profile
without a description has the one of its connection; and nobody's opening changes the document. -/
theorem list_is_stored {store : Store} {settings : SessionSettings} {disk disk' : Disk}
    {ids : Nat → String} {r r' : Registry τ} {fetched : Store.Fetched}
    {steps : List (Outage × ListChange)} {tree : Files.Tree}
    (truthful : Store.Truthful disk.outage)
    (opens : create store settings disk ids = (r, disk', .ok fetched))
    (written : ∀ failure, fetched.writeBack ≠ some (.error failure))
    (truthful' : ∀ step ∈ steps, Store.Truthful step.1) (fits : ∀ step ∈ steps, step.2.InRange)
    (succeed : r.changeAll? disk'.tree steps = some (r', tree)) :
    r'.profiles = (steps.map Prod.snd).foldl ListChange.listed fetched.loaded.profiles ∧
    ∀ outage settings' ids', outage.atRead = none →
      (create (τ := τ) store settings' ⟨tree, outage⟩ ids').1.profiles
        = r'.profiles.map Profile.described ∧
      (create (τ := τ) store settings' ⟨tree, outage⟩ ids').2.1 = ⟨tree, outage⟩ := by
  obtain ⟨opened, rfl, profiles⟩ := inStep_of_create truthful opens written
  obtain ⟨kept, same, listed⟩ := opened.changeAll? truthful' fits succeed
  refine ⟨profiles ▸ listed, fun outage settings' ids' readable => ?_⟩
  have again := kept.create outage readable settings' ids'
  rw [same] at again
  rw [again]
  exact ⟨rfl, rfl⟩

/-- A profile without a description. -/
def bare : Profile := { Profile.fresh 1 1 "local" "localhost" 1883 with description := "" }

/-- A store whose document is not there yet. -/
def newStore : Store := ⟨["etc", "connections.json"], "etc/connections.json"⟩

/-- A registry that was opened over no document. -/
def blank : Registry Rehearsal := (create newStore {} {} fun _ => "").1

theorem create_blank :
    create newStore {} {} (fun _ => "") = (blank, {}, .ok ⟨⟨[], 0⟩, none⟩) := rfl

/-- Three profiles are added, of which the second one has no description, and the first one goes. -/
def threeListed : List (Outage × ListChange) :=
  [({}, .add (.fresh 2 2 "first" "localhost" 1883)), ({}, .add bare),
    ({ atRead := some .permissionDenied }, .add (.fresh 3 3 "third" "localhost" 1883)),
    ({}, .delete (Identity.profileId 2))]

/-- The two that are left are found in their order. -/
theorem list_is_stored_three :
    ∃ r' tree, blank.changeAll? [] threeListed = some (r', tree) ∧
      r'.profiles = [bare, .fresh 3 3 "third" "localhost" 1883] ∧
      (create (τ := Rehearsal) newStore {} ⟨tree, {}⟩ fun _ => "").1.profiles
        = [{ bare with description := "local@localhost:1883" },
          .fresh 3 3 "third" "localhost" 1883] := by
  obtain ⟨r', tree, succeed⟩ :
      ∃ r' tree, blank.changeAll? [] threeListed = some (r', tree) := ⟨_, _, rfl⟩
  have truthful : ∀ step ∈ threeListed, Store.Truthful step.1 := by decide
  have fits : ∀ step ∈ threeListed, step.2.InRange := by decide
  obtain ⟨listed, found⟩ := list_is_stored (by decide) create_blank nofun truthful fits succeed
  have left : (threeListed.map Prod.snd).foldl ListChange.listed []
      = [bare, .fresh 3 3 "third" "localhost" 1883] := by decide
  have described : [bare, .fresh 3 3 "third" "localhost" 1883].map Profile.described
      = [{ bare with description := "local@localhost:1883" },
          .fresh 3 3 "third" "localhost" 1883] := by decide
  rw [left] at listed
  refine ⟨r', tree, succeed, listed, ?_⟩
  rw [(found {} {} _ rfl).1, listed, described]

/-- **A profile without a description does not come back as it was.** It is added to a registry over a
document that is not there yet, and listed as it is; whoever opens the document then finds it with a
description. -/
theorem added_bare_returns_described :
    ∃ r' tree, blank.changeAll? [] [({}, .add bare)] = some (r', tree) ∧
      r'.profiles = [bare] ∧
      (create (τ := Rehearsal) newStore {} ⟨tree, {}⟩ fun _ => "").1.profiles ≠ r'.profiles := by
  obtain ⟨r', tree, succeed⟩ :
      ∃ r' tree, blank.changeAll? [] [({}, .add bare)] = some (r', tree) := ⟨_, _, rfl⟩
  obtain ⟨opened, -, -⟩ := inStep_of_create (by decide) create_blank nofun
  obtain ⟨kept, same, listed⟩ := opened.changeAll? (by decide) (by decide) succeed
  have again := kept.create {} rfl {} fun _ => ""
  rw [same, show blank.store = newStore from rfl, show r'.profiles = [bare] from listed] at again
  refine ⟨r', tree, succeed, listed, ?_⟩
  rw [again, show r'.profiles = [bare] from listed]
  change [bare].map Profile.described ≠ [bare]
  decide

end Registry

end MqttSessions
