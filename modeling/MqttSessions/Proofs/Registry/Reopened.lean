import MqttSessions.Proofs.Registry.Snapshot

/-! # Ids that were given out stay

A list whose items lack ids is given new ones when it is fetched, and saved with them. Unless saving
fails, the store then holds the list as it was fetched, whoever loads it and whatever ids he would give
out (**`Store.holds_of_fetch`**). If nothing had to be saved, or nothing could be, the document is what
it was (**`Store.samePlace_of_fetch`**).

A registry fetches its list when it is opened and when it reads its document again; both are a
**`Retrieval`**, of which **`Retrieval.given_ids_stay`** tells what comes of opening the document once
more. -/

namespace MqttSessions

namespace Store

variable {store : Store} {disk disk' : Disk} {ids : Nat → String}

/-! ## Fetching -/

/-- A list that was fetched is on the disk, as far as saving it goes: it was saved, or it did not need
to be. -/
def Fetched.Kept (list : Fetched) : Prop := ∀ failure, list.writeBack ≠ some (.error failure)

/-- Fetching has put nothing in the place of the document: it did not load, no item of it lacked an id,
or the list with the new ids could not be saved. -/
def Unwritten : Except Failure Fetched → Prop
  | .error _ => True
  | .ok list => list.loaded.generated = 0 ∨ ∃ failure, list.writeBack = some (.error failure)

/-- A list with new ids is fetched and saved. -/
theorem fetch_of_save {loaded : Document.Loaded} {saved : Except Failure Unit}
    (loads : store.load disk ids = .ok loaded) (unnamed : loaded.needsSave = true)
    (saves : store.save disk loaded.profiles = (disk', saved)) :
    store.fetch disk ids = (disk', .ok ⟨loaded, some saved⟩) := by
  rw [fetch, loads]
  simp only [unnamed, if_true, saves]

/-- **A store holds what was fetched from it**, new ids included, unless they could not be saved. -/
theorem holds_of_fetch {list : Fetched} (truthful : Truthful disk.outage)
    (fetches : store.fetch disk ids = (disk', .ok list)) (kept : list.Kept) :
    store.Holds disk'.tree list.loaded.profiles := by
  cases fetching_of_fetch fetches with
  | complete loads named => exact holds_of_load truthful loads named
  | @completed loaded _ saved loads unnamed saves =>
    cases saved with
    | error failure => exact absurd rfl (kept failure)
    | ok _ =>
      -- what was loaded has been described, so that it is written down as it is
      obtain ⟨distinct, inRange, described⟩ := loadable_of_load loads
      have held := holds_of_save inRange distinct saves
      rw [described] at held
      exact held

/-- **Where nothing was written the document is what it was.** -/
theorem samePlace_of_fetch {fetched : Except Failure Fetched}
    (fetches : store.fetch disk ids = (disk', fetched)) (unwritten : Unwritten fetched) :
    SamePlace store.path disk.tree disk'.tree := by
  cases fetching_of_fetch fetches with
  | unread => exact .of_node? rfl
  | complete => exact .of_node? rfl
  | @completed loaded _ saved loads unnamed saves =>
    obtain ⟨failure, failed⟩ : ∃ failure, some saved = some (.error failure) :=
      unwritten.resolve_left unnamed
    obtain rfl := Option.some.inj failed
    exact save_error saves

end Store

/-! ## Opening and reading again -/

/-- A way to come to a list: a registry is opened over its document, or reads it again. -/
inductive Retrieval (τ : Type) where
  | opening (store : Store) (settings : SessionSettings)
  | rereading (r : Registry τ)

namespace Retrieval

variable {τ : Type} [Transport τ] {disk disk' : Disk} {ids : Nat → String} {r : Registry τ}
  {fetched : Except Store.Failure Store.Fetched}

omit [Transport τ] in
/-- The store that the list comes from. -/
def store : Retrieval τ → Store
  | .opening store _ => store
  | .rereading r => r.store

/-- The ids that are given out: those that a registry has given out before are left out. -/
def drawn : Retrieval τ → (Nat → String) → Nat → String
  | .opening _ _, ids => ids
  | .rereading r, ids => fun k => ids (r.issued + k)

/-- The registry with the list that was fetched, and what became of fetching it. -/
def run : Retrieval τ → Disk → (Nat → String) →
    Registry τ × Disk × Except Store.Failure Store.Fetched
  | .opening store settings, disk, ids => Registry.create store settings disk ids
  | .rereading r, disk, ids => (r.reload disk ids).2

/-- A retrieval fetches the list, and does nothing else to the disk. -/
theorem run_snd (retrieval : Retrieval τ) (disk : Disk) (ids : Nat → String) :
    (retrieval.run disk ids).2 = retrieval.store.fetch disk (retrieval.drawn ids) := by
  cases retrieval with
  | opening store settings => rfl
  | rereading r =>
    rw [run, Registry.reload]
    change _ = r.store.fetch disk fun k => ids (r.issued + k)
    cases r.store.fetch disk fun k => ids (r.issued + k) with
    | mk after list => cases list <;> rfl

theorem run_of_fetch {retrieval : Retrieval τ}
    (fetches : retrieval.store.fetch disk (retrieval.drawn ids) = (disk', fetched)) :
    retrieval.run disk ids = ((retrieval.run disk ids).1, disk', fetched) :=
  Prod.ext rfl ((retrieval.run_snd disk ids).trans fetches)

/-- The list of the registry is the one that was fetched. -/
theorem profiles_of_run {retrieval : Retrieval τ} {list : Store.Fetched}
    (retrieves : retrieval.run disk ids = (r, disk', .ok list)) : r.profiles = list.loaded.profiles := by
  cases retrieval with
  | opening store settings =>
    obtain ⟨rfl, rest⟩ := Prod.ext_iff.mp retrieves
    have fetched : (store.fetch disk ids).2 = .ok list := congrArg Prod.snd rest
    change (Registry.ofFetched (τ := τ) store settings (store.fetch disk ids).2).profiles = _
    rw [fetched]
    rfl
  | rereading r₀ =>
    have profiles := r₀.reload_profiles disk ids
    rw [show (r₀.reload disk ids).2 = _ from retrieves] at profiles
    exact profiles

/-- **Ids that were given out stay.** A registry has taken its list from its document, whichever of its
items lacked ids. Unless new ids could not be saved, whoever loads the document then finds the list of
the registry without new ids, every profile in its place and field by field; so every registry that is
opened over it has that list, and opening it changes nothing on the disk. Where no item lacked an id,
the list could not be saved or the document did not load, the document is what it was. -/
theorem given_ids_stay {retrieval : Retrieval τ} (truthful : Store.Truthful disk.outage)
    (retrieves : retrieval.run disk ids = (r, disk', fetched)) :
    (∀ list, fetched = .ok list → list.Kept → ∀ outage ids', outage.atRead = none →
      retrieval.store.load ⟨disk'.tree, outage⟩ ids' = .ok ⟨r.profiles, 0⟩ ∧
      ∀ settings,
        (Registry.create (τ := τ) retrieval.store settings ⟨disk'.tree, outage⟩ ids').1.profiles
          = r.profiles ∧
        (Registry.create (τ := τ) retrieval.store settings ⟨disk'.tree, outage⟩ ids').2.1
          = ⟨disk'.tree, outage⟩) ∧
    (Store.Unwritten fetched →
      Files.octets? disk'.tree retrieval.store.path = Files.octets? disk.tree retrieval.store.path) := by
  have fetches : retrieval.store.fetch disk (retrieval.drawn ids) = (disk', fetched) :=
    (retrieval.run_snd disk ids).symm.trans (congrArg Prod.snd retrieves)
  refine ⟨?_, fun unwritten => (Store.samePlace_of_fetch fetches unwritten).octets⟩
  rintro list rfl kept outage ids' readable
  have held := Store.holds_of_fetch truthful fetches kept
  rw [← profiles_of_run retrieves] at held
  have again : retrieval.store.Holds (Disk.mk disk'.tree outage).tree r.profiles := held
  refine ⟨held outage ids' readable, fun settings => ?_⟩
  rw [Registry.create, again.fetch readable]
  exact ⟨rfl, rfl⟩

/-- An item with an id and an empty description, one with neither, and one with null for its id. -/
def partlyNamed : Json.Value :=
  .object [("version", .natural 1), ("items", .array [
    .object [("id", .string "p1"), ("name", .string "first"), ("host", .string "localhost"),
      ("port", .natural 1883), ("description", .string "")],
    .object [("name", .string "second"), ("host", .string "::1"), ("port", .natural 8883)],
    .object [("id", .null), ("name", .string "third"), ("host", .string "broker"),
      ("port", .natural 1), ("description", .string "\u0000")]])]

/-- A disk with such a document. -/
def partlyNamedDisk (outage : Outage) : Disk where
  tree := [("connections.json", .file (Utf8.encode partlyNamed.pretty.toList))]
  outage := outage

/-- The store of the document. -/
def partlyNamedStore : Store := ⟨["connections.json"], "connections.json"⟩

/-- The profiles of the three items, the last two with new ids. -/
def threeNamed (second third : String) : List Profile :=
  [{ Profile.fresh 0 0 "first" "localhost" 1883 with id := "p1", clientId := "" },
    { Profile.fresh 0 0 "second" "::1" 8883 with id := second, clientId := "" },
    { Profile.fresh 0 0 "third" "broker" 1 with
      id := third, clientId := "", description := "\u0000" }]

/-- The document is loaded with two new ids. -/
theorem load_partlyNamed {outage : Outage} (readable : outage.atRead = none) {ids : Nat → String}
    (distinct : ((threeNamed (ids 0) (ids 1)).map Profile.id).Nodup) :
    partlyNamedStore.load (partlyNamedDisk outage) ids = .ok ⟨threeNamed (ids 0) (ids 1), 2⟩ := by
  have text : Json.read (Utf8.encode partlyNamed.pretty.toList) = (Json.treeOf partlyNamed, true) :=
    Json.read_written _
  refine Store.load_of_octets ((Store.read_of_readable readable _ _).trans rfl) ?_
  refine Document.read_eq_ok_iff.mpr ?_
  rw [text]
  exact ⟨rfl, 1, _, rfl, distinct, rfl⟩

/-- A disk with room for seven more octets. -/
def cramped : Outage := { atWrite := some (.noSpace, 7) }

/-- The three are opened with two new ids, which stay. On a disk without room they are read again with
two other ones, which cannot be saved, and the document is what it was. -/
theorem given_ids_stay_partly_named :
    ∃ (r r' : Registry Rehearsal) (tree tree' : Files.Tree),
      (opening partlyNamedStore {}).run (partlyNamedDisk {}) (s!"new{·}")
        = (r, ⟨tree, {}⟩, .ok ⟨⟨threeNamed "new0" "new1", 2⟩, some (.ok ())⟩) ∧
      r.profiles = threeNamed "new0" "new1" ∧
      partlyNamedStore.load ⟨tree, {}⟩ (fun _ => "") = .ok ⟨threeNamed "new0" "new1", 0⟩ ∧
      (Registry.create (τ := Rehearsal) partlyNamedStore {} ⟨tree, {}⟩ fun _ => "").1.profiles
        = threeNamed "new0" "new1" ∧
      (rereading r).run (partlyNamedDisk cramped) (s!"new{·}")
        = (r', ⟨tree', cramped⟩, .ok ⟨⟨threeNamed "new2" "new3", 2⟩,
            some (.error (.access "connections.json" .noSpace))⟩) ∧
      Files.octets? tree' ["connections.json"] = some (Utf8.encode partlyNamed.pretty.toList) := by
  obtain ⟨tree, fetches⟩ : ∃ tree, partlyNamedStore.fetch (partlyNamedDisk {}) (s!"new{·}")
      = (⟨tree, {}⟩, .ok ⟨⟨threeNamed "new0" "new1", 2⟩, some (.ok ())⟩) :=
    ⟨_, Store.fetch_of_save (load_partlyNamed rfl (by decide)) rfl rfl⟩
  -- the ids that are drawn the second time come after the first two
  obtain ⟨tree', refetches⟩ : ∃ tree', partlyNamedStore.fetch (partlyNamedDisk cramped)
      (fun k => s!"new{2 + k}") = (⟨tree', cramped⟩, .ok ⟨⟨threeNamed "new2" "new3", 2⟩,
        some (.error (.access "connections.json" .noSpace))⟩) :=
    ⟨_, Store.fetch_of_save (load_partlyNamed rfl (by decide)) rfl rfl⟩
  let list : Store.Fetched := ⟨⟨threeNamed "new0" "new1", 2⟩, some (.ok ())⟩
  let r : Registry Rehearsal := .ofFetched partlyNamedStore {} (.ok list)
  have opens : (opening partlyNamedStore {}).run (partlyNamedDisk {}) (s!"new{·}")
      = (r, ⟨tree, {}⟩, .ok list) := by
    rw [run, Registry.create, fetches]
  have issued : r.issued = 2 := rfl
  have draws : (rereading r).drawn (s!"new{·}") = fun k => s!"new{2 + k}" := by rw [drawn, issued]
  have place : (rereading r).store = partlyNamedStore := rfl
  rw [← draws, ← place] at refetches
  have rereads := run_of_fetch refetches
  obtain ⟨stays, -⟩ := given_ids_stay (by decide) opens
  obtain ⟨-, left⟩ := given_ids_stay (by decide) rereads
  have kept : list.Kept := by rintro _ ⟨⟩
  obtain ⟨again, opened⟩ := stays _ rfl kept {} (fun _ => "") rfl
  exact ⟨r, _, tree, tree', opens, rfl, again, (opened {}).1, rereads, left (.inr ⟨_, rfl⟩)⟩

end Retrieval

end MqttSessions
