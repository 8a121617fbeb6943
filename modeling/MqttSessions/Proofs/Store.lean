import MqttSessions.Proofs.Files
import MqttSessions.Proofs.Profile.Document
import MqttSessions.Store

/-! # The document is replaced or left alone

A list is saved by writing a document beside the old one and renaming it. Whatever goes wrong with the
disk on the way, the place of the document then holds what it held before (**`Store.save_error`**); if
nothing goes wrong, it holds the new document (**`Store.save_ok`**).

A store *holds* a list (**`Store.Holds`**) if loading yields the list and gives out no ids. What a store
holds after loading or saving is **`Store.holds_of_load`** and **`Store.holds_of_save`**. -/

namespace MqttSessions

open Files

/-! ## Disks -/

namespace Disk

variable {rest : Path} {name other : String}

/-- An attempt keeps what success keeps. -/
theorem attempt_node? {disk : Disk} {result : Except Fault Tree} {path : Path}
    (keeps : ∀ tree, result = .ok tree → node? tree path = node? disk.tree path) :
    node? (disk.attempt result).1.tree path = node? disk.tree path := by
  cases result with
  | error fault => rfl
  | ok tree => exact keeps tree rfl

/-- Directories are made without a change below them, also when not all of them can be made. -/
theorem makeDirs_node? (disk : Disk) (dir : Path) (below : rest ≠ []) :
    node? (disk.makeDirs dir).1.tree (dir ++ rest) = node? disk.tree (dir ++ rest) := by
  rw [makeDirs]
  split
  · rename_i fault made broken
    -- what follows the directories that were made is below them as well
    have split_ : dir ++ rest = dir.take made ++ (dir.drop made ++ rest) := by
      rw [← List.append_assoc, List.take_append_drop]
    rw [split_]
    exact node?_makeDirs disk.tree _ (List.append_ne_nil_of_right_ne_nil _ below)
  · have made := node?_makeDirs disk.tree dir below
    split
    · rename_i tree whole
      rwa [whole] at made
    · rename_i tree fault whole
      rwa [whole] at made

/-- Writing keeps what is beside the file, also when only a part of it can be written. -/
theorem write_sibling (disk : Disk) (dir : Path) (differ : other ≠ name) (octets : List UInt8) :
    node? (disk.write (dir ++ [name]) octets).1.tree (dir ++ [other])
      = node? disk.tree (dir ++ [other]) := by
  rw [write]
  split
  · exact attempt_node? fun tree writes => node?_write_sibling differ writes
  · exact attempt_node? fun tree writes => node?_write_sibling differ writes

/-- Removing keeps what is beside the file. -/
theorem remove_sibling (disk : Disk) (dir : Path) (differ : other ≠ name) :
    node? (disk.remove (dir ++ [name])).1.tree (dir ++ [other]) = node? disk.tree (dir ++ [other]) :=
  attempt_node? fun _ removes => node?_remove_sibling differ removes

/-- An attempt that fails leaves the disk alone. -/
theorem attempt_error {disk disk' : Disk} {result : Except Fault Tree} {fault : Fault}
    (attempted : disk.attempt result = (disk', .error fault)) : disk' = disk := by
  cases result with
  | error fault =>
    cases attempted
    rfl
  | ok tree => cases attempted

/-- An attempt that succeeds yields the tree that it was meant to yield. -/
theorem attempt_ok {disk disk' : Disk} {result : Except Fault Tree}
    (attempted : disk.attempt result = (disk', .ok ())) : result = .ok disk'.tree := by
  cases result with
  | error fault => cases attempted
  | ok tree =>
    cases attempted
    rfl

/-- A disk is left alone if nothing can be renamed. -/
theorem rename_error {disk disk' : Disk} {source target : Path} {fault : Fault}
    (renames : disk.rename source target = (disk', .error fault)) : disk' = disk := by
  rw [rename] at renames
  split at renames
  · cases renames
    rfl
  · exact attempt_error renames

theorem rename_ok {disk disk' : Disk} {source target : Path}
    (renames : disk.rename source target = (disk', .ok ())) :
    Files.rename disk.tree source target = .ok disk'.tree := by
  rw [rename] at renames
  split at renames
  · cases renames
  · exact attempt_ok renames

theorem write_ok {disk disk' : Disk} {path : Path} {octets : List UInt8}
    (writes : disk.write path octets = (disk', .ok ())) :
    Files.write disk.tree path octets = .ok disk'.tree := by
  rw [write] at writes
  split at writes
  · cases writes
  · exact attempt_ok writes

end Disk

namespace Store

variable {store : Store} {disk disk' : Disk}

/-! ## Replacing -/

theorem temporaryPath_append (dir : Path) (name : String) :
    temporaryPath (dir ++ [name]) = dir ++ [name ++ ".tmp"] := by
  simp [temporaryPath]

theorem ne_temporary (name : String) : name ≠ name ++ ".tmp" := by
  intro same
  simpa using congrArg String.length same

/-- What stands at the place of the document: the octets of a file, and whether there is anything. -/
structure SamePlace (path : Path) (tree tree' : Tree) : Prop where
  octets : octets? tree' path = octets? tree path
  isThere : isThere tree' path = isThere tree path

theorem SamePlace.of_node? {path : Path} {tree tree' : Tree}
    (same : node? tree' path = node? tree path) : SamePlace path tree tree' :=
  ⟨by rw [octets?_eq, octets?_eq, same], by rw [isThere_eq, isThere_eq, same]⟩

/-- The root is always there and never a file. -/
theorem SamePlace.root (tree tree' : Tree) : SamePlace [] tree tree' := ⟨rfl, rfl⟩

/-- **A document that is not replaced is left alone.** -/
theorem replace_error {octets : List UInt8} {fault : Fault}
    (replaces : store.replace disk octets = (disk', .error fault)) :
    SamePlace store.path disk.tree disk'.tree := by
  rcases store.path.eq_nil_or_concat with root | ⟨dir, name, place⟩
  · rw [root]
    exact .root _ _
  · rw [List.concat_eq_append] at place
    refine .of_node? ?_
    have made := disk.makeDirs_node? dir (List.cons_ne_nil name [])
    have differ := ne_temporary name
    simp only [replace, place, List.dropLast_concat, temporaryPath_append] at replaces ⊢
    split at replaces
    · -- the directories could not be made
      rename_i first fault makes
      cases replaces
      rwa [makes] at made
    · rename_i first makes
      rw [makes] at made
      have wrote := first.write_sibling dir differ octets
      split at replaces
      · -- the document could not be written
        rename_i second fault writes
        cases replaces
        rw [writes] at wrote
        exact wrote.trans made
      · rename_i second writes
        rw [writes] at wrote
        split at replaces
        · cases replaces
        · -- it could not be renamed, and is removed again
          rename_i third fault renames
          cases replaces
          rw [Disk.rename_error renames]
          exact (second.remove_sibling dir differ).trans (wrote.trans made)

/-- **A document that is replaced holds what was written.** -/
theorem replace_ok {octets : List UInt8} (replaces : store.replace disk octets = (disk', .ok ())) :
    read disk'.tree store.path = .ok octets := by
  simp only [replace] at replaces
  split at replaces
  · cases replaces
  · split at replaces
    · cases replaces
    · rename_i second writes
      split at replaces
      · rename_i third renames
        cases replaces
        refine octets?_eq_some_iff.mp ?_
        rw [octets?_rename (Disk.rename_ok renames), octets?_write (Disk.write_ok writes)]
      · cases replaces

/-! ## Saving -/

/-- **What cannot be saved leaves the document alone.** -/
theorem save_error {profiles : List Profile} {failure : Failure}
    (saves : store.save disk profiles = (disk', .error failure)) :
    SamePlace store.path disk.tree disk'.tree := by
  rw [save] at saves
  split at saves
  · cases saves
  · rename_i replaces
    cases saves
    exact replace_error replaces

/-- **What was saved is in the document.** -/
theorem save_ok {profiles : List Profile} (saves : store.save disk profiles = (disk', .ok ())) :
    read disk'.tree store.path = .ok (Document.octets profiles) := by
  rw [save] at saves
  split at saves
  · rename_i replaces
    cases saves
    exact replace_ok replaces
  · cases saves

/-! ## Loading -/

theorem load_of_missing {ids : Nat → String} (missing : disk.read store.path = .error .notFound) :
    store.load disk ids = .ok ⟨[], 0⟩ := by
  rw [load, missing]

theorem load_of_octets {ids : Nat → String} {octets : List UInt8} {loaded : Document.Loaded}
    (found : disk.read store.path = .ok octets) (reads : Document.read ids octets = .ok loaded) :
    store.load disk ids = .ok loaded := by
  simp only [load, found, reads]

/-- What was loaded stood in the document, or there was none. -/
theorem load_cases {ids : Nat → String} {loaded : Document.Loaded}
    (loads : store.load disk ids = .ok loaded) :
    (disk.read store.path = .error .notFound ∧ loaded = ⟨[], 0⟩) ∨
      ∃ octets, disk.read store.path = .ok octets ∧ Document.read ids octets = .ok loaded := by
  rw [load] at loads
  split at loads
  · rename_i missing
    cases loads
    exact .inl ⟨missing, rfl⟩
  · cases loads
  · rename_i octets found
    split at loads
    · cases loads
    · rename_i reads
      cases loads
      exact .inr ⟨octets, found, reads⟩

/-- What is known of any list that was loaded: its ids are distinct, its numbers fit, and each profile
has a description. -/
structure Loadable (profiles : List Profile) : Prop where
  distinct : (profiles.map Profile.id).Nodup
  inRange : ∀ p ∈ profiles, p.InRange
  described : profiles.map Profile.described = profiles

theorem Loadable.nil : Loadable [] := ⟨List.nodup_nil, nofun, rfl⟩

/-- **A list that was loaded is one that can be stored.** -/
theorem loadable_of_load {ids : Nat → String} {loaded : Document.Loaded}
    (loads : store.load disk ids = .ok loaded) : Loadable loaded.profiles := by
  rcases load_cases loads with ⟨-, rfl⟩ | ⟨octets, -, reads⟩
  · exact .nil
  · exact ⟨Document.read_distinct reads, Document.read_inRange reads, Document.read_described reads⟩

/-! ## What a store holds -/

/-- No outage makes a document look as if it were not there. -/
def Truthful (outage : Outage) : Prop := outage.atRead ≠ some .notFound

instance (outage : Outage) : Decidable (Truthful outage) :=
  inferInstanceAs (Decidable (outage.atRead ≠ some .notFound))

/-- A store holds a list if the list is what can be loaded, by whomever and without new ids. -/
def Holds (store : Store) (tree : Tree) (profiles : List Profile) : Prop :=
  ∀ outage ids, outage.atRead = none → store.load ⟨tree, outage⟩ ids = .ok ⟨profiles, 0⟩

theorem read_of_readable {outage : Outage} (readable : outage.atRead = none) (tree : Tree)
    (path : Path) : (Disk.mk tree outage).read path = Files.read tree path := by
  rw [Disk.read, readable]

/-- Whoever loads a list without being misled has read the document. -/
theorem readable_of_load (truthful : Truthful disk.outage) {ids : Nat → String}
    {loaded : Document.Loaded} (loads : store.load disk ids = .ok loaded) :
    disk.outage.atRead = none := by
  cases broken : disk.outage.atRead with
  | none => rfl
  | some fault =>
    have read : disk.read store.path = .error fault := by rw [Disk.read, broken]
    rcases load_cases loads with ⟨missing, -⟩ | ⟨octets, found, -⟩
    · obtain rfl := Except.error.inj (read.symm.trans missing)
      exact absurd broken truthful
    · exact nomatch read.symm.trans found

/-- **A store holds what was loaded without new ids.** -/
theorem holds_of_load (truthful : Truthful disk.outage) {ids : Nat → String}
    {loaded : Document.Loaded} (loads : store.load disk ids = .ok loaded)
    (named : loaded.generated = 0) : store.Holds disk.tree loaded.profiles := by
  intro outage ids' readable
  have read : (Disk.mk disk.tree outage).read store.path = disk.read store.path :=
    (read_of_readable readable _ _).trans
      (read_of_readable (readable_of_load truthful loads) _ _).symm
  rcases load_cases loads with ⟨missing, rfl⟩ | ⟨octets, found, reads⟩
  · exact load_of_missing (read.trans missing)
  · rw [load_of_octets (read.trans found) (Document.read_generated_zero reads named ids')]
    exact congrArg _ (congrArg (Document.Loaded.mk _) named)

/-- **A store holds what was saved**, each profile described. -/
theorem holds_of_save {profiles : List Profile} (inRange : ∀ p ∈ profiles, p.InRange)
    (distinct : (profiles.map Profile.id).Nodup)
    (saves : store.save disk profiles = (disk', .ok ())) :
    store.Holds disk'.tree (profiles.map Profile.described) := by
  intro outage ids readable
  have found := (read_of_readable readable disk'.tree store.path).trans (save_ok saves)
  exact load_of_octets found (Document.read_octets_of_nodup inRange distinct ids)

/-- What a store holds is what is loaded from it. -/
theorem Holds.load {profiles : List Profile} (holds : store.Holds disk.tree profiles)
    (truthful : Truthful disk.outage) {ids : Nat → String} {loaded : Document.Loaded}
    (loads : store.load disk ids = .ok loaded) : loaded = ⟨profiles, 0⟩ :=
  Except.ok.inj (loads.symm.trans (holds _ ids (readable_of_load truthful loads)))

end Store

end MqttSessions
