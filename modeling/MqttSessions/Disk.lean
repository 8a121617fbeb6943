import MqttSessions.Files

/-! # Disks

A **`Disk`** is a tree of files together with what goes wrong at it: an **`Outage`** lets every
operation of a kind fail, whatever the files are, as a full disk or a missing permission does.
Renaming is all or nothing; a write that fails may leave a part of the file behind, and making
directories a part of them. -/

namespace MqttSessions

/-- The faults that the operations of a kind end with. A failing write leaves so many octets of the
new file behind, and making directories so many of them. -/
structure Outage where
  atRead : Option Files.Fault := none
  atMakeDirs : Option (Files.Fault × Nat) := none
  atWrite : Option (Files.Fault × Nat) := none
  atRename : Option Files.Fault := none
  deriving DecidableEq, Repr

/-- A tree of files and what goes wrong at it. -/
structure Disk where
  tree : Files.Tree := []
  outage : Outage := {}
  deriving Repr

namespace Disk

/-- The octets of the file at a path. -/
def read (disk : Disk) (path : Files.Path) : Except Files.Fault (List UInt8) :=
  match disk.outage.atRead with
  | some fault => .error fault
  | none => Files.read disk.tree path

/-- The same disk with another tree. -/
def withTree (disk : Disk) (tree : Files.Tree) : Disk := { disk with tree }

/-- The disk after an operation, which leaves the tree alone if it fails. -/
def attempt (disk : Disk) (result : Except Files.Fault Files.Tree) :
    Disk × Except Files.Fault Unit :=
  match result with
  | .ok tree => (disk.withTree tree, .ok ())
  | .error fault => (disk, .error fault)

/-- Makes the directories on a path that are not there. -/
def makeDirs (disk : Disk) (path : Files.Path) : Disk × Except Files.Fault Unit :=
  match disk.outage.atMakeDirs with
  | some (fault, made) =>
    (disk.withTree (Files.makeDirs disk.tree (path.take made)).1, .error fault)
  | none =>
    match Files.makeDirs disk.tree path with
    | (tree, none) => (disk.withTree tree, .ok ())
    | (tree, some fault) => (disk.withTree tree, .error fault)

/-- Writes the whole file at a path. -/
def write (disk : Disk) (path : Files.Path) (octets : List UInt8) :
    Disk × Except Files.Fault Unit :=
  match disk.outage.atWrite with
  | some (fault, left) =>
    ((disk.attempt (Files.write disk.tree path (octets.take left))).1, .error fault)
  | none => disk.attempt (Files.write disk.tree path octets)

/-- Gives the file at a path another path. -/
def rename (disk : Disk) (source target : Files.Path) : Disk × Except Files.Fault Unit :=
  match disk.outage.atRename with
  | some fault => (disk, .error fault)
  | none => disk.attempt (Files.rename disk.tree source target)

/-- Removes the file at a path. -/
def remove (disk : Disk) (path : Files.Path) : Disk × Except Files.Fault Unit :=
  disk.attempt (Files.remove disk.tree path)

end Disk

end MqttSessions
