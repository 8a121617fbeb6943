/-! # Files

A tree of directories and files as a value, with the operations that the profile store and the
settings need and the ways in which they fail.

Main definitions: **`Files.Tree`**, **`Files.Fault`**, and the operations **`Tree.read`**,
**`Tree.write`**, **`Tree.makeDirs`**, **`Tree.rename`** and **`Tree.remove`**. A path is a list of
names from the root of the tree. -/

namespace MqttSessions

namespace Files

/-- Why an operation on files failed. -/
inductive Fault where
  | notFound
  | alreadyExists
  | notDirectory
  | isDirectory
  | directoryNotEmpty
  | nameTooLong
  | permissionDenied
  | noSpace
  | notUtf8
  deriving DecidableEq, Repr

/-- The wording of a fault, with its number where the operating system has one. -/
def Fault.message : Fault → String
  | .notFound => "No such file or directory (os error 2)"
  | .alreadyExists => "File exists (os error 17)"
  | .notDirectory => "Not a directory (os error 20)"
  | .isDirectory => "Is a directory (os error 21)"
  | .directoryNotEmpty => "Directory not empty (os error 39)"
  | .nameTooLong => "File name too long (os error 36)"
  | .permissionDenied => "Permission denied (os error 13)"
  | .noSpace => "No space left on device (os error 28)"
  | .notUtf8 => "stream did not contain valid UTF-8"

/-- A file with its octets, or a directory with its entries. -/
inductive Node where
  | file (octets : List UInt8)
  | directory (entries : List (String × Node))
  deriving Repr

/-- A directory, as its entries. -/
abbrev Tree := List (String × Node)

/-- A path, as the names on the way. -/
abbrev Path := List String

/-- The names of a path given as text: empty names and single dots count for nothing. The empty text
is the path of a file that is never there. -/
def Path.ofText (text : String) : Path :=
  if text.isEmpty then [""]
  else (text.splitOn "/").filter fun name => name ≠ "" && name ≠ "."

/-- The most octets that a name may have. -/
def maxName : Nat := 255

/-- The entry of a name. -/
def lookup? (tree : Tree) (name : String) : Option Node :=
  (tree.find? (·.1 == name)).map (·.2)

/-- Puts an entry in the place of the one with the same name, else at the end. -/
def setEntry (name : String) (node : Node) : Tree → Tree
  | [] => [(name, node)]
  | (other, old) :: rest =>
    if other == name then (name, node) :: rest else (other, old) :: setEntry name node rest

/-- Drops the entry of a name. -/
def dropEntry (tree : Tree) (name : String) : Tree := tree.filter (·.1 != name)

/-- The node at a path, if all before its last name are directories. -/
def node : Tree → Path → Except Fault Node
  | tree, [] => .ok (.directory tree)
  | tree, name :: rest =>
    if maxName < name.utf8ByteSize then .error .nameTooLong
    else match lookup? tree name with
      | none => .error .notFound
      | some (.directory entries) => node entries rest
      | some (.file octets) => if rest.isEmpty then .ok (.file octets) else .error .notDirectory

/-- The octets of the file at a path. -/
def read (tree : Tree) (path : Path) : Except Fault (List UInt8) :=
  match node tree path with
  | .error fault => .error fault
  | .ok (.directory _) => .error .isDirectory
  | .ok (.file octets) => .ok octets

/-- Whether there is a file or a directory at a path. -/
def isThere (tree : Tree) (path : Path) : Bool := (node tree path).toBool

/-- Changes the directory that holds the last name of a path. -/
def atParent (change : Tree → String → Except Fault Tree) : Tree → Path → Except Fault Tree
  | _, [] => .error .isDirectory
  | tree, [name] =>
    if name.isEmpty then .error .notFound
    else if maxName < name.utf8ByteSize then .error .nameTooLong
    else change tree name
  | tree, name :: rest =>
    if maxName < name.utf8ByteSize then .error .nameTooLong
    else match lookup? tree name with
      | none => .error .notFound
      | some (.file _) => .error .notDirectory
      | some (.directory entries) =>
        match atParent change entries rest with
        | .error fault => .error fault
        | .ok entries => .ok (setEntry name (.directory entries) tree)

/-- Writes the whole file at a path; its directory must be there. -/
def write (tree : Tree) (path : Path) (octets : List UInt8) : Except Fault Tree :=
  atParent
    (fun entries name =>
      match lookup? entries name with
      | some (.directory _) => .error .isDirectory
      | _ => .ok (setEntry name (.file octets) entries))
    tree path

/-- Makes one directory in a directory that is there. -/
def makeDir (tree : Tree) (path : Path) : Except Fault Tree :=
  atParent
    (fun entries name =>
      if (lookup? entries name).isSome then .error .alreadyExists
      else .ok (setEntry name (.directory []) entries))
    tree path

/-- Makes the directories on a path that are not there, first one first: the tree with those that
could be made, and the fault that kept the next one from being made. -/
def makeDirs : Tree → Path → Tree × Option Fault
  | tree, [] => (tree, none)
  | tree, name :: rest =>
    if maxName < name.utf8ByteSize then (tree, some .nameTooLong)
    else match lookup? tree name with
      | some (.file _) => (tree, some (if rest.isEmpty then .alreadyExists else .notDirectory))
      | some (.directory entries) =>
        let (entries, fault) := makeDirs entries rest
        (setEntry name (.directory entries) tree, fault)
      | none =>
        let (entries, fault) := makeDirs [] rest
        (tree ++ [(name, .directory entries)], fault)

/-- Removes the file at a path. -/
def remove (tree : Tree) (path : Path) : Except Fault Tree :=
  atParent
    (fun entries name =>
      match lookup? entries name with
      | none => .error .notFound
      | some (.directory _) => .error .isDirectory
      | some (.file _) => .ok (dropEntry entries name))
    tree path

/-- Removes the empty directory at a path. -/
def removeDir (tree : Tree) (path : Path) : Except Fault Tree :=
  atParent
    (fun entries name =>
      match lookup? entries name with
      | none => .error .notFound
      | some (.file _) => .error .notDirectory
      | some (.directory []) => .ok (dropEntry entries name)
      | some (.directory (_ :: _)) => .error .directoryNotEmpty)
    tree path

/-- Gives the file at a path another path in a directory that is there, in the place of a file. -/
def rename (tree : Tree) (source target : Path) : Except Fault Tree :=
  match read tree source with
  | .error fault => .error fault
  | .ok octets =>
    match remove tree source with
    | .error fault => .error fault
    | .ok without => write without target octets

mutual
/-- The paths in a tree below a given one; those of directories end in a slash. -/
def paths (above : String) : List (String × Node) → List String
  | [] => []
  | (name, node) :: rest => pathsOf (above ++ name) node ++ paths above rest

/-- The path of a node and the paths below it. -/
def pathsOf (path : String) : Node → List String
  | .file _ => [path]
  | .directory entries => (path ++ "/") :: paths (path ++ "/") entries
end

end Files

end MqttSessions
