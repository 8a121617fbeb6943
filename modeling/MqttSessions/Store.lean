import MqttSessions.Disk
import MqttSessions.Profile.Document

/-! # The profile store

A **`Store`** keeps the profile list in one document. A document that is not there counts as an
empty list. A list is saved by writing the whole document beside the old one and renaming it, so
that a reader finds the old document or the new one.

Main definitions: **`Store.load`**, **`Store.save`**, and **`Store.Failure`**, why either failed. -/

namespace MqttSessions

/-- The place of a profile document: its path, and the path as it is shown. -/
structure Store where
  path : Files.Path
  shown : String
  deriving DecidableEq, Repr

namespace Store

/-- Why the profile list could not be loaded or saved. -/
inductive Failure where
  | access (path : String) (fault : Files.Fault)
  | malformed (path : String) (fault : Json.Fault InvalidQos)
  | unsupportedVersion (found supported : Nat)
  | duplicateId (path id : String)
  deriving DecidableEq, Repr

/-- The wording of a fault in a document, where this library has one. -/
def faultMessage? : Json.Fault InvalidQos → Option String
  | .malformed => none
  | .refused invalid => some invalid.message

/-- The wording of a failure. What a text that is no document of the wanted form lacks is not told. -/
def Failure.message : Failure → String
  | .access path fault => "Failed to access profile file " ++ path ++ ": " ++ fault.message
  | .malformed path fault =>
    "Malformed profile document " ++ path ++ ": " ++ (faultMessage? fault).getD "unexpected form"
  | .unsupportedVersion found supported =>
    s!"Unsupported profile document version {found} (supported: {supported})"
  | .duplicateId path id => "Duplicate profile id " ++ id ++ " in " ++ path

/-- The failure of a document that was found at a store's place. -/
def failureOf (store : Store) : Document.Failure → Failure
  | .malformed fault => .malformed store.shown fault
  | .unsupportedVersion found supported => .unsupportedVersion found supported
  | .duplicateId id => .duplicateId store.shown id

/-- Loads the profile list; `ids` are the ids to be given out. -/
def load (store : Store) (disk : Disk) (ids : Nat → String) : Except Failure Document.Loaded :=
  match disk.read store.path with
  | .error .notFound => .ok ⟨[], 0⟩
  | .error fault => .error (.access store.shown fault)
  | .ok octets =>
    match Document.read ids octets with
    | .error failure => .error (store.failureOf failure)
    | .ok loaded => .ok loaded

/-- The path beside a document where its successor is written first. -/
def temporaryPath (path : Files.Path) : Files.Path :=
  match path.getLast? with
  | none => [".tmp"]
  | some name => path.dropLast ++ [name ++ ".tmp"]

/-- Puts octets in the place of the document: written beside it first, then renamed. A file that
cannot be renamed is removed again. -/
def replace (store : Store) (disk : Disk) (octets : List UInt8) :
    Disk × Except Files.Fault Unit :=
  let temporary := temporaryPath store.path
  match disk.makeDirs store.path.dropLast with
  | (disk, .error fault) => (disk, .error fault)
  | (disk, .ok ()) =>
    match disk.write temporary octets with
    | (disk, .error fault) => (disk, .error fault)
    | (disk, .ok ()) =>
      match disk.rename temporary store.path with
      | (disk, .ok ()) => (disk, .ok ())
      | (disk, .error fault) => ((disk.remove temporary).1, .error fault)

/-- Saves the profile list. The disk is returned as it is afterwards, also after a failure. -/
def save (store : Store) (disk : Disk) (profiles : List Profile) : Disk × Except Failure Unit :=
  match store.replace disk (Document.octets profiles) with
  | (disk, .ok ()) => (disk, .ok ())
  | (disk, .error fault) => (disk, .error (.access store.shown fault))

end Store

end MqttSessions
