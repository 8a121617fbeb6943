import MqttSessions.Json.Value
import MqttSessions.Json.Reader
import MqttSessions.Json.Record
import MqttSessions.Profile.Identity

/-! # The profile document

The profile list is kept in one JSON document with a version and a list of items. Only one version
is read and written. The version is read from the whole text before any item is looked at, so a
text that is no JSON is malformed whatever its version, and a wrong version is reported whatever
its items.

Main definitions:

* **`Document.write`**: the text of a profile list;
* **`Document.read`**: the profile list of a text, ids filled in where items have none;
* **`Document.Failure`**: why a text gives no profile list. -/

namespace MqttSessions

namespace Document

/-- The version that is read and written. -/
def version : Nat := 1

/-! ## Writing -/

/-- A last will as a JSON value. -/
def willValue (will : LastWill) : Json.Value :=
  .object [("topic", .string will.topic), ("qos", .natural will.qos.level),
    ("retain", .bool will.retain), ("payload", .string will.payload)]

/-- A profile as an item of the document. -/
def itemValue (p : Profile) : Json.Value :=
  .object ([("id", .string p.id), ("name", .string p.name), ("clientId", .string p.clientId),
    ("protocol", .string p.protocol.text), ("host", .string p.host), ("port", .natural p.port),
    ("qos", .natural p.qos.level), ("username", .string p.username),
    ("password", .string p.password), ("tls", .bool p.useTls),
    ("cleanSession", .bool p.cleanSession), ("description", .string p.description),
    ("keepAlive", .natural p.keepAliveSecs), ("timeout", .natural p.connectTimeoutSecs)]
    ++ (match p.lastWill with
      | some will => [("lastWill", willValue will)]
      | none => []))

/-- A profile list as a JSON value. -/
def value (profiles : List Profile) : Json.Value :=
  .object [("version", .natural version), ("items", .array (profiles.map itemValue))]

/-- The text of a profile list. -/
def write (profiles : List Profile) : String := (value profiles).pretty

/-- A profile list as it is stored. -/
def octets (profiles : List Profile) : List UInt8 := Utf8.encode (write profiles).toList

/-! ## Reading values -/

/-- The outcome of reading a value; the one thing that the domain refuses is a delivery level. -/
abbrev Reading (α : Type) := Json.Reading InvalidQos α

/-- The greatest byte. -/
def maxByte : Nat := 0xff

/-- The greatest port and span of seconds, of two bytes. -/
def maxShort : Nat := 0xffff

/-- The greatest count, of four bytes. -/
def maxWord : Nat := 0xffffffff

/-- A delivery guarantee, written as its level. -/
def readQos (tree : Json.Tree) : Reading Qos :=
  match (Json.readNatural maxByte tree : Reading Nat) with
  | .error fault => .error fault
  | .ok level =>
    match Qos.ofLevel? level with
    | some qos => .ok qos
    | none => .error (.refused ⟨level⟩)

/-- The revision of a stored name. -/
def readProtocolName (name : List Json.Piece) : Reading Protocol :=
  match (Json.text? name).bind Protocol.ofStored? with
  | some protocol => .ok protocol
  | none => .error .malformed

/-- A protocol revision: its name, or an object with its name as the only key and null. -/
def readProtocol : Json.Tree → Reading Protocol
  | .string name => readProtocolName name
  | .object (.cons name .null .closed) => readProtocolName name
  | _ => .error .malformed

/-- A last will under construction. -/
structure WillDraft where
  topic : Option String := none
  qos : Option Qos := none
  retain : Option Bool := none
  payload : Option String := none

/-- The fields of a last will. -/
def willFields : List (Json.Field InvalidQos WillDraft) :=
  [.slot "topic" (·.topic) (fun v d => { d with topic := some v }) Json.readText,
   .slot "qos" (·.qos) (fun v d => { d with qos := some v }) readQos,
   .slot "retain" (·.retain) (fun v d => { d with retain := some v }) Json.readBool,
   .slot "payload" (·.payload) (fun v d => { d with payload := some v }) Json.readText]

/-- A last will whose fields have been read: its topic must be there. -/
def WillDraft.finish (draft : WillDraft) : Reading LastWill :=
  match draft.topic with
  | none => .error .malformed
  | some topic => .ok {
      topic
      qos := draft.qos.getD .atMostOnce
      retain := draft.retain.getD false
      payload := draft.payload.getD "" }

/-- A last will. -/
def readWill (tree : Json.Tree) : Reading LastWill :=
  match Json.readRecord willFields {} tree with
  | .error fault => .error fault
  | .ok draft => draft.finish

/-! ## Reading items -/

/-- An item under construction. A field that may be null has a slot for an absent value. -/
structure ItemDraft where
  id : Option (Option String) := none
  name : Option String := none
  clientId : Option String := none
  protocol : Option Protocol := none
  host : Option String := none
  port : Option Nat := none
  qos : Option Qos := none
  username : Option String := none
  password : Option String := none
  tls : Option Bool := none
  cleanSession : Option Bool := none
  description : Option (Option String) := none
  keepAlive : Option Nat := none
  timeout : Option Nat := none
  lastWill : Option (Option LastWill) := none

/-- The fields of an item. -/
def itemFields : List (Json.Field InvalidQos ItemDraft) :=
  [.slot "id" (·.id) (fun v d => { d with id := some v }) (Json.readOptional Json.readText),
   .slot "name" (·.name) (fun v d => { d with name := some v }) Json.readText,
   .slot "clientId" (·.clientId) (fun v d => { d with clientId := some v }) Json.readText,
   .slot "protocol" (·.protocol) (fun v d => { d with protocol := some v }) readProtocol,
   .slot "host" (·.host) (fun v d => { d with host := some v }) Json.readText,
   .slot "port" (·.port) (fun v d => { d with port := some v }) (Json.readNatural maxShort),
   .slot "qos" (·.qos) (fun v d => { d with qos := some v }) readQos,
   .slot "username" (·.username) (fun v d => { d with username := some v }) Json.readText,
   .slot "password" (·.password) (fun v d => { d with password := some v }) Json.readText,
   .slot "tls" (·.tls) (fun v d => { d with tls := some v }) Json.readBool,
   .slot "cleanSession" (·.cleanSession) (fun v d => { d with cleanSession := some v })
     Json.readBool,
   .slot "description" (·.description) (fun v d => { d with description := some v })
     (Json.readOptional Json.readText),
   .slot "keepAlive" (·.keepAlive) (fun v d => { d with keepAlive := some v })
     (Json.readNatural maxShort),
   .slot "timeout" (·.timeout) (fun v d => { d with timeout := some v })
     (Json.readNatural maxShort),
   .slot "lastWill" (·.lastWill) (fun v d => { d with lastWill := some v })
     (Json.readOptional readWill)]

/-- An item of the document: a profile that may lack an id and a description. -/
structure Item where
  id : Option String
  name : String
  clientId : String
  protocol : Protocol
  host : String
  port : Nat
  qos : Qos
  username : String
  password : String
  tls : Bool
  cleanSession : Bool
  description : Option String
  keepAlive : Nat
  timeout : Nat
  lastWill : Option LastWill
  deriving DecidableEq, Repr

/-- An item whose fields have been read: its name, host and port must be there. -/
def ItemDraft.finish (d : ItemDraft) : Reading Item :=
  match d.name, d.host, d.port with
  | some name, some host, some port => .ok {
      id := d.id.getD none
      name
      clientId := d.clientId.getD ""
      protocol := d.protocol.getD .v311
      host
      port
      qos := d.qos.getD .atMostOnce
      username := d.username.getD ""
      password := d.password.getD ""
      tls := d.tls.getD false
      cleanSession := d.cleanSession.getD true
      description := d.description.getD none
      keepAlive := d.keepAlive.getD 0
      timeout := d.timeout.getD 0
      lastWill := d.lastWill.getD none }
  | _, _, _ => .error .malformed

/-- An item of the document. -/
def readItem (tree : Json.Tree) : Reading Item :=
  match Json.readRecord itemFields {} tree with
  | .error fault => .error fault
  | .ok draft => draft.finish

/-! ## Reading the document -/

/-- The version that a text claims, 0 if it claims none; all else is skipped. -/
def readVersion (text : Json.Tree × Bool) : Reading Nat :=
  let field : Json.Field InvalidQos (Option Nat) :=
    .slot "version" id (fun v _ => some v) (Json.readNatural maxWord)
  Json.readWhole (fun tree => (Json.readRecord [field] none tree).map (·.getD 0)) text

/-- A document under construction. -/
structure Draft where
  version : Option Nat := none
  items : Option (List Item) := none

/-- The fields of a document. -/
def fields : List (Json.Field InvalidQos Draft) :=
  [.slot "version" (·.version) (fun v d => { d with version := some v })
     (Json.readNatural maxWord),
   .slot "items" (·.items) (fun v d => { d with items := some v }) (Json.readList readItem)]

/-- A document whose fields have been read: its version must be there. -/
def Draft.finish (draft : Draft) : Reading (Nat × List Item) :=
  match draft.version with
  | none => .error .malformed
  | some version => .ok (version, draft.items.getD [])

/-- The version and the items of a text. -/
def readItems (text : Json.Tree × Bool) : Reading (Nat × List Item) :=
  Json.readWhole
    (fun tree =>
      match Json.readRecord fields {} tree with
      | .error fault => .error fault
      | .ok draft => draft.finish)
    text

/-! ## Profiles -/

/-- The profile of an item, with a given id where the item has none. An empty description counts as
none. -/
def Item.profile (item : Item) (generated : String) : Profile where
  id := item.id.getD generated
  name := item.name
  clientId := item.clientId
  protocol := item.protocol
  host := item.host
  port := item.port
  username := item.username
  password := item.password
  useTls := item.tls
  cleanSession := item.cleanSession
  qos := item.qos
  description :=
    match item.description with
    | some description =>
      if description.isEmpty then Profile.describe item.name item.host item.port else description
    | none => Profile.describe item.name item.host item.port
  keepAliveSecs := item.keepAlive
  connectTimeoutSecs := item.timeout
  lastWill := item.lastWill

/-- The profiles of items; item by item, one without an id draws the next one of `ids`. -/
def profilesFrom (ids : Nat → String) (next : Nat) : List Item → List Profile
  | [] => []
  | item :: rest =>
    item.profile (ids next) :: profilesFrom ids (if item.id.isNone then next + 1 else next) rest

/-- The first id in a list that has occurred before it. -/
def repeated? : (seen : List String) → List String → Option String
  | _, [] => none
  | seen, id :: rest => if seen.contains id then some id else repeated? (id :: seen) rest

/-- A profile list that has been read, and how many of its ids are new. -/
structure Loaded where
  profiles : List Profile
  generated : Nat
  deriving DecidableEq, Repr

/-- Whether a profile list holds what its document does not. -/
def Loaded.needsSave (loaded : Loaded) : Bool := 0 < loaded.generated

/-- Why a text gives no profile list. -/
inductive Failure where
  | malformed (fault : Json.Fault InvalidQos)
  | unsupportedVersion (found supported : Nat)
  | duplicateId (id : String)
  deriving DecidableEq, Repr

/-- The profile list of a text; `ids` are the ids to be given out. -/
def read (ids : Nat → String) (octets : List UInt8) : Except Failure Loaded :=
  let text := Json.read octets
  match readVersion text with
  | .error fault => .error (.malformed fault)
  | .ok found =>
    if found ≠ version then .error (.unsupportedVersion found version)
    else match readItems text with
      | .error fault => .error (.malformed fault)
      | .ok (_, items) =>
        let profiles := profilesFrom ids 0 items
        match repeated? [] (profiles.map (·.id)) with
        | some id => .error (.duplicateId id)
        | none => .ok ⟨profiles, items.countP (·.id.isNone)⟩

end Document

end MqttSessions
