import MqttSessions.Disk
import MqttSessions.Settings
import MqttSessions.Text.Utf8
import MqttSessions.Toml.Reader

/-! # The settings file

Settings are read from a TOML document with three sections. Every section and every field may be
missing, and what is not known is skipped. A section is a table; it may also be a list of the
values of its fields in their order, of which the last ones may be missing.

Main definitions:

* **`Settings.ofToml`**: the settings of a text;
* **`Settings.load`**: the settings of a file;
* **`Settings.Failure`**: why there are none. -/

namespace MqttSessions

namespace Settings

/-- Why a text or a file gives no settings. -/
inductive Failure where
  | unreadable (fault : Files.Fault)
  | malformed
  | zero (setting : Positive)
  deriving DecidableEq, Repr

/-- The wording of a failure. What a text that is no document of the wanted form lacks is not told. -/
def Failure.message : Failure → String
  | unreadable fault => "Failed to read config file: " ++ fault.message
  | malformed => "Failed to parse TOML: unexpected form"
  | zero setting => "Invalid configuration: " ++ setting.key ++ " must be greater than 0"

/-! ## Fields -/

/-- A field of a section: its key, and how its value enters the section. -/
structure Field (σ : Type) where
  key : String
  enter : Toml.Node → σ → Option σ

/-- A field for a text. -/
def Field.text {σ : Type} (key : String) (set : String → σ → σ) : Field σ where
  key := key
  enter
    | .text s, record => some (set s record)
    | _, _ => none

/-- A field for a natural number up to a bound. -/
def Field.natural {σ : Type} (key : String) (bound : Nat) (set : Nat → σ → σ) : Field σ where
  key := key
  enter
    | .integer n, record =>
      if 0 ≤ n && n ≤ bound then some (set n.toNat record) else none
    | _, _ => none

/-- Enters the fields that a table has. -/
def enterEntries {σ : Type} (fields : List (Field σ)) (entries : Toml.Entries) (record : σ) :
    Option σ :=
  fields.foldlM
    (fun record field =>
      match Toml.find? entries field.key with
      | some node => field.enter node record
      | none => some record)
    record

/-- Enters the values of a list as fields in their order. -/
def enterItems {σ : Type} (fields : List (Field σ)) (items : List Toml.Node) (record : σ) :
    Option σ :=
  (fields.zip items).foldlM (fun record (field, node) => field.enter node record) record

/-- Enters a section. A date has no field that any section knows. -/
def enterSection {σ : Type} (fields : List (Field σ)) : Toml.Node → σ → Option σ
  | .table _ entries, record => enterEntries fields entries record
  | .inline entries, record => enterEntries fields entries record
  | .array items, record => enterItems fields items record
  | .tables elements, record => enterItems fields (elements.map (.table .header ·)) record
  | .moment, record => some record
  | _, _ => none

/-! ## Sections -/

/-- The greatest number that a document can hold. -/
def maxInteger : Nat := 0x7fffffffffffffff

/-- The greatest number of seconds that a connection can be told. -/
def maxSecs : Nat := 0xffff

/-- The fields of the section on storage. -/
def storageFields : List (Field Settings) :=
  [.text "profiles_file" fun file settings => { settings with profilesFile := file }]

/-- The fields of the section on sessions. -/
def sessionFields : List (Field SessionSettings) :=
  [.natural "batch_interval_ms" maxInteger fun ms session => { session with batchInterval := ms },
   .natural "disconnect_timeout_ms" maxInteger fun ms session =>
     { session with disconnectTimeout := ms },
   .natural "event_capacity" maxInteger fun n session => { session with eventCapacity := n }]

/-- The fields of the section on connections. -/
def mqttFields : List (Field MqttSettings) :=
  [.natural "request_capacity" maxInteger fun n mqtt => { mqtt with requestCapacity := n },
   .natural "keep_alive_secs" maxSecs fun secs mqtt => { mqtt with keepAliveSecs := secs },
   .natural "connect_timeout_secs" maxSecs fun secs mqtt =>
     { mqtt with connectTimeoutSecs := secs }]

/-- The sections of a settings document. -/
def sections : List (Field Settings) :=
  [⟨"storage", enterSection storageFields⟩,
   ⟨"session", fun node settings =>
     (enterSection sessionFields node settings.session).map ({ settings with session := · })⟩,
   ⟨"mqtt", fun node settings =>
     (enterSection mqttFields node settings.mqtt).map ({ settings with mqtt := · })⟩]

/-! ## Documents -/

/-- The settings of a text. -/
def ofToml (text : String) : Except Failure Settings :=
  match (Toml.read? text).bind fun entries => enterEntries sections entries {} with
  | none => .error .malformed
  | some settings =>
    match settings.firstZero? with
    | some setting => .error (.zero setting)
    | none => .ok settings

/-- The settings of a file. -/
def load (disk : Disk) (path : Files.Path) : Except Failure Settings :=
  match disk.read path with
  | .error fault => .error (.unreadable fault)
  | .ok octets =>
    match Utf8.decode? octets with
    | none => .error (.unreadable .notUtf8)
    | some text => ofToml text

end Settings

end MqttSessions
