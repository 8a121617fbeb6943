import MqttSessions.CommandLine.Invocation
import MqttSessions.Profile.Identity
import MqttSessions.Registry.Calls
import MqttSessions.Settings.Document
import MqttSessions.Watch

/-! # Running a command

A command works on the registry over the profile document that the settings name. It prints lines,
logs what it does, and leaves the disk as it is afterwards; a command that fails exits with 1, and a
misuse with 2.

Main definition: **`CommandLine.run`**. -/

namespace MqttSessions

namespace CommandLine

/-- What a run depends on besides its words: the environment, the disk, the ids to be given out, and
two numbers drawn for a new profile. -/
structure Context where
  environment : List (String × String)
  disk : Disk
  ids : Nat → String
  idDraw : Nat
  clientDraw : Nat

/-- What a run comes to. -/
structure Outcome where
  exit : Nat
  lines : List Line
  disk : Disk

/-! ## Logs -/

/-- The parts of the program that log entries come from. -/
def mainTarget : String := Watch.target
/-- The registry, as the origin of log entries. -/
def registryTarget : String := "mqttdesk::registry"
/-- The profile store, as the origin of log entries. -/
def storeTarget : String := "mqttdesk::profile::store"

/-- How a run logs: as the environment says, unless the user asks for more. -/
def logSettings (frame : Frame) (environment : List (String × String)) : LogSettings :=
  let level := match frame.verbosity with
    | 0 => LogLevel.ofUser ((environment.lookup "LOG_LEVEL").getD "INFO")
    | 1 => .debug
    | _ => .trace
  let format := match frame.verbosity with
    | 0 => LogFormat.ofUser ((environment.lookup "LOG_FORMAT").getD "json")
    | _ => .compact
  let filter := match environment.lookup "RUST_LOG" with
    | some text => LogFilter.ofText text
    | none => LogFilter.ofLevel level
  ⟨filter, format⟩

/-- The log of loading the profile list. -/
def fetchLog (store : Store) (disk : Disk) (fetched : Except Store.Failure Store.Fetched) :
    List Line :=
  let path : String × Json.Value := ("path", .string store.shown)
  let absent := match disk.read store.path with
    | .error .notFound => [.entry .debug storeTarget "Profile file absent, starting empty" [path]]
    | _ => []
  absent ++ match fetched with
    | .error failure =>
      [.entry .error registryTarget "Failed to load profiles, starting empty"
        [path, ("error", .string failure.message)]]
    | .ok { loaded, writeBack } =>
      let count := ("count", Json.Value.natural loaded.profiles.length)
      .entry .info registryTarget "Loaded profiles" [path, count] ::
        match writeBack with
        | none => []
        | some (.ok ()) =>
          [.entry .debug storeTarget "Saved profile document" [path, count],
           .entry .info registryTarget "Persisted generated profile ids"
            [("count", .natural loaded.generated)]]
        | some (.error failure) =>
          [.entry .warn registryTarget "Failed to persist generated profile ids"
            [("error", .string failure.message)]]

/-- The log of a change of the list: what was done to which row, or why it could not be saved. -/
def changeLog {τ : Type} (r : Registry τ) (result : Registry.Outcome)
    (done operation id : String) (index : Nat) : List Line :=
  let path : String × Json.Value := ("path", .string r.store.shown)
  match result with
  | .ok () =>
    [.entry .debug storeTarget "Saved profile document" [path, ("count", .natural r.size)],
     .entry .info registryTarget done [("profile_id", .string id), ("index", .natural index)]]
  | .error (.persistence failure) =>
    [.entry .error registryTarget "Profile persistence failed"
      [("operation", .string operation), path, ("error", .string failure.message)]]
  | .error _ => []

/-! ## Settings -/

/-- Where settings are looked for if no file is named. -/
def usualConfigs : List String := ["mqttdesk.toml", "config/mqttdesk.toml"]

/-- The settings file that is read, if any: the one that is named, else the first usual one that is
there. -/
def configFile? (frame : Frame) (disk : Disk) : Option String :=
  frame.config.or
    (usualConfigs.find? fun path => Files.isThere disk.tree (Files.Path.ofText path))

/-- The settings of a run. -/
def settingsOf (frame : Frame) (disk : Disk) : Except Settings.Failure Settings :=
  match configFile? frame disk with
  | none => .ok {}
  | some path => Settings.load disk (Files.Path.ofText path)

/-- The log of looking for settings. -/
def settingsLog (frame : Frame) (disk : Disk) : List Line :=
  match configFile? frame disk with
  | none => []
  | some path => [.entry .info mainTarget ("Loading configuration from: " ++ path) []]

/-- The store of a run. -/
def storeOf (frame : Frame) (settings : Settings) : Store :=
  let path := frame.profiles.getD settings.profilesFile
  ⟨Files.Path.ofText path, path⟩

/-! ## Commands -/

/-- A text filled with spaces on its right up to a length. -/
def padded (length : Nat) (text : String) : String :=
  text ++ String.ofList (List.replicate (length - text.length) ' ')

/-- A row as it is listed. -/
def rowText (row : Row) : String :=
  let p := row.profile
  p.id ++ "  " ++ padded 20 p.name ++ " " ++ p.host ++ ":" ++ toString p.port
    ++ "  v" ++ p.protocol.text ++ "  qos" ++ p.qos.text ++ "  " ++ p.clientId
    ++ (if p.useTls then "  tls" else "")

/-- The lines that list the profiles. -/
def listing {τ : Type} (r : Registry τ) : List Line :=
  if r.profiles.isEmpty then [.text ("No profiles in " ++ r.store.shown)]
  else r.rows.map fun row => .text (rowText row)

/-- The profile that is to be added. -/
def NewProfile.profile (new : NewProfile) (idDraw clientDraw : Nat) : Profile :=
  let fresh := Profile.fresh idDraw clientDraw new.name new.host new.port
  { fresh with
    clientId := new.clientId.getD fresh.clientId
    protocol := new.protocol
    qos := new.qos
    username := new.username.getD ""
    password := if new.username.isSome then new.password.getD "" else ""
    useTls := new.useTls
    cleanSession := new.cleanSession }

/-- What a command leaves behind: the registry, the disk, its lines, and why it failed if it did. -/
structure Performed (τ : Type) where
  registry : Registry τ
  disk : Disk
  lines : List Line := []
  failure : Option String := none

section Connecting

variable {τ : Type} [Transport τ]

/-- How long a connection attempt is waited for, in milliseconds: as long as it may take, and a
second more. -/
def patience (settings : Settings) : Nat := (settings.mqtt.connectTimeoutSecs + 1) * 1000

/-- Connects a session, and waits for the connection. -/
def establish (settings : Settings) (s : Session τ) : Session.Outcome × Session τ :=
  match s.requestConnect with
  | (.error failure, s) => (.error failure, s)
  | (.ok (), s) => s.waitFor .connected (patience settings)

/-- Connects, publishes one message, and says so. -/
def publishing (settings : Settings) (id topic payload : String) (qos : Qos) (retain : Bool)
    (s : Session τ) : (List Line × Option String) × Session τ :=
  match establish settings s with
  | (.error failure, s) => (([], some failure.message), s)
  | (.ok (), s) =>
    let connected : Line :=
      .entry .info mainTarget "Connected" [("profile_id", .string id)]
    match s.publish topic (Utf8.encode payload.toList) qos retain with
    | (.error failure, s) => (([connected], some failure.message), s)
    | (.ok (), s) =>
      (([connected, .entry .info mainTarget "Published"
        [("profile_id", .string id), ("topic", .string topic)]], none), s)

/-- The color of subscriptions that are made from a command line. -/
def subscriptionColor : String := "#2a9d8f"

/-- Subscribes to all of some topic filters, up to the first one that is refused. -/
def subscribeAll (topics : List String) (qos : Qos) (s : Session τ) :
    Session.Outcome × Session τ :=
  topics.foldl
    (fun (result, s) topic =>
      match result with
      | .ok () => s.subscribe topic qos subscriptionColor
      | .error failure => (.error failure, s))
    (.ok (), s)

/-- Connects, subscribes, and prints what comes in for as long as something does. -/
def watching (settings : Settings) (id : String) (topics : List String) (qos : Qos)
    (s : Session τ) : (List Line × Option String) × Session τ :=
  match establish settings s with
  | (.error failure, s) => (([], some failure.message), s)
  | (.ok (), s) =>
    let connected : Line :=
      .entry .info mainTarget "Connected" [("profile_id", .string id)]
    let watch := Watch.start s.feed
    match subscribeAll (if topics.isEmpty then ["#"] else topics) qos s with
    | (.error failure, s) => (([connected], some failure.message), s)
    | (.ok (), s) =>
      let s := s.advance settings.session.batchInterval
      let watch := watch.run s.feed
      (([connected] ++ watch.lines ++ [.entry .info mainTarget "Watch finished"
        [("received", .natural s.received), ("published", .natural s.published)]], none), s)

/-- Takes a step of the session of a profile, which is created if there is none. -/
def withClient (r : Registry τ) (disk : Disk) (transport : Profile → τ) (id : String)
    (step : Session τ → (List Line × Option String) × Session τ) : Performed τ :=
  match r.client transport id with
  | (.error failure, r) => { registry := r, disk, failure := some failure.message }
  | (.ok number, r) =>
    match r.inSession number step with
    | (some (lines, failure), r) => { registry := r, disk, lines, failure }
    | (none, r) => { registry := r, disk }

/-- Performs a command. -/
def perform (r : Registry τ) (context : Context) (disk : Disk) (settings : Settings)
    (transport : Profile → τ) : Command → Performed τ
  | .list => { registry := r, disk, lines := listing r }
  | .add new =>
    let profile := new.profile context.idDraw context.clientDraw
    let (result, after, disk) := r.add disk profile
    let log := changeLog after result "Profile added" "add profile" profile.id r.size
    match result with
    | .ok () => { registry := after, disk, lines := log ++ [.text profile.id] }
    | .error failure => { registry := after, disk, lines := log, failure := some failure.message }
  | .delete id =>
    match r.index? id with
    | none => { registry := r, disk, failure := some ("Unknown profile: " ++ id) }
    | some index =>
      let (result, after, disk) := r.delete disk id
      let log := changeLog after result "Profile deleted" "delete profile" id index
      match result with
      | .ok () => { registry := after, disk, lines := log }
      | .error failure => { registry := after, disk, lines := log, failure := some failure.message }
  | .watch id topics qos => withClient r disk transport id (watching settings id topics qos)
  | .publish id topic payload qos retain =>
    withClient r disk transport id (publishing settings id topic payload qos retain)

/-- Runs an invocation; the lines are those of all log levels. -/
def runInvocation (transport : MqttSettings → Profile → τ) (invocation : Invocation)
    (context : Context) : Outcome :=
  let { frame, command } := invocation
  let disk := context.disk
  let settingsLines := settingsLog frame disk
  match settingsOf frame disk with
  | .error failure =>
    ⟨1, settingsLines ++ [.entry .error mainTarget
      ("Failed to load configuration: " ++ failure.message) []], disk⟩
  | .ok settings =>
    let store := storeOf frame settings
    let (registry, fetchedDisk, fetched) :=
      Registry.create store settings.session disk context.ids
    let done := perform registry context fetchedDisk settings (transport settings.mqtt) command
    let shutdown : Line :=
      .entry .info registryTarget "Registry shut down"
        [("sessions", .natural done.registry.cache.length)]
    let lines := settingsLines ++ fetchLog store disk fetched ++ done.lines ++ [shutdown]
    match done.failure with
    | none => ⟨0, lines, done.disk⟩
    | some failure =>
      ⟨1, lines ++ [.entry .error mainTarget ("Command failed: " ++ failure) []], done.disk⟩

end Connecting

/-! ## Whole runs -/

/-- What is printed for the version. -/
def versionText : String := "mqttdesk 0.1.0"

/-- What is printed for help. -/
def helpText : List String :=
  ["Manage MQTT connection profiles and sessions", "",
   "Usage: mqttdesk [OPTIONS] <COMMAND>", "",
   "Commands: " ++ ", ".intercalate (forms.map Form.name)]

/-- Runs a program with some words; `transport` makes the transports of its sessions. -/
def run {τ : Type} [Transport τ] (transport : MqttSettings → Profile → τ) (words : List String)
    (context : Context) : Outcome × LogFormat :=
  match understand words context.environment with
  | .version => (⟨0, [.text versionText], context.disk⟩, .json)
  | .help => (⟨0, helpText.map .text, context.disk⟩, .json)
  | .misuse => (⟨2, [], context.disk⟩, .json)
  | .run invocation =>
    let logs := logSettings invocation.frame context.environment
    let outcome := runInvocation transport invocation context
    ({ outcome with lines := outcome.lines.filter logs.prints }, logs.format)

end CommandLine

end MqttSessions
