import MqttSessions.CommandLine.Run
import MqttSessions.Mqtt.Offline

/-! # The program

Reads the environment and the files that a run may look at, runs the command, prints its lines and
writes the profile document back if it has changed. -/

namespace MqttSessions

namespace Program

/-- The variables of the environment that a run depends on. -/
def variableNames : List String :=
  ["MQTTDESK_CONFIG", "MQTTDESK_PROFILES", "LOG_LEVEL", "LOG_FORMAT", "RUST_LOG"]

/-- The environment, as far as a run depends on it. -/
def environment : IO (List (String × String)) := do
  let found ← variableNames.mapM fun name => do
    return (← IO.getEnv name).map fun value => (name, value)
  return found.filterMap id

/-- The text of a path, absolute if the text that it was made from is. -/
def textOf (absolute : Bool) (path : Files.Path) : String :=
  (if absolute then "/" else "") ++ "/".intercalate path

/-- Adds a file that is there, or its directories as far as they are there, to a tree. -/
def look (text : String) (disk : Disk) : IO Disk := do
  let path := Files.Path.ofText text
  let absolute := text.startsWith "/"
  let mut disk := disk
  for count in [1 : path.length + 1] do
    let here := path.take count
    let found : Except IO.Error ByteArray ← (IO.FS.readBinFile (textOf absolute here)).toBaseIO
    match found with
    | .ok octets =>
      disk := (disk.write here octets.toList).1
      break
    | .error (.noFileOrDirectory ..) => break
    | .error _ => disk := (disk.makeDirs here).1
  return disk

/-- The profile document of a run, once its settings are known. -/
def documentOf (words : List String) (environment : List (String × String)) (disk : Disk) :
    Option Store :=
  match CommandLine.understand words environment with
  | .run invocation =>
    match CommandLine.settingsOf invocation.frame disk with
    | .ok settings => some (CommandLine.storeOf invocation.frame settings)
    | .error _ => none
  | _ => none

/-- The settings files that a run may look at. -/
def configsOf (words : List String) (environment : List (String × String)) : List String :=
  match CommandLine.understand words environment with
  | .run { frame := { config := some path, .. }, .. } => [path]
  | .run _ => CommandLine.usualConfigs
  | _ => []

/-- A number of random bits, eight for each of some octets. -/
def draw (octets : Nat) : IO Nat := do
  let bytes ← IO.getRandomBytes (USize.ofNat octets)
  return bytes.toList.foldl (fun n b => n * 256 + b.toNat) 0

/-- Writes a document beside the old one and puts it in its place. -/
def save (store : Store) (octets : List UInt8) : IO Unit := do
  let absolute := store.shown.startsWith "/"
  let temporary := textOf absolute (Store.temporaryPath store.path)
  let directory := store.path.dropLast
  if !directory.isEmpty then IO.FS.createDirAll (textOf absolute directory)
  IO.FS.writeBinFile temporary ⟨octets.toArray⟩
  IO.FS.rename temporary store.shown

/-- The text of a line. -/
def textOfLine (format : LogFormat) : Line → String
  | .text s => s
  | .message message => Line.messageText message
  | .log entry =>
    match format with
    | .json =>
      (Json.Value.object [("level", .string entry.level.text), ("fields", .object entry.fields),
        ("target", .string entry.target)]).compact
    | _ =>
      entry.level.text ++ " " ++ entry.target ++ ": "
        ++ (Json.Value.object entry.fields).compact

end Program

end MqttSessions

open MqttSessions in
/-- Runs the command that the words of the command line make. -/
def main (words : List String) : IO UInt32 := do
  let environment ← Program.environment
  let mut disk : Disk := {}
  for path in Program.configsOf words environment do
    disk ← Program.look path disk
  let store := Program.documentOf words environment disk
  if let some store := store then
    disk ← Program.look store.shown disk
  let seed ← Program.draw 16
  let idDraw ← Program.draw 16
  let clientDraw ← Program.draw 4
  let context : CommandLine.Context :=
    { environment, disk, ids := fun k => Identity.profileId (seed + k), idDraw, clientDraw }
  let (outcome, format) :=
    CommandLine.run (fun settings _ => Mqtt.Offline.create settings) words context
  let mut exit := outcome.exit
  if let some store := store then
    match outcome.disk.read store.path with
    | .error _ => pure ()
    | .ok octets =>
      if (disk.read store.path).toOption ≠ some octets then
        try Program.save store octets
        catch error =>
          IO.eprintln error
          exit := 1
  for line in outcome.lines do
    IO.println (Program.textOfLine format line)
  return UInt32.ofNat exit
