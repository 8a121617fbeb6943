import MqttSessions.CommandLine.Words
import MqttSessions.Protocol
import MqttSessions.Qos

/-! # What a user asks for

The words of a command line make an **`Invocation`**: a command, and what goes for every command.
Words that make none are a misuse; a user may also just ask for the version or for help.

Main definition: **`CommandLine.understand`**. -/

namespace MqttSessions

namespace CommandLine

/-- A profile as it is described on a command line. -/
structure NewProfile where
  name : String
  host : String
  port : Nat
  clientId : Option String
  protocol : Protocol
  qos : Qos
  username : Option String
  password : Option String
  useTls : Bool
  cleanSession : Bool
  deriving DecidableEq, Repr

/-- A command. -/
inductive Command where
  | list
  | add (profile : NewProfile)
  | delete (id : String)
  | watch (id : String) (topics : List String) (qos : Qos)
  | publish (id topic payload : String) (qos : Qos) (retain : Bool)
  deriving DecidableEq, Repr

/-- What goes for every command: a settings file, a profile document, and how much is logged. -/
structure Frame where
  config : Option String := none
  profiles : Option String := none
  verbosity : Nat := 0
  deriving DecidableEq, Repr

/-- A command and what goes for every command. -/
structure Invocation where
  frame : Frame
  command : Command
  deriving DecidableEq, Repr

/-- What the words of a command line come to. -/
inductive Request where
  | run (invocation : Invocation)
  | version
  | help
  | misuse
  deriving DecidableEq, Repr

/-! ## What was given -/

/-- The options and operands of a command, in the order in which they were given. -/
structure Given where
  options : List (String × Option String) := []
  operands : List String := []
  deriving DecidableEq, Repr

namespace Given

/-- Whether an option was given. -/
def has (given : Given) (name : String) : Bool := given.options.any fun o => o.1 == name

/-- The value of an option. -/
def value? (given : Given) (name : String) : Option String :=
  ((given.options.find? fun o => o.1 == name).map (·.2)).join

/-- The values of an option that may be repeated. -/
def values (given : Given) (name : String) : List String :=
  given.options.filterMap fun o => if o.1 == name then o.2 else none

end Given

/-- Whether an option may be given with a value, after what was given before. -/
def allows (switches : List Switch) (given : Given) (name : String) (value : Option String) : Bool :=
  (ofName? switches name).any fun switch =>
    (switch.repeats || !given.has name) && value.all switch.accepts

/-- Collects items up to a request for the version or for help. -/
def collect (switches : List Switch) : List Item → Given → Except Request Given
  | [], given => .ok given
  | .operand word :: rest, given =>
    collect switches rest { given with operands := given.operands ++ [word] }
  | .option name value :: rest, given =>
    if name = "version" then .error .version
    else if name = "help" then .error .help
    else if !allows switches given name value then .error .misuse
    else collect switches rest { given with options := given.options ++ [(name, value)] }

/-! ## Values -/

/-- A whole number with an optional sign, between zero and a bound. -/
def naturalWithin (bound : Nat) (text : String) : Option Nat :=
  let (negative, digits) := match text.toList with
    | '+' :: digits => (false, digits)
    | '-' :: digits => (true, digits)
    | digits => (false, digits)
  if digits.isEmpty || !digits.all fun c => '0' ≤ c && c ≤ '9' then none
  else
    let n := digits.foldl (fun n c => n * 10 + (c.toNat - '0'.toNat)) 0
    if n ≤ bound && (!negative || n = 0) then some n else none

/-- A value that is a default where the option was not given. -/
def valueOr {α : Type} (given : Given) (name : String) (default : α) (read : String → Option α) :
    Option α :=
  match given.value? name with
  | none => some default
  | some text => read text

/-- A delivery guarantee, written as its level. -/
def readQos (text : String) : Option Qos := (naturalWithin 2 text).bind Qos.ofLevel?

/-- A port. -/
def readPort (text : String) : Option Nat := naturalWithin 0xffff text

/-- A protocol revision. -/
def readProtocol (text : String) : Option Protocol := (Protocol.ofUser text).toOption

/-- The delivery guarantee that was given. -/
def qosOf (given : Given) : Option Qos := valueOr given "qos" .atMostOnce readQos

/-! ## Commands -/

/-- The option that asks for help. -/
def helpSwitch : Switch := { name := "help", letter := some 'h', takesValue := false }

/-- An option with a text as its value, and no letter. -/
def valued (name : String) : Switch := { name }

/-- An option with a value that is read, and no letter. -/
def valuedAs {α : Type} (read : String → Option α) (name : String) : Switch :=
  { name, accepts := fun text => (read text).isSome }

/-- An option without a value, and no letter. -/
def flag (name : String) : Switch := { name, takesValue := false }

/-- What a command is called, the options that it knows, and the command that was given. -/
structure Form where
  name : String
  switches : List Switch
  command? : Given → Option Command

/-- Reads the profile that is to be added. A password needs a user name. -/
def newProfile? (given : Given) : Option NewProfile := do
  let name ← given.value? "name"
  let host ← given.value? "host"
  let port ← valueOr given "port" 1883 readPort
  let protocol ← valueOr given "protocol" .v311 readProtocol
  let qos ← qosOf given
  if given.has "password" && !given.has "username" then none
  if !given.operands.isEmpty then none
  return {
    name
    host
    port
    clientId := given.value? "client-id"
    protocol
    qos
    username := given.value? "username"
    password := given.value? "password"
    useTls := given.has "tls"
    cleanSession := !given.has "no-clean-session" }

/-- All commands. -/
def forms : List Form :=
  [{ name := "list"
     switches := []
     command? := fun given => if given.operands.isEmpty then some .list else none },
   { name := "add"
     switches :=
       ["name", "host", "client-id", "username", "password"].map valued
         ++ [valuedAs readPort "port", valuedAs readProtocol "protocol", valuedAs readQos "qos",
           flag "tls", flag "no-clean-session"]
     command? := fun given => (newProfile? given).map .add },
   { name := "delete"
     switches := []
     command? := fun given =>
       match given.operands with
       | [id] => some (.delete id)
       | _ => none },
   { name := "watch"
     switches := [{ name := "topic", letter := some 't', repeats := true }, valuedAs readQos "qos"]
     command? := fun given =>
       match given.operands, qosOf given with
       | [id], some qos => some (.watch id (given.values "topic") qos)
       | _, _ => none },
   { name := "publish"
     switches := [valuedAs readQos "qos", flag "retain"]
     command? := fun given =>
       match given.operands, qosOf given with
       | [id, topic, payload], some qos =>
         some (.publish id topic payload qos (given.has "retain"))
       | _, _ => none }]

/-- The command that some words after its name make. -/
def commandOf (form : Form) (words : List String) : Except Request Command :=
  let switches := helpSwitch :: form.switches
  let (items, left) := scan switches false none words
  match collect switches items {} with
  | .error request => .error request
  | .ok given =>
    match left, form.command? given with
    | .finished, some command => .ok command
    | _, _ => .error .misuse

/-! ## Whole command lines -/

/-- Whether a text may name a file. -/
def isPath (text : String) : Bool := !text.isEmpty

/-- The options that stand before a command. -/
def frameSwitches : List Switch :=
  [{ name := "config", letter := some 'c', accepts := isPath },
   { name := "profiles", letter := some 'p', accepts := isPath },
   { name := "verbose", letter := some 'v', takesValue := false, repeats := true },
   { name := "version", letter := some 'V', takesValue := false },
   helpSwitch]

/-- A path that was given as an option, else by the environment. -/
def pathOf (given : Given) (environment : List (String × String)) (name variable_ : String) :
    Except Request (Option String) :=
  let path := (given.value? name).or (environment.lookup variable_)
  if path.all isPath then .ok path else .error .misuse

/-- What goes for every command. -/
def frameOf (given : Given) (environment : List (String × String)) : Except Request Frame := do
  let config ← pathOf given environment "config" "MQTTDESK_CONFIG"
  let profiles ← pathOf given environment "profiles" "MQTTDESK_PROFILES"
  return {
    config
    profiles
    verbosity := (given.options.filter fun o => o.1 == "verbose").length }

/-- The invocation that some words make, or the request that comes before it. -/
def invocationOf (words : List String) (environment : List (String × String)) :
    Except Request Invocation := do
  let (items, left) := scan frameSwitches true none words
  let given ← collect frameSwitches items {}
  match left with
  | .words (name :: rest) =>
    if name = "help" then throw .help
    match forms.find? fun form => form.name == name with
    | none => throw .misuse
    | some form =>
      let command ← commandOf form rest
      let frame ← frameOf given environment
      return { frame, command }
  | _ => throw .misuse

/-- What the words of a command line come to. -/
def understand (words : List String) (environment : List (String × String)) : Request :=
  match invocationOf words environment with
  | .ok invocation => .run invocation
  | .error request => request

end CommandLine

end MqttSessions
