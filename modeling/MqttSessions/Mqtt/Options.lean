import MqttSessions.Profile.Basic
import MqttSessions.Settings
import MqttSessions.Text.Blank

/-! # Connection options

What is said to a broker when a connection is set up: the profile's data, with the application's
settings where the profile leaves the choice. Some profiles cannot be connected at all.

Main definitions: **`Mqtt.checkProfile`**, whether a profile can be connected, and
**`Mqtt.Options.ofProfile`**, the options of one that can. -/

namespace MqttSessions

namespace Mqtt

/-- Why a profile cannot be connected. -/
inductive OptionFault where
  | emptyHost
  | zeroPort
  | emptyClientId
  | spacedClientId
  deriving DecidableEq, Repr

/-- The wording of a fault in a profile. -/
def OptionFault.message : OptionFault → String
  | emptyHost => "Broker host must not be empty"
  | zeroPort => "Broker port must not be 0"
  | emptyClientId => "Client id must not be empty"
  | spacedClientId => "Client id must not start with a space"

/-- Whether a profile can be connected: it needs a host that is not blank, a port, and a client id
that does not start with a space. -/
def checkProfile (profile : Profile) : Except OptionFault Unit :=
  if (Text.trim profile.host).isEmpty then .error .emptyHost
  else if profile.port = 0 then .error .zeroPort
  else if profile.clientId.isEmpty then .error .emptyClientId
  else if profile.clientId.startsWith " " then .error .spacedClientId
  else .ok ()

/-- The shortest keep-alive that is used. -/
def minKeepAliveSecs : Nat := 5

/-- The keep-alive of a connection: the profile's, else the application's, never below the shortest
one. -/
def keepAliveSecs (profile : Profile) (settings : MqttSettings) : Nat :=
  max (if profile.keepAliveSecs = 0 then settings.keepAliveSecs else profile.keepAliveSecs)
    minKeepAliveSecs

/-- The time that a connection attempt may take: the profile's, else the application's, which counts
as one second at least. -/
def connectTimeoutSecs (profile : Profile) (settings : MqttSettings) : Nat :=
  if profile.connectTimeoutSecs = 0 then max settings.connectTimeoutSecs 1
  else profile.connectTimeoutSecs

/-- A user name and a password. -/
structure Credentials where
  username : String
  password : String
  deriving DecidableEq, Repr

/-- What is said to a broker when a connection is set up. Only revision 5.0 carries the connection
timeout in its options. -/
structure Options where
  clientId : String
  host : String
  port : Nat
  keepAliveSecs : Nat
  clean : Bool
  credentials : Option Credentials
  useTls : Bool
  lastWill : Option LastWill
  connectionTimeout : Option Nat
  deriving DecidableEq, Repr

namespace Options

/-- The options of a profile whose data are taken as they are. -/
def assemble (profile : Profile) (settings : MqttSettings) : Options where
  clientId := profile.clientId
  host := profile.host
  port := profile.port
  keepAliveSecs := Mqtt.keepAliveSecs profile settings
  clean := profile.cleanSession
  credentials :=
    if profile.hasCredentials then some ⟨profile.username, profile.password⟩ else none
  useTls := profile.useTls
  lastWill := profile.lastWill
  connectionTimeout :=
    match profile.protocol with
    | .v311 => none
    | .v5 => some (connectTimeoutSecs profile settings)

/-- The options of a profile that can be connected. -/
def ofProfile (profile : Profile) (settings : MqttSettings) : Except OptionFault Options :=
  match checkProfile profile with
  | .error fault => .error fault
  | .ok () => .ok (assemble profile settings)

end Options

end Mqtt

end MqttSessions
