import MqttSessions.Text.Lower

/-! # Protocol revisions

The two revisions of MQTT that a connection may speak. Each has one written form; when a user names
a revision, white space and case do not matter and some short forms are understood as well. -/

namespace MqttSessions

/-- A revision of the protocol. -/
inductive Protocol where
  | v311
  | v5
  deriving DecidableEq, Repr, Inhabited

namespace Protocol

/-- The written form of a revision. -/
def text : Protocol → String
  | v311 => "3.1.1"
  | v5 => "5.0"

/-- The revision that a stored name stands for. -/
def ofStored? (name : String) : Option Protocol :=
  if ["3.1.1", "v3.1.1", "mqtt-3.1.1"].contains name then some v311
  else if ["5.0", "5", "v5"].contains name then some v5
  else none

/-- The revision that a user means, or the name as it was understood. -/
def ofUser (input : String) : Except String Protocol :=
  let name := Text.lower (Text.trim input)
  if name = "3" then .ok v311
  else match ofStored? name with
    | some protocol => .ok protocol
    | none => .error name

/-- The wording for a name that no revision has. -/
def unsupportedMessage (name : String) : String := "Unsupported protocol version: " ++ name

end Protocol

end MqttSessions
