import MqttSessions.Profile.Basic

/-! # Fresh identities

Profiles that have no id are given one, and profiles that are new are given a client id as well.
An id is a random identifier of 122 free bits in five groups of hexadecimal digits; which bits
they are is decided outside, by a number drawn for the occasion.

Main definitions: **`Identity.profileId`**, **`Identity.clientId`**, and **`Profile.fresh`**, a new
profile for a name and an address. -/

namespace MqttSessions

namespace Identity

/-- So many low hexadecimal digits of a number, most significant first. -/
def hexDigits : (count : Nat) → Nat → List Char
  | 0, _ => []
  | count + 1, n => hexDigits count (n / 16) ++ [Nat.digitChar (n % 16)]

/-- The profile id made from a drawn number: 8, 4, 4, 4 and 12 digits, of which the thirteenth is 4
and the seventeenth one of 8, 9, a and b. -/
def profileId (draw : Nat) : String :=
  let low := draw % 0x4000000000000000
  let mid := draw / 0x4000000000000000
  let high := mid / 0x1000
  let variant := 0x8000000000000000 + low
  String.ofList (hexDigits 8 (high / 0x10000) ++ ['-'] ++ hexDigits 4 high ++ ['-', '4']
    ++ hexDigits 3 mid ++ ['-'] ++ hexDigits 4 (variant / 0x1000000000000) ++ ['-'] ++ hexDigits 12 variant)

/-- What every generated client id starts with. -/
def clientIdStart : String := "mqttdesk_"

/-- The client id made from a drawn number: eight hexadecimal digits after a fixed start. -/
def clientId (draw : Nat) : String := clientIdStart ++ String.ofList (hexDigits 8 draw)

end Identity

/-- A new profile for a name and an address, with an id and a client id from two drawn numbers. -/
def Profile.fresh (idDraw clientDraw : Nat) (name host : String) (port : Nat) : Profile where
  id := Identity.profileId idDraw
  name := name
  clientId := Identity.clientId clientDraw
  protocol := .v311
  host := host
  port := port
  username := ""
  password := ""
  useTls := false
  cleanSession := true
  qos := .atMostOnce
  description := Profile.describe name host port
  keepAliveSecs := 0
  connectTimeoutSecs := 0
  lastWill := none

end MqttSessions
