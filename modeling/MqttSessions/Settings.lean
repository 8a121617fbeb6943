/-! # Settings

What a user may tune: where the profile document lives, how sessions work, and what connections use
where a profile leaves the choice. Every setting has a default. -/

namespace MqttSessions

/-- How sessions work. Times are in milliseconds. -/
structure SessionSettings where
  batchInterval : Nat := 50
  disconnectTimeout : Nat := 2000
  eventCapacity : Nat := 256
  deriving DecidableEq, Repr

/-- What connections use where a profile leaves the choice. -/
structure MqttSettings where
  requestCapacity : Nat := 10
  keepAliveSecs : Nat := 60
  connectTimeoutSecs : Nat := 10
  deriving DecidableEq, Repr

/-- All settings. -/
structure Settings where
  profilesFile : String := "connections.json"
  session : SessionSettings := {}
  mqtt : MqttSettings := {}
  deriving DecidableEq, Repr

namespace Settings

/-- A setting that may not be zero. -/
inductive Positive where
  | batchInterval
  | disconnectTimeout
  | eventCapacity
  | requestCapacity
  deriving DecidableEq, Repr

/-- The name of a setting in a settings file. -/
def Positive.key : Positive → String
  | batchInterval => "session.batch_interval_ms"
  | disconnectTimeout => "session.disconnect_timeout_ms"
  | eventCapacity => "session.event_capacity"
  | requestCapacity => "mqtt.request_capacity"

/-- The first setting that is zero and may not be. -/
def firstZero? (settings : Settings) : Option Positive :=
  if settings.session.batchInterval = 0 then some .batchInterval
  else if settings.session.disconnectTimeout = 0 then some .disconnectTimeout
  else if settings.session.eventCapacity = 0 then some .eventCapacity
  else if settings.mqtt.requestCapacity = 0 then some .requestCapacity
  else none

/-- Settings are accepted just if nothing is zero that may not be. -/
theorem firstZero?_eq_none_iff {settings : Settings} :
    settings.firstZero? = none ↔
      settings.session.batchInterval ≠ 0 ∧ settings.session.disconnectTimeout ≠ 0 ∧
        settings.session.eventCapacity ≠ 0 ∧ settings.mqtt.requestCapacity ≠ 0 := by
  grind [firstZero?]

end Settings

end MqttSessions
