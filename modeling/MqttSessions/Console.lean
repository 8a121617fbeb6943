import MqttSessions.Logging
import MqttSessions.Message

/-! # What is printed

A program prints **`Line`**s: texts, messages that came in, and log entries. Which log entries are
printed depends on the log's filter and format. -/

namespace MqttSessions

/-- A line that is printed. -/
inductive Line where
  | text (s : String)
  | message (message : Message)
  | log (entry : LogEntry)
  deriving Repr

namespace Line

/-- A log entry as a line, its message before its other fields. -/
def entry (level : LogLevel) (target message : String) (fields : List (String × Json.Value)) :
    Line :=
  .log ⟨level, target, ("message", .string message) :: fields⟩

/-- What is printed of a message, after the time at which it came. -/
def messageText (message : Message) : String :=
  "[" ++ message.topic ++ "] " ++ message.text ++ (if message.retain then " (retained)" else "")

end Line

/-- How log entries are printed. -/
structure LogSettings where
  filter : LogFilter
  format : LogFormat
  deriving DecidableEq, Repr

/-- Whether a line is printed. -/
def LogSettings.prints (settings : LogSettings) : Line → Bool
  | .log entry => settings.filter.shows entry
  | _ => true

end MqttSessions
