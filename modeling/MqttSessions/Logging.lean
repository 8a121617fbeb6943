import MqttSessions.Json.Value
import MqttSessions.Text.Blank
import MqttSessions.Text.Lower

/-! # Logging

A log is a list of **`LogEntry`**s, each with a level, the part of the program that it comes from, and
named fields. A **`LogFilter`** says which entries are shown: it is written as directives, of which
the most special one that applies to an entry's target decides. -/

namespace MqttSessions

/-! ## Levels and formats -/

/-- The levels of log entries, the most urgent one first. -/
inductive LogLevel where
  | error
  | warn
  | info
  | debug
  | trace
  deriving DecidableEq, Repr

namespace LogLevel

/-- The name of a level. -/
def text : LogLevel → String
  | error => "ERROR"
  | warn => "WARN"
  | info => "INFO"
  | debug => "DEBUG"
  | trace => "TRACE"

/-- All levels, the most urgent one first. -/
def all : List LogLevel := [error, warn, info, debug, trace]

/-- How many levels are at least as urgent as a level. -/
def verbosity (level : LogLevel) : Nat := all.idxOf level + 1

/-- The level that a user means; whatever is no level's name means `info`. Besides ASCII letters only
the dotless i and the long s have ASCII capitals, I and S, and of these names only that of `info`
has one of them. -/
def ofUser (input : String) : LogLevel :=
  let name := (Text.trim input).map Char.toUpper
  (all.find? fun level => level.text == name).getD info

end LogLevel

/-- How log entries are shown. -/
inductive LogFormat where
  | json
  | pretty
  | compact
  deriving DecidableEq, Repr

/-- The format that a user means; whatever is no format's name means `json`. -/
def LogFormat.ofUser (input : String) : LogFormat :=
  match Text.lower (Text.trim input) with
  | "pretty" => pretty
  | "compact" => compact
  | _ => json

/-! ## Entries -/

/-- A log entry. -/
structure LogEntry where
  level : LogLevel
  target : String
  fields : List (String × Json.Value)
  deriving Repr

/-! ## Filters -/

/-- A rule on the entries of the targets that start with a text: how many levels of them are shown. -/
structure LogDirective where
  target : String
  shown : Nat
  deriving DecidableEq, Repr

/-- Rules of which the most special one that applies decides. -/
abbrev LogFilter := List LogDirective

namespace LogFilter

/-- The number of levels that a word in a directive means. -/
def shown? (word : String) : Option Nat :=
  let name := word.map Char.toUpper
  if name = "OFF" || name = "0" then some 0
  else
    match LogLevel.all.find? fun level => level.text == name || toString level.verbosity == name with
    | some level => some level.verbosity
    | none => none

/-- Whether a text may be the target of a directive. -/
def isTarget (text : String) : Bool :=
  !text.isEmpty && text.toList.all fun c => c.isAlphanum || c == '_' || c == ':' || c == '-'

/-- The directive that a text means: a level for all targets, a target with a level, or a target all of
whose entries are shown. -/
def directive? (text : String) : Option LogDirective :=
  match text.splitOn "=" with
  | [word] =>
    match shown? word with
    | some shown => some ⟨"", shown⟩
    | none => if isTarget word then some ⟨word, LogLevel.trace.verbosity⟩ else none
  | [target, word] => if isTarget target then (shown? word).map (⟨target, ·⟩) else none
  | _ => none

/-- The filter that a text means, directives between commas. A directive that means nothing is left
out, a later one for the same target replaces an earlier one, and without any only errors are
shown. -/
def ofText (text : String) : LogFilter :=
  let directives := (text.splitOn ",").filterMap directive?
  if directives.isEmpty then [⟨"", LogLevel.error.verbosity⟩]
  else
    directives.foldl (fun filter d => filter.filter (fun e => e.target != d.target) ++ [d]) []

/-- The filter that shows the entries of a level and of all more urgent ones. -/
def ofLevel (level : LogLevel) : LogFilter := [⟨"", level.verbosity⟩]

/-- The directive that decides on a target: of those whose target it starts with the longest one. -/
def deciding? (filter : LogFilter) (target : String) : Option LogDirective :=
  (filter.filter fun d => target.startsWith d.target).foldl
    (fun best d =>
      match best with
      | none => some d
      | some b => if b.target.length < d.target.length then some d else some b)
    none

/-- Whether an entry is shown. -/
def shows (filter : LogFilter) (entry : LogEntry) : Bool :=
  match filter.deciding? entry.target with
  | none => false
  | some d => entry.level.verbosity ≤ d.shown

end LogFilter

end MqttSessions
