/-! # Topic names and topic filters

A topic *name* says what a message is about; a topic *filter* says which messages a subscription
wants. Both are texts cut into *levels* at each `/`. In a filter a level `+` stands for any one
level and a last level `#` for any number of them.

Main definitions:

* **`Topic.levels`**: the levels of a text, at least one;
* **`Topic.Fault`**: what is wrong with a name or a filter, with its wording;
* **`Topic.checkName`** and **`Topic.checkFilter`**: the first fault of a text, in a fixed order;
* **`Topic.accepts`**: whether a filter accepts a name. -/

namespace MqttSessions

namespace Topic

/-! ## Levels -/

/-- The levels of a text given as characters: the runs between the separators `/`. -/
def splitLevels : List Char → List (List Char)
  | [] => [[]]
  | c :: rest =>
    if c = '/' then [] :: splitLevels rest
    else match splitLevels rest with
      | [] => [[c]]
      | level :: levels => (c :: level) :: levels

@[simp] theorem splitLevels_nil : splitLevels [] = [[]] := rfl

@[simp] theorem splitLevels_slash (rest : List Char) :
    splitLevels ('/' :: rest) = [] :: splitLevels rest := by
  simp [splitLevels]

/-- A text has at least one level. -/
theorem splitLevels_ne_nil (s : List Char) : splitLevels s ≠ [] := by
  cases s with
  | nil => simp
  | cons c rest =>
    unfold splitLevels
    split
    · simp
    · split <;> simp

/-- The levels of a text. -/
def levels (topic : String) : List (List Char) := splitLevels topic.toList

/-- The level that stands for any one level. -/
def anyOne : List Char := ['+']

/-- The level that stands for all that remains. -/
def anyRest : List Char := ['#']

/-- Whether a character is a wildcard. -/
def isWildcard (c : Char) : Bool := c == '+' || c == '#'

/-! ## Faults -/

/-- The most bytes a topic may take in UTF-8: its length is sent in sixteen bits. -/
def maxBytes : Nat := 65535

/-- What is wrong with a topic name or a topic filter. -/
inductive Fault where
  | empty
  | tooLong
  | nulCharacter
  | wildcardInName (wildcard : Char)
  | misplacedAnyOne
  | misplacedAnyRest
  deriving DecidableEq, Repr

/-- The wording of a fault. -/
def Fault.message : Fault → String
  | .empty => "Topic cannot be empty"
  | .tooLong => s!"Topic exceeds {maxBytes} bytes"
  | .nulCharacter => "Topic contains a NUL character"
  | .wildcardInName wildcard => "Wildcard '" ++ wildcard.toString ++ "' is not allowed in a topic name"
  | .misplacedAnyOne => "'+' must occupy an entire topic level"
  | .misplacedAnyRest => "'#' must be the last character and occupy an entire topic level"

/-- The first fault that names and filters share: no text at all, too many bytes, a NUL. -/
def checkCommon (topic : String) : Except Fault Unit :=
  if topic.isEmpty then .error .empty
  else if maxBytes < topic.utf8ByteSize then .error .tooLong
  else if topic.toList.contains '\x00' then .error .nulCharacter
  else .ok ()

/-- The first fault of a topic name: the shared ones, then its first wildcard. -/
def checkName (topic : String) : Except Fault Unit :=
  match checkCommon topic with
  | .error fault => .error fault
  | .ok () =>
    match topic.toList.find? isWildcard with
    | some wildcard => .error (.wildcardInName wildcard)
    | none => .ok ()

/-- The first fault among the levels of a filter: a level with `#` is `#` itself and the last one,
a level with `+` is `+` itself. -/
def checkLevels : List (List Char) → Except Fault Unit
  | [] => .ok ()
  | level :: rest =>
    if level.contains '#' && (level != anyRest || !rest.isEmpty) then .error .misplacedAnyRest
    else if level.contains '+' && level != anyOne then .error .misplacedAnyOne
    else checkLevels rest

/-- The first fault of a topic filter: the shared ones, then its first misplaced wildcard. -/
def checkFilter (filter : String) : Except Fault Unit :=
  match checkCommon filter with
  | .error fault => .error fault
  | .ok () => checkLevels (levels filter)

/-! ## Matching -/

/-- Whether the levels of a filter accept the levels of a name, level by level: `#` accepts all
that remains, also nothing; `+` accepts any one level; any other level accepts itself. -/
def acceptsLevels : List (List Char) → List (List Char) → Bool
  | [], [] => true
  | [], _ :: _ => false
  | f :: _, [] => f == anyRest
  | f :: filter, n :: name =>
    if f = anyRest then true
    else if f = anyOne then acceptsLevels filter name
    else f == n && acceptsLevels filter name

/-- Whether a name is reserved for the broker: no filter that starts with a wildcard accepts it. -/
def isReserved (name : String) : Bool := name.toList.head? == some '$'

/-- Whether a filter starts with a wildcard. -/
def startsWild (filter : String) : Bool := filter.toList.head?.any isWildcard

/-- Whether a filter accepts a name. Neither is checked first. -/
def accepts (filter name : String) : Bool :=
  !(isReserved name && startsWild filter) && acceptsLevels (levels filter) (levels name)

end Topic

end MqttSessions
