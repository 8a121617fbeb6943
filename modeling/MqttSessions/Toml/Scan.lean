/-! # Scanning characters

A **`Toml.Scan`** takes characters from the front of a text, or fails. This module has the scans that
all others are made of: single characters, runs of characters, blanks, line ends and comments. -/

namespace MqttSessions

namespace Toml

/-- A reader of characters that may fail. -/
abbrev Scan (α : Type) := StateT (List Char) Option α

/-- Fails. -/
def refuse {α : Type} : Scan α := fun _ => none

/-- The next character, which is left where it is; `none` at the end. -/
def peek : Scan (Option Char) := fun cs => some (cs.head?, cs)

/-- Takes a character that is of a kind. -/
def oneOf (isKind : Char → Bool) : Scan Char
  | [] => none
  | c :: rest => if isKind c then some (c, rest) else none

/-- Takes a given character. -/
def mark (c : Char) : Scan Unit := do
  let _ ← oneOf (· == c)

/-- Takes given characters. -/
def word : List Char → Scan Unit
  | [] => pure ()
  | c :: rest => do
    mark c
    word rest

/-- Takes the longest run of characters of a kind. -/
def runOf (isKind : Char → Bool) : Scan (List Char) := fun cs =>
  some (cs.takeWhile isKind, cs.dropWhile isKind)

/-- Tries a scan, and takes nothing if it fails. -/
def optional {α : Type} (scan : Scan α) : Scan (Option α) := (some <$> scan) <|> pure none

/-- Takes a given number of characters of a kind. -/
def exactly (isKind : Char → Bool) : Nat → Scan (List Char)
  | 0 => pure []
  | count + 1 => do
    let c ← oneOf isKind
    let rest ← exactly isKind count
    return c :: rest

/-! ## Kinds of characters -/

/-- Whether a character is a blank within a line. -/
def isBlank (c : Char) : Bool := c == ' ' || c == '\t'

/-- Whether a character may stand in a text: the tab and all that is no control. -/
def isPlain (c : Char) : Bool := c == '\t' || (0x20 ≤ c.toNat && c.toNat != 0x7F)

/-- Whether a character is a decimal digit. -/
def isDigit (c : Char) : Bool := '0' ≤ c && c ≤ '9'

/-- Whether a character is a hexadecimal digit. -/
def isHexDigit (c : Char) : Bool :=
  isDigit c || ('a' ≤ c && c ≤ 'f') || ('A' ≤ c && c ≤ 'F')

/-- The value of a digit. -/
def digitValue (c : Char) : Nat :=
  if isDigit c then c.toNat - '0'.toNat
  else if 'a' ≤ c then c.toNat - 'a'.toNat + 10
  else c.toNat - 'A'.toNat + 10

/-- The number that digits stand for in a base. -/
def ofDigits (base : Nat) (digits : List Char) : Nat :=
  digits.foldl (fun n c => n * base + digitValue c) 0

/-! ## Blanks, line ends and comments -/

/-- Takes the blanks within a line. -/
def blanks : Scan Unit := do
  let _ ← runOf isBlank

/-- Takes the end of a line. -/
def newline : Scan Unit
  | '\n' :: rest => some ((), rest)
  | '\r' :: '\n' :: rest => some ((), rest)
  | _ => none

/-- Takes a comment, up to the end of its line. -/
def comment : Scan Unit := do
  mark '#'
  let _ ← runOf isPlain

/-- Takes the end of a line, or notes that the text is at its end. -/
def lineEnd : Scan Unit := fun cs => if cs.isEmpty then some ((), []) else newline cs

/-- Takes what may follow on a line after its content. -/
def lineRest : Scan Unit := do
  blanks
  let _ ← optional comment
  lineEnd

/-- Takes blanks, line ends and comments, at most `fuel` of them. -/
def gapOf : Nat → Scan Unit
  | 0 => pure ()
  | fuel + 1 => do
    match ← peek with
    | some '#' =>
      comment
      newline
      gapOf fuel
    | some ' ' | some '\t' =>
      blanks
      gapOf fuel
    | some '\n' | some '\r' =>
      newline
      gapOf fuel
    | _ => pure ()

/-- Takes blanks, line ends and comments. -/
def gap : Scan Unit := fun cs => gapOf (cs.length + 1) cs

end Toml

end MqttSessions
