import MqttSessions.Toml.Scan

/-! # Texts in TOML

A text is written on one line or over several, with escapes or literally. In a text over several
lines every line end counts as a single line feed, and the one after the opening quotes does not
count; one or two quotes may stand anywhere in it, also before the closing ones.

Main definitions: **`Toml.text`**, a text in any of its four forms, and **`Toml.keyPart`**, one part
of a key. -/

namespace MqttSessions

namespace Toml

/-! ## Escapes -/

/-- The character that a letter after a backslash stands for. -/
def shortEscape? : Char → Option Char
  | 'b' => some '\x08'
  | 't' => some '\t'
  | 'n' => some '\n'
  | 'f' => some '\x0c'
  | 'r' => some '\r'
  | '"' => some '"'
  | '\\' => some '\\'
  | _ => none

/-- The character of a code point, if it has one. -/
def charOf? (n : Nat) : Option Char := if n.isValidChar then some (Char.ofNat n) else none

/-- The character of an escape, after its backslash. -/
def escape : Scan Char := do
  let c ← oneOf fun _ => true
  match c with
  | 'u' =>
    let digits ← exactly isHexDigit 4
    charOf? (ofDigits 16 digits)
  | 'U' =>
    let digits ← exactly isHexDigit 8
    charOf? (ofDigits 16 digits)
  | c => shortEscape? c

/-! ## Texts on one line -/

/-- The rest of a text with escapes, up to its closing quote. -/
def basicRest : Nat → Scan (List Char)
  | 0 => refuse
  | fuel + 1 => do
    let c ← oneOf isPlain
    match c with
    | '"' => return []
    | '\\' => return (← escape) :: (← basicRest fuel)
    | c => return c :: (← basicRest fuel)

/-- A text with escapes. -/
def basicText : Scan (List Char) := do
  mark '"'
  fun cs => basicRest (cs.length + 1) cs

/-- A literal text. -/
def literalText : Scan (List Char) := do
  mark '\''
  let content ← runOf fun c => isPlain c && c != '\''
  mark '\''
  return content

/-! ## Texts over several lines -/

/-- The number of quotes that the next quotes are as content, if they close the text: three close
it, and up to two more before them are content. -/
def closing? (quotes : Nat) : Option Nat := if quotes < 3 then none else some (min quotes 5 - 3)

/-- The quotes at the front, at most five of them. -/
def quotesAhead (quote : Char) : Scan Nat := fun cs =>
  some (((cs.takeWhile (· == quote)).take 5).length, cs)

/-- Takes blanks and line ends. -/
def blankLines : Nat → Scan Unit
  | 0 => pure ()
  | fuel + 1 => do
    match ← peek with
    | some ' ' | some '\t' =>
      blanks
      blankLines fuel
    | some '\n' | some '\r' =>
      newline
      blankLines fuel
    | _ => pure ()

/-- Takes a line end that an escape has taken out of a text, with the blanks and line ends after
it. -/
def hiddenBreak (fuel : Nat) : Scan Unit := do
  blanks
  newline
  blankLines fuel

/-- The rest of a text over several lines, up to its closing quotes. -/
def linesRest (quote : Char) (escapes : Bool) : Nat → Scan (List Char)
  | 0 => refuse
  | fuel + 1 => do
    match ← peek with
    | none => refuse
    | some c =>
      if c == quote then
        let quotes ← quotesAhead quote
        match closing? quotes with
        | some content =>
          word (List.replicate (content + 3) quote)
          return List.replicate content quote
        | none =>
          mark quote
          return quote :: (← linesRest quote escapes fuel)
      else if c == '\n' || c == '\r' then
        newline
        return '\n' :: (← linesRest quote escapes fuel)
      else if c == '\\' && escapes then
        mark '\\'
        match ← optional (hiddenBreak fuel) with
        | some () => linesRest quote escapes fuel
        | none => return (← escape) :: (← linesRest quote escapes fuel)
      else
        let c ← oneOf isPlain
        return c :: (← linesRest quote escapes fuel)

/-- A text over several lines. -/
def linesText (quote : Char) (escapes : Bool) : Scan (List Char) := do
  word [quote, quote, quote]
  let _ ← optional newline
  fun cs => linesRest quote escapes (cs.length + 1) cs

/-! ## Texts and keys -/

/-- Whether three quotes stand at the front. -/
def opensLines (quote : Char) : Scan Bool := do
  return 3 ≤ (← quotesAhead quote)

/-- A text in any of its forms. -/
def text : Scan String := do
  let chars ←
    if ← opensLines '"' then linesText '"' true
    else if ← opensLines '\'' then linesText '\'' false
    else basicText <|> literalText
  return String.ofList chars

/-- Whether a character may stand in a key without quotes. -/
def isBare (c : Char) : Bool :=
  isDigit c || ('a' ≤ c && c ≤ 'z') || ('A' ≤ c && c ≤ 'Z') || c == '_' || c == '-'

/-- A part of a key without quotes. -/
def bareKey : Scan (List Char) := do
  let chars ← runOf isBare
  if chars.isEmpty then refuse else return chars

/-- One part of a key. -/
def keyPart : Scan String := do
  let chars ← basicText <|> literalText <|> bareKey
  return String.ofList chars

end Toml

end MqttSessions
