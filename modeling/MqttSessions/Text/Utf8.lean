/-! # Reading octets as UTF-8

An octet sequence is read as a sequence of *units*: a character where the octets encode one, and a
gap for each longest run of octets that starts a character but does not finish it, or that can
start none. A gap never swallows an octet that could start the next character.

Main definitions:

* **`Utf8.encode`**: the octets of a text, a character at a time;
* **`Utf8.units`**: the units of an octet sequence, read by a small machine;
* **`Utf8.decode?`**: the text of a sequence without gaps;
* **`Utf8.lossy`**: the text with the replacement character in each gap. -/

namespace MqttSessions

namespace Utf8

/-! ## Encoding -/

/-- The octets of one character. -/
def encodeChar (c : Char) : List UInt8 := String.utf8EncodeChar c

/-- The octets of a text. -/
def encode (s : List Char) : List UInt8 := s.flatMap encodeChar

/-! ## Decoding -/

/-- A character of which some octets have been read: its value so far, how many octets are still
owed, and the least and the greatest octet that may come next. -/
structure Pending where
  value : Nat
  owed : Nat
  low : UInt8
  high : UInt8
  deriving DecidableEq, Repr

/-- What a first octet promises, outside ASCII; `none` if no character starts with it. -/
def lead? (b : UInt8) : Option Pending :=
  let n := b.toNat
  if 0xC2 ≤ n && n ≤ 0xDF then some ⟨n - 0xC0, 1, 0x80, 0xBF⟩
  else if n == 0xE0 then some ⟨0, 2, 0xA0, 0xBF⟩
  else if n == 0xED then some ⟨0xD, 2, 0x80, 0x9F⟩
  else if 0xE1 ≤ n && n ≤ 0xEF then some ⟨n - 0xE0, 2, 0x80, 0xBF⟩
  else if n == 0xF0 then some ⟨0, 3, 0x90, 0xBF⟩
  else if 0xF1 ≤ n && n ≤ 0xF3 then some ⟨n - 0xF0, 3, 0x80, 0xBF⟩
  else if n == 0xF4 then some ⟨4, 3, 0x80, 0x8F⟩
  else none

/-- A unit: a character, or `none` for a gap. -/
abbrev Unit8 := Option Char

/-- Reads an octet between characters: the units it completes and what is pending after it. -/
def start (b : UInt8) : List Unit8 × Option Pending :=
  if b < 0x80 then ([some (Char.ofNat b.toNat)], none)
  else match lead? b with
    | some pending => ([], some pending)
    | none => ([none], none)

/-- Reads one octet: the units it completes and what is pending after it. -/
def step : Option Pending → UInt8 → List Unit8 × Option Pending
  | none, b => start b
  | some p, b =>
    if p.low ≤ b && b ≤ p.high then
      let value := p.value * 64 + (b.toNat - 0x80)
      if p.owed ≤ 1 then ([some (Char.ofNat value)], none)
      else ([], some ⟨value, p.owed - 1, 0x80, 0xBF⟩)
    else (none :: (start b).1, (start b).2)

/-- The units of an octet sequence read after a pending character. -/
def unitsFrom : Option Pending → List UInt8 → List Unit8
  | none, [] => []
  | some _, [] => [none]
  | pending, b :: rest => (step pending b).1 ++ unitsFrom (step pending b).2 rest

/-- The units of an octet sequence. -/
def units (octets : List UInt8) : List Unit8 := unitsFrom none octets

/-- The characters of units without gaps. -/
def chars? : List Unit8 → Option (List Char)
  | [] => some []
  | none :: _ => none
  | some c :: rest => (chars? rest).map (c :: ·)

/-- The text of an octet sequence that is UTF-8. -/
def decode? (octets : List UInt8) : Option String := (chars? (units octets)).map String.ofList

/-- The character that stands for a gap. -/
def replacement : Char := '\uFFFD'

/-- The text of an octet sequence, with the replacement character in each gap. -/
def lossy (octets : List UInt8) : String :=
  String.ofList ((units octets).map (·.getD replacement))

end Utf8

end MqttSessions
