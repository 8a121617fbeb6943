import MqttSessions.Toml.Scan

/-! # Numbers and times in TOML

Whole numbers are written in base ten, sixteen, eight or two and fit sixty-four bits. Numbers with a
fraction or an exponent may not be too great for a double. Dates and times name days and moments
that there are. Between two digits of a number an underscore may stand.

Main definitions: **`Toml.integer`**, **`Toml.float`** and **`Toml.moment`**. -/

namespace MqttSessions

namespace Toml

/-! ## Digits -/

/-- The further digits of a run: digits, and underscores each with a digit after it. -/
def moreDigits (isKind : Char → Bool) : List Char → Option (List Char × List Char)
  | [] => some ([], [])
  | '_' :: c :: rest =>
    if isKind c then (moreDigits isKind rest).map fun (digits, left) => (c :: digits, left)
    else none
  | ['_'] => none
  | c :: rest =>
    if isKind c then (moreDigits isKind rest).map fun (digits, left) => (c :: digits, left)
    else some ([], c :: rest)

/-- Digits, without the underscores between them. -/
def digits (isKind : Char → Bool) : Scan (List Char) := do
  let c ← oneOf isKind
  let rest ← moreDigits isKind
  return c :: rest

/-- A sign, if there is one: whether it is a minus. -/
def sign : Scan Bool := do
  match ← optional (oneOf fun c => c == '+' || c == '-') with
  | some c => return c == '-'
  | none => return false

/-- Decimal digits without a zero before others. -/
def wholeDigits : Scan (List Char) := do
  match ← peek with
  | some '0' =>
    mark '0'
    return ['0']
  | _ => digits isDigit

/-! ## Whole numbers -/

/-- Whether a number fits sixty-four bits with a sign. -/
def fits (n : Int) : Bool := -0x8000000000000000 ≤ n && n < 0x8000000000000000

/-- A number that fits. -/
def fitting (n : Int) : Scan Int := if fits n then pure n else refuse

/-- A number in a base other than ten, after its mark. -/
def inBase (letter : Char) (base : Nat) (isKind : Char → Bool) : Scan Int := do
  word ['0', letter]
  let ds ← digits isKind
  fitting (ofDigits base ds)

/-- A whole number in base ten. -/
def decimal : Scan Int := do
  let negative ← sign
  let ds ← wholeDigits
  let n : Int := ofDigits 10 ds
  fitting (if negative then -n else n)

/-- A whole number. -/
def integer : Scan Int :=
  inBase 'x' 16 isHexDigit
    <|> inBase 'o' 8 (fun c => '0' ≤ c && c ≤ '7')
    <|> inBase 'b' 2 (fun c => c == '0' || c == '1')
    <|> decimal

/-! ## Numbers with a fraction or an exponent -/

/-- The least number that is too great for a double: halfway between the greatest double and the
power of two after it. -/
def tooGreat : Nat := Nat.pow 2 1024 - Nat.pow 2 970

/-- Whether a decimal is too great for a double: `mantissa` times ten to the `exponent`. Far from
the border the number of digits decides. -/
def exceedsDouble (mantissa : Nat) (exponent : Int) : Bool :=
  let magnitude := (Nat.toDigits 10 mantissa).length + exponent
  if mantissa = 0 || magnitude ≤ 308 then false
  else if 310 ≤ magnitude then true
  else if 0 ≤ exponent then tooGreat ≤ mantissa * Nat.pow 10 exponent.toNat
  else tooGreat * Nat.pow 10 exponent.natAbs ≤ mantissa

/-- A fraction: a point and digits. -/
def fraction : Scan (List Char) := do
  mark '.'
  digits isDigit

/-- An exponent: a letter, perhaps a sign, and digits. -/
def exponent : Scan Int := do
  let _ ← oneOf fun c => c == 'e' || c == 'E'
  let negative ← sign
  let ds ← digits isDigit
  let n : Int := ofDigits 10 ds
  return if negative then -n else n

/-- A fraction, an exponent, or both. -/
def tail : Scan (List Char × Int) :=
  (do
    let fraction ← fraction
    let exponent ← optional exponent
    return (fraction, exponent.getD 0))
  <|> (do return ([], ← exponent))

/-- A finite number with a fraction or an exponent. A positive one may not be too great. -/
def finite : Scan Unit := do
  let negative ← sign
  let whole ← wholeDigits
  let (fraction, exponent) ← tail
  let mantissa := ofDigits 10 (whole ++ fraction)
  if !negative && exceedsDouble mantissa (exponent - fraction.length) then refuse

/-- A word for infinity or for no number, perhaps with a sign. -/
def unusual : Scan Unit := do
  let _ ← sign
  word ['i', 'n', 'f'] <|> word ['n', 'a', 'n']

/-- A number with a fraction or an exponent, or a word for an unusual one. -/
def float : Scan Unit := finite <|> unusual

/-! ## Dates and times -/

/-- A number of a given count of digits between two bounds. -/
def digitsWithin (count low high : Nat) : Scan Nat := do
  let n := ofDigits 10 (← exactly isDigit count)
  if low ≤ n && n ≤ high then return n else refuse

/-- Whether a year has a leap day. -/
def isLeap (year : Nat) : Bool := year % 4 = 0 && (year % 100 ≠ 0 || year % 400 = 0)

/-- The number of days of a month. -/
def daysOf (year month : Nat) : Nat :=
  if month = 2 then (if isLeap year then 29 else 28)
  else if [4, 6, 9, 11].contains month then 30
  else 31

/-- A day. -/
def date : Scan Unit := do
  let year ← digitsWithin 4 0 9999
  mark '-'
  let month ← digitsWithin 2 1 12
  mark '-'
  let _ ← digitsWithin 2 1 (daysOf year month)

/-- A time of day. A minute may have a leap second. -/
def time : Scan Unit := do
  let _ ← digitsWithin 2 0 23
  mark ':'
  let _ ← digitsWithin 2 0 59
  mark ':'
  let _ ← digitsWithin 2 0 60
  let _ ← optional (do
    mark '.'
    let _ ← oneOf isDigit
    runOf isDigit)

/-- The distance from universal time. -/
def offset : Scan Unit :=
  (do let _ ← oneOf fun c => c == 'Z' || c == 'z')
  <|> (do
    let _ ← oneOf fun c => c == '+' || c == '-'
    let _ ← digitsWithin 2 0 23
    mark ':'
    let _ ← digitsWithin 2 0 59)

/-- A time of day after a date. -/
def timeAfterDate : Scan Unit := do
  let _ ← oneOf fun c => c == 'T' || c == 't' || c == ' '
  time
  let _ ← optional offset

/-- A day, a time of day, or both. -/
def moment : Scan Unit :=
  (do
    date
    let _ ← optional timeAfterDate)
  <|> time

end Toml

end MqttSessions
