import MqttSessions.Json.Tree

/-! # Reading JSON texts

The reader takes the units of an octet sequence and follows the JSON grammar, so far as the text
follows it. Every reader returns what it read together with the input that remains, or with no
input at all after a fault.

Main definition: **`Json.read`**, the tree of an octet sequence and whether nothing but white space
follows it. -/

namespace MqttSessions

namespace Json

/-- The input that remains to be read. -/
abbrev Input := List Utf8.Unit8

/-- Drops the four characters that may stand between tokens. -/
def skipSpace : Input → Input
  | some ' ' :: rest => skipSpace rest
  | some '\n' :: rest => skipSpace rest
  | some '\t' :: rest => skipSpace rest
  | some '\r' :: rest => skipSpace rest
  | input => input

/-- The input after a given word, if it starts with it. -/
def word? : List Char → Input → Option Input
  | [], input => some input
  | c :: word, some d :: rest => if c = d then word? word rest else none
  | _ :: _, _ => none

/-! ## Strings -/

/-- The value of a hexadecimal digit. -/
def hexDigit? (c : Char) : Option Nat :=
  if '0' ≤ c && c ≤ '9' then some (c.toNat - '0'.toNat)
  else if 'a' ≤ c && c ≤ 'f' then some (c.toNat - 'a'.toNat + 10)
  else if 'A' ≤ c && c ≤ 'F' then some (c.toNat - 'A'.toNat + 10)
  else none

/-- The value of four hexadecimal digits. -/
def unit? (a b c d : Char) : Option Nat := do
  let a ← hexDigit? a
  let b ← hexDigit? b
  let c ← hexDigit? c
  let d ← hexDigit? d
  return ((a * 16 + b) * 16 + c) * 16 + d

/-- The character that a letter after a backslash stands for. -/
def shortEscape? (c : Char) : Option Char :=
  match c with
  | '"' => some '"'
  | '\\' => some '\\'
  | '/' => some '/'
  | 'b' => some '\x08'
  | 'f' => some '\x0c'
  | 'n' => some '\n'
  | 'r' => some '\r'
  | 't' => some '\t'
  | _ => none

/-- The pieces of a string after its opening quote, and the input after its closing one. -/
def readString : Input → Option (List Piece × Input)
  | [] => none
  | none :: rest => (readString rest).map fun (pieces, left) => (.gap :: pieces, left)
  | some '"' :: rest => some ([], rest)
  | some '\\' :: some 'u' :: some a :: some b :: some c :: some d :: rest =>
    match unit? a b c d with
    | none => none
    | some unit => (readString rest).map fun (pieces, left) => (.escaped unit :: pieces, left)
  | some '\\' :: some e :: rest =>
    match shortEscape? e with
    | none => none
    | some c => (readString rest).map fun (pieces, left) => (.char c :: pieces, left)
  | some '\\' :: _ => none
  | some c :: rest =>
    if c.toNat < 0x20 then none
    else (readString rest).map fun (pieces, left) => (.char c :: pieces, left)

/-! ## Numbers -/

/-- Whether a character is a decimal digit. -/
def isDigit (c : Char) : Bool := '0' ≤ c && c ≤ '9'

/-- The longest run of digits at the front of the input. -/
def takeDigits : Input → List Char × Input
  | some c :: rest =>
    if isDigit c then
      let (digits, left) := takeDigits rest
      (c :: digits, left)
    else ([], some c :: rest)
  | input => ([], input)

/-- The number that digits stand for. -/
def ofDigits (digits : List Char) : Nat :=
  digits.foldl (fun n c => n * 10 + (c.toNat - '0'.toNat)) 0

/-- The fraction of a number, if there is one: a point and at least one digit. -/
def readFraction : Input → Option (List Char × Input)
  | some '.' :: rest =>
    match takeDigits rest with
    | ([], _) => none
    | (digits, left) => some ('.' :: digits, left)
  | input => some ([], input)

/-- The exponent of a number, if there is one: a letter, perhaps a sign, and at least one digit. -/
def readExponent : Input → Option (List Char × Input)
  | some e :: rest =>
    if e = 'e' || e = 'E' then
      let (sign, rest) := match rest with
        | some '+' :: rest => (['+'], rest)
        | some '-' :: rest => (['-'], rest)
        | rest => ([], rest)
      match takeDigits rest with
      | ([], _) => none
      | (digits, left) => some (e :: sign ++ digits, left)
    else some ([], some e :: rest)
  | input => some ([], input)

/-- Whether digits are the whole part of a number: at least one, and no zero before another. -/
def isWholePart : List Char → Bool
  | [] => false
  | ['0'] => true
  | '0' :: _ => false
  | _ => true

/-- A number, and the input after it. -/
def readNumber (input : Input) : Tree × Option Input :=
  let (sign, body) := match input with
    | some '-' :: rest => (['-'], rest)
    | input => ([], input)
  let (whole, afterWhole) := takeDigits body
  if !isWholePart whole then (.fault, none)
  else match readFraction afterWhole with
    | none => (.fault, none)
    | some (fraction, afterFraction) =>
      match readExponent afterFraction with
      | none => (.fault, none)
      | some (exponent, left) =>
        if sign.isEmpty && fraction.isEmpty && exponent.isEmpty then
          (.natural (ofDigits whole), some left)
        else (.number (sign ++ whole ++ fraction ++ exponent), some left)

/-! ## Values -/

/-- A value that is a given word. -/
def readWord (word : List Char) (value : Tree) (input : Input) : Tree × Option Input :=
  match word? word input with
  | some left => (value, some left)
  | none => (.fault, none)

mutual
/-- A value at the front of the input, after white space. The fuel bounds the nesting and the
number of elements; an input never needs more of it than it has units. -/
def readValue : Nat → Input → Tree × Option Input
  | 0, _ => (.fault, none)
  | fuel + 1, input =>
    match skipSpace input with
    | some 'n' :: rest => readWord "ull".toList .null rest
    | some 't' :: rest => readWord "rue".toList (.bool true) rest
    | some 'f' :: rest => readWord "alse".toList (.bool false) rest
    | some '"' :: rest =>
      match readString rest with
      | some (pieces, left) => (.string pieces, some left)
      | none => (.fault, none)
    | some '[' :: rest =>
      match skipSpace rest with
      | some ']' :: left => (.array .closed, some left)
      | rest =>
        let (items, left) := readItems fuel rest
        (.array items, left)
    | some '{' :: rest =>
      match skipSpace rest with
      | some '}' :: left => (.object .closed, some left)
      | rest =>
        let (members, left) := readMembers fuel rest
        (.object members, left)
    | rest => readNumber rest

/-- The elements of a list from its next one on, and the input after its closing bracket. -/
def readItems : Nat → Input → Items × Option Input
  | 0, _ => (.broken, none)
  | fuel + 1, input =>
    match readValue fuel input with
    | (item, none) => (.cons item .broken, none)
    | (item, some rest) =>
      match skipSpace rest with
      | some ']' :: left => (.cons item .closed, some left)
      | some ',' :: rest =>
        let (items, left) := readItems fuel rest
        (.cons item items, left)
      | _ => (.cons item .broken, none)

/-- The members of an object from its next one on, and the input after its closing brace. -/
def readMembers : Nat → Input → Members × Option Input
  | 0, _ => (.broken, none)
  | fuel + 1, input =>
    match skipSpace input with
    | some '"' :: rest =>
      match readString rest with
      | none => (.broken, none)
      | some (key, rest) =>
        match skipSpace rest with
        | some ':' :: rest =>
          match readValue fuel rest with
          | (value, none) => (.cons key value .broken, none)
          | (value, some rest) =>
            match skipSpace rest with
            | some '}' :: left => (.cons key value .closed, some left)
            | some ',' :: rest =>
              let (members, left) := readMembers fuel rest
              (.cons key value members, left)
            | _ => (.cons key value .broken, none)
        | _ => (.broken, none)
    | _ => (.broken, none)
end

/-- The first value of an octet sequence, and whether only white space follows it. -/
def read (octets : List UInt8) : Tree × Bool :=
  let input := Utf8.units octets
  match readValue (2 * input.length + 2) input with
  | (tree, some rest) => (tree, (skipSpace rest).isEmpty)
  | (tree, none) => (tree, false)

end Json

end MqttSessions
