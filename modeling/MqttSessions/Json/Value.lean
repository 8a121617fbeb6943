/-! # JSON values and their written form

A value is written either on one line without spaces (**`Json.Value.compact`**) or laid out with
two spaces per depth, one field or element a line, an empty list as two brackets
(**`Json.Value.pretty`**). In strings only the quote, the backslash and the controls below the
space are escaped. -/

namespace MqttSessions

namespace Json

/-- A JSON value that this library writes: its numbers are natural numbers. -/
inductive Value where
  | null
  | bool (b : Bool)
  | natural (n : Nat)
  | string (s : String)
  | array (items : List Value)
  | object (fields : List (String × Value))
  deriving Repr

/-! ## Strings -/

/-- The four hexadecimal digits of a control character. -/
def controlDigits (n : Nat) : List Char :=
  ['0', '0', Nat.digitChar (n / 16 % 16), Nat.digitChar (n % 16)]

/-- A character as it is written inside a string. -/
def escapeChar (c : Char) : List Char :=
  if c = '"' then ['\\', '"']
  else if c = '\\' then ['\\', '\\']
  else if c.toNat = 8 then ['\\', 'b']
  else if c.toNat = 9 then ['\\', 't']
  else if c.toNat = 10 then ['\\', 'n']
  else if c.toNat = 12 then ['\\', 'f']
  else if c.toNat = 13 then ['\\', 'r']
  else if c.toNat < 0x20 then ['\\', 'u'] ++ controlDigits c.toNat
  else [c]

/-- A text as a JSON string. -/
def writeString (s : String) : List Char := '"' :: s.toList.flatMap escapeChar ++ ['"']

/-! ## Values on one line -/

mutual
/-- A value on one line. -/
def writeCompact : Value → List Char
  | .null => "null".toList
  | .bool true => "true".toList
  | .bool false => "false".toList
  | .natural n => (toString n).toList
  | .string s => writeString s
  | .array items => '[' :: writeCompactItems items ++ [']']
  | .object fields => '{' :: writeCompactFields fields ++ ['}']

/-- Elements on one line, with a comma between two. -/
def writeCompactItems : List Value → List Char
  | [] => []
  | [v] => writeCompact v
  | v :: w :: rest => writeCompact v ++ ',' :: writeCompactItems (w :: rest)

/-- Fields on one line, with a comma between two. -/
def writeCompactFields : List (String × Value) → List Char
  | [] => []
  | [(k, v)] => writeString k ++ ':' :: writeCompact v
  | (k, v) :: w :: rest => writeString k ++ ':' :: writeCompact v ++ ',' :: writeCompactFields (w :: rest)
end

/-- The text of a value on one line. -/
def Value.compact (v : Value) : String := String.ofList (writeCompact v)

/-! ## Values laid out -/

/-- A line break followed by the indentation of a depth. -/
def newline (depth : Nat) : List Char := '\n' :: List.replicate (2 * depth) ' '

mutual
/-- A value laid out at a depth. -/
def writePretty (depth : Nat) : Value → List Char
  | .null => "null".toList
  | .bool true => "true".toList
  | .bool false => "false".toList
  | .natural n => (toString n).toList
  | .string s => writeString s
  | .array [] => ['[', ']']
  | .array (v :: rest) =>
    '[' :: newline (depth + 1) ++ writePretty (depth + 1) v ++ writePrettyItems (depth + 1) rest
      ++ newline depth ++ [']']
  | .object [] => ['{', '}']
  | .object ((k, v) :: rest) =>
    '{' :: newline (depth + 1) ++ writeString k ++ [':', ' '] ++ writePretty (depth + 1) v
      ++ writePrettyFields (depth + 1) rest ++ newline depth ++ ['}']

/-- Further elements at a depth, each after a comma on a line of its own. -/
def writePrettyItems (depth : Nat) : List Value → List Char
  | [] => []
  | v :: rest => ',' :: newline depth ++ writePretty depth v ++ writePrettyItems depth rest

/-- Further fields at a depth, each after a comma on a line of its own. -/
def writePrettyFields (depth : Nat) : List (String × Value) → List Char
  | [] => []
  | (k, v) :: rest =>
    ',' :: newline depth ++ writeString k ++ [':', ' '] ++ writePretty depth v
      ++ writePrettyFields depth rest
end

/-- The text of a value laid out over lines. -/
def Value.pretty (v : Value) : String := String.ofList (writePretty 0 v)

end Json

end MqttSessions
