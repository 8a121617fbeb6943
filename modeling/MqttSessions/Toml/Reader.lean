import MqttSessions.Toml.Node
import MqttSessions.Toml.Number
import MqttSessions.Toml.Text

/-! # Reading TOML documents

A document is read line by line into statements, and these are built into a tree. Lists and inline
tables may be nested up to a limit, and a key may have as many parts.

Main definition: **`Toml.read?`**, the tree of a text that is a document. -/

namespace MqttSessions

namespace Toml

/-- The depth that values and keys have to stay below. -/
def depthLimit : Nat := 80

/-! ## Keys -/

/-- The parts of a key, with blanks around each. -/
def keyParts : Nat → Scan (List String)
  | 0 => refuse
  | fuel + 1 => do
    blanks
    let part ← keyPart
    blanks
    match ← peek with
    | some '.' =>
      mark '.'
      return part :: (← keyParts fuel)
    | _ => return [part]

/-- A key: the path of tables it runs through, and its last part. -/
def key : Scan (List String × String) := do
  let parts ← fun cs => keyParts (cs.length + 1) cs
  match parts.getLast? with
  | some last => if parts.length < depthLimit then return (parts.dropLast, last) else refuse
  | none => refuse

/-! ## Values -/

/-- A truth value. -/
def truth : Scan Node :=
  (do
    word ['t', 'r', 'u', 'e']
    return .bool true)
  <|> (do
    word ['f', 'a', 'l', 's', 'e']
    return .bool false)

/-- A number or a time. -/
def quantity : Scan Node :=
  (do
    moment
    return .moment)
  <|> (do
    float
    return .float)
  <|> (do return .integer (← integer))

mutual
/-- A value inside so many others. -/
def value : (fuel depth : Nat) → Scan Node
  | 0, _ => refuse
  | fuel + 1, depth => do
    match ← peek with
    | some '"' => return .text (← text)
    | some '\'' => return .text (← text)
    | some '[' =>
      if depthLimit ≤ depth + 1 then refuse
      else
        mark '['
        gap
        match ← peek with
        | some ']' =>
          mark ']'
          return .array []
        | _ => return .array (← items fuel (depth + 1))
    | some '{' =>
      if depthLimit ≤ depth + 1 then refuse
      else
        mark '{'
        blanks
        match ← peek with
        | some '}' =>
          mark '}'
          return .inline []
        | _ => return .inline (← members fuel (depth + 1) [])
    | some 't' => truth
    | some 'f' => truth
    | _ => quantity

/-- The elements of a list from the next one on, up to its closing bracket. -/
def items : (fuel depth : Nat) → Scan (List Node)
  | 0, _ => refuse
  | fuel + 1, depth => do
    gap
    let item ← value fuel depth
    gap
    match ← peek with
    | some ']' =>
      mark ']'
      return [item]
    | _ =>
      mark ','
      gap
      match ← peek with
      | some ']' =>
        mark ']'
        return [item]
      | _ => return item :: (← items fuel depth)

/-- The members of an inline table from the next one on, up to its closing brace, added to those
before. -/
def members : (fuel depth : Nat) → Entries → Scan Entries
  | 0, _, _ => refuse
  | fuel + 1, depth, entries => do
    let (path, last) ← key
    mark '='
    blanks
    let v ← value fuel depth
    blanks
    let entries ← assign last v path entries
    match ← peek with
    | some '}' =>
      mark '}'
      return entries
    | _ =>
      mark ','
      members fuel depth entries
end

/-! ## Documents -/

/-- An assignment on a line of its own. -/
def assignment : Scan Statement := do
  let (path, last) ← key
  mark '='
  blanks
  let v ← fun cs => value (2 * cs.length + 2) 0 cs
  lineRest
  return .assignment ⟨path, last, v⟩

/-- The header of a table, or of one more table of a list, on a line of its own. -/
def header : Scan Statement := do
  mark '['
  match ← peek with
  | some '[' =>
    mark '['
    let (path, last) ← key
    word [']', ']']
    lineRest
    return .element path last
  | _ =>
    let (path, last) ← key
    mark ']'
    lineRest
    return .table path last

/-- The statements of a document; `fuel` bounds the number of lines. -/
def statements : Nat → Scan (List Statement)
  | 0 => refuse
  | fuel + 1 => do
    blanks
    match ← peek with
    | none => return []
    | some '#' =>
      comment
      lineEnd
      statements fuel
    | some '\n' | some '\r' =>
      newline
      statements fuel
    | some '[' => return (← header) :: (← statements fuel)
    | some _ => return (← assignment) :: (← statements fuel)

/-- The characters of a document without the mark that may stand before them. -/
def dropMark : List Char → List Char
  | '\uFEFF' :: rest => rest
  | cs => cs

/-- The tree of a text that is a document. -/
def read? (s : String) : Option Entries := do
  let cs := dropMark s.toList
  let (statements, _) ← statements (cs.length + 1) cs
  build? statements

end Toml

end MqttSessions
