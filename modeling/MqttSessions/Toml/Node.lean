/-! # TOML documents as trees

A document is a sequence of **`Toml.Statement`**s: the header of a table, the header of one more table
of a list, and an assignment. Its tree is built statement by statement. A key is assigned once; a
table is made by one header, or by the keys that run through it, and neither adds to a table of the
other kind; but a table that is only known from the headers of its parts may still get a header of
its own.

Main definitions: **`Toml.Node`** and **`Toml.build?`**, the tree of a sequence of statements. -/

namespace MqttSessions

namespace Toml

/-- What has made a table: its own header, the header of a part of it, or a key that runs through
it. -/
inductive Origin where
  | header
  | part
  | key
  deriving DecidableEq, Repr

/-- A value in a document. What a number that is not whole and what a date says is not kept. -/
inductive Node where
  | text (s : String)
  | integer (n : Int)
  | float
  | bool (b : Bool)
  | moment
  | array (items : List Node)
  | inline (entries : List (String × Node))
  | table (origin : Origin) (entries : List (String × Node))
  | tables (elements : List (List (String × Node)))
  deriving Repr

/-- The entries of a table, in the order in which they came. -/
abbrev Entries := List (String × Node)

/-- The entry of a key. -/
def find? (entries : Entries) (key : String) : Option Node :=
  (entries.find? fun entry => entry.1 == key).map (·.2)

/-- Puts a value in the place of the one with the same key, else at the end. -/
def put (key : String) (node : Node) : Entries → Entries
  | [] => [(key, node)]
  | (other, old) :: rest =>
    if other == key then (key, node) :: rest else (other, old) :: put key node rest

/-! ## Assignments -/

/-- Assigns a key that is not there yet. -/
def assignHere (key : String) (value : Node) (entries : Entries) : Option Entries :=
  if (find? entries key).isSome then none else some (entries ++ [(key, value)])

/-- Assigns a key at the end of a path of keys. The tables on the way are made where they are not
there; the last one must have been made by a key, and none by a header of its own. -/
def assign (key : String) (value : Node) : List String → Entries → Option Entries
  | [], entries => assignHere key value entries
  | step :: path, entries => do
    let child ← match find? entries step with
      | none => (assign key value path []).map (.table .key ·)
      | some (.table origin inner) =>
        if origin = .header || (path.isEmpty && origin ≠ .key) then none
        else (assign key value path inner).map (.table origin ·)
      | some (.tables elements) =>
        if path.isEmpty then none
        else (assign key value path (elements.getLast?.getD [])).map fun inner =>
          .tables (elements.dropLast ++ [inner])
      | some _ => none
    return put step child entries

/-- A key and its value: the path of tables, the key in the last one, and what it gets. -/
structure Assignment where
  path : List String
  key : String
  value : Node
  deriving Repr

/-- The entries after some assignments. -/
def assignAll (assignments : List Assignment) (entries : Entries) : Option Entries :=
  assignments.foldlM (fun entries a => assign a.key a.value a.path entries) entries

/-! ## Headers -/

/-- Changes the entry at the end of a path of headers. The tables on the way are made where they
are not there; of a list of tables the last one is meant. -/
def changeAt (change : Option Node → Option Node) (key : String) :
    List String → Entries → Option Entries
  | [], entries => do
    let node ← change (find? entries key)
    return put key node entries
  | step :: path, entries => do
    let child ← match find? entries step with
      | none => (changeAt change key path []).map (.table .part ·)
      | some (.table origin inner) => (changeAt change key path inner).map (.table origin ·)
      | some (.tables elements) =>
        (changeAt change key path (elements.getLast?.getD [])).map fun inner =>
          .tables (elements.dropLast ++ [inner])
      | some _ => none
    return put step child entries

/-- A statement of a document. -/
inductive Statement where
  | table (path : List String) (key : String)
  | element (path : List String) (key : String)
  | assignment (assignment : Assignment)
  deriving Repr

/-- The table that a header opens where something may be already: nothing, or a table that is only
known from its parts. -/
def opened? : Option Node → Option Entries
  | none => some []
  | some (.table .part entries) => some entries
  | some _ => none

/-- The list that a header extends where something may be already: nothing, or a list of tables. -/
def extended? : Option Node → Option (List Entries)
  | none => some []
  | some (.tables elements) => some elements
  | some _ => none

/-- The assignments at the front of some statements, and the statements from the next header on. -/
def splitSection : List Statement → List Assignment × List Statement
  | .assignment a :: rest =>
    let (section_, left) := splitSection rest
    (a :: section_, left)
  | rest => ([], rest)

/-- Adds the sections of some statements to a tree; `fuel` bounds their number. -/
def addSections : (fuel : Nat) → List Statement → Entries → Option Entries
  | 0, _, entries => some entries
  | fuel + 1, statements, entries =>
    let (assignments, rest) := splitSection (statements.drop 1)
    match statements.head? with
    | none => some entries
    | some (.table path key) => do
      let entries ← changeAt
        (fun old => do
          let inner ← assignAll assignments (← opened? old)
          return .table .header inner)
        key path entries
      addSections fuel rest entries
    | some (.element path key) => do
      let entries ← changeAt
        (fun old => do
          let elements ← extended? old
          let inner ← assignAll assignments []
          return .tables (elements ++ [inner]))
        key path entries
      addSections fuel rest entries
    | some (.assignment _) => none

/-- The tree of a sequence of statements, if they go together. -/
def build? (statements : List Statement) : Option Entries := do
  let (assignments, rest) := splitSection statements
  let entries ← assignAll assignments []
  addSections statements.length rest entries

end Toml

end MqttSessions
