import MqttSessions.Json.Tree

/-! # Reading records out of JSON trees

A record may be written as an object, whose known keys stand at most once and whose unknown keys
are skipped, or as a list of its fields in their order, of which the last ones may be missing.
Either way the fields are read in the order of the text and the first fault decides.

Main definitions:

* **`Json.Fault`**: a text of the wrong form, or a value that its domain refuses;
* **`Json.Field`**: a field of a record under construction;
* **`Json.readRecord`**: a record read field by field. -/

namespace MqttSessions

namespace Json

/-- Why a tree does not give what is wanted: its form is wrong, or its domain refuses a value. -/
inductive Fault (Cause : Type) where
  | malformed
  | refused (cause : Cause)
  deriving DecidableEq, Repr

variable {Cause : Type} {α σ : Type}

/-- The outcome of reading a tree. -/
abbrev Reading (Cause : Type) (α : Type) := Except (Fault Cause) α

/-! ## Single values -/

/-- A text. -/
def readText : Tree → Reading Cause String
  | .string pieces =>
    match text? pieces with
    | some s => .ok s
    | none => .error .malformed
  | _ => .error .malformed

/-- A natural number up to a bound, written with digits only. -/
def readNatural (bound : Nat) : Tree → Reading Cause Nat
  | .natural n => if n ≤ bound then .ok n else .error .malformed
  | _ => .error .malformed

/-- A truth value. -/
def readBool : Tree → Reading Cause Bool
  | .bool b => .ok b
  | _ => .error .malformed

/-- A value that may be null. -/
def readOptional (read : Tree → Reading Cause α) : Tree → Reading Cause (Option α)
  | .null => .ok none
  | tree => (read tree).map some

/-- The values of a list. -/
def readItemsWith (read : Tree → Reading Cause α) : Items → Reading Cause (List α)
  | .closed => .ok []
  | .broken => .error .malformed
  | .cons item rest =>
    match read item with
    | .error fault => .error fault
    | .ok value =>
      match readItemsWith read rest with
      | .error fault => .error fault
      | .ok values => .ok (value :: values)

/-- A list of values. -/
def readList (read : Tree → Reading Cause α) : Tree → Reading Cause (List α)
  | .array items => readItemsWith read items
  | _ => .error .malformed

/-! ## Records -/

/-- A field of a record under construction: its key, and how its value enters the record. -/
structure Field (Cause σ : Type) where
  key : String
  enter : Tree → σ → Reading Cause σ

/-- The field that fills an empty slot: a slot that is filled already is a fault. -/
def Field.slot (key : String) (get : σ → Option α) (set : α → σ → σ)
    (read : Tree → Reading Cause α) : Field Cause σ where
  key := key
  enter tree record :=
    match get record with
    | some _ => .error .malformed
    | none => (read tree).map (set · record)

/-- Reads the members of an object in order. -/
def readMembersWith (fields : List (Field Cause σ)) : Members → σ → Reading Cause σ
  | .closed, record => .ok record
  | .broken, _ => .error .malformed
  | .cons key value rest, record =>
    match text? key with
    | none => .error .malformed
    | some key =>
      match fields.find? (·.key == key) with
      | some field =>
        match field.enter value record with
        | .error fault => .error fault
        | .ok record => readMembersWith fields rest record
      | none =>
        if value.isSound then readMembersWith fields rest record else .error .malformed

/-- Reads the elements of a list as fields in order. -/
def readPositions : List (Field Cause σ) → Items → σ → Reading Cause σ
  | _, .closed, record => .ok record
  | _, .broken, _ => .error .malformed
  | [], .cons _ _, _ => .error .malformed
  | field :: fields, .cons item rest, record =>
    match field.enter item record with
    | .error fault => .error fault
    | .ok record => readPositions fields rest record

/-- Reads a record, starting from an empty one. -/
def readRecord (fields : List (Field Cause σ)) (empty : σ) : Tree → Reading Cause σ
  | .object members => readMembersWith fields members empty
  | .array items => readPositions fields items empty
  | _ => .error .malformed

/-- Reads a whole text: a value with nothing but white space after it. -/
def readWhole (read : Tree → Reading Cause α) : Tree × Bool → Reading Cause α
  | (tree, ended) =>
    match read tree with
    | .error fault => .error fault
    | .ok value => if ended then .ok value else .error .malformed

end Json

end MqttSessions
