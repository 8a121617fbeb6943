import MqttSessions.Text.Utf8

/-! # What a JSON text says, up to its first fault

Reading a JSON text yields a **`Json.Tree`**: the values in the order of the text, and a mark at
the place where the text stops being JSON. A reader of such a tree meets faults of form and faults
of content in the order of the text, so the first one decides.

A string is kept as its **`Json.Piece`**s, so that a text can be skipped although it is no sequence
of characters: octets that are not UTF-8 and half a surrogate pair are found only by
**`Json.text?`**. -/

namespace MqttSessions

namespace Json

/-! ## Strings as written -/

/-- A piece of a string: a character, an escaped sixteen-bit unit, or octets that are not UTF-8. -/
inductive Piece where
  | char (c : Char)
  | escaped (unit : Nat)
  | gap
  deriving DecidableEq, Repr

/-- Whether a sixteen-bit unit is the first half of a pair. -/
def isHighHalf (n : Nat) : Bool := 0xD800 ≤ n && n ≤ 0xDBFF

/-- Whether a sixteen-bit unit is the second half of a pair. -/
def isLowHalf (n : Nat) : Bool := 0xDC00 ≤ n && n ≤ 0xDFFF

/-- The character that a pair of halves stands for. -/
def joinHalves (high low : Nat) : Char :=
  Char.ofNat (0x10000 + (high - 0xD800) * 0x400 + (low - 0xDC00))

/-- The characters of a string, if it is a sequence of characters. -/
def chars? : List Piece → Option (List Char)
  | [] => some []
  | .gap :: _ => none
  | .char c :: rest => (chars? rest).map (c :: ·)
  | .escaped high :: .escaped low :: rest =>
    if isHighHalf high then
      if isLowHalf low then (chars? rest).map (joinHalves high low :: ·) else none
    else if isLowHalf high then none
    else (chars? (.escaped low :: rest)).map (Char.ofNat high :: ·)
  | .escaped unit :: rest =>
    if isHighHalf unit || isLowHalf unit then none
    else (chars? rest).map (Char.ofNat unit :: ·)

/-- The text of a string, if it is a sequence of characters. -/
def text? (pieces : List Piece) : Option String := (chars? pieces).map String.ofList

/-! ## Trees -/

mutual
/-- A value of a JSON text; `fault` where the text has none. A number is `natural` if it is written
with digits only. -/
inductive Tree where
  | null
  | bool (b : Bool)
  | natural (n : Nat)
  | number (text : List Char)
  | string (pieces : List Piece)
  | array (items : Items)
  | object (members : Members)
  | fault
  deriving Repr

/-- The elements of a list; `broken` where the text does not go on as a list. -/
inductive Items where
  | closed
  | broken
  | cons (item : Tree) (rest : Items)
  deriving Repr

/-- The members of an object; `broken` where the text does not go on as an object. -/
inductive Members where
  | closed
  | broken
  | cons (key : List Piece) (value : Tree) (rest : Members)
  deriving Repr
end

mutual
/-- Whether a value has no fault in it. -/
def Tree.isSound : Tree → Bool
  | .fault => false
  | .array items => items.isSound
  | .object members => members.isSound
  | _ => true

/-- Whether a list is closed and no element has a fault in it. -/
def Items.isSound : Items → Bool
  | .closed => true
  | .broken => false
  | .cons item rest => item.isSound && rest.isSound

/-- Whether an object is closed and no value has a fault in it. -/
def Members.isSound : Members → Bool
  | .closed => true
  | .broken => false
  | .cons _ value rest => value.isSound && rest.isSound
end

end Json

end MqttSessions
