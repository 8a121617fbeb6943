/-! # Feeds

A **`Feed`** announces items to any number of readers. It keeps only the last items, as many as its
capacity rounded up to a power of two; a reader that falls behind further than that finds out how
many items it has missed, once, and goes on with the oldest item that is left. -/

namespace MqttSessions

/-- The least power of two that is at least a number, if `fuel` is at least that number. -/
def powerOfTwoFrom (n : Nat) : (fuel power : Nat) → Nat
  | 0, power => power
  | fuel + 1, power => if n ≤ power then power else powerOfTwoFrom n fuel (2 * power)

/-- The items announced so far and how many of them are kept. -/
structure Feed (α : Type) where
  capacity : Nat
  sent : Array α := #[]
  deriving Repr

/-- What a reader gets from a feed. -/
inductive Feed.Reading (α : Type) where
  | item (a : α)
  | missed (count : Nat)
  deriving DecidableEq, Repr

namespace Feed

variable {α : Type}

/-- How many items a feed of a wanted capacity keeps. -/
def kept (wanted : Nat) : Nat := powerOfTwoFrom wanted wanted 1

/-- A feed of a wanted capacity, at least one, before its first item. -/
def ofCapacity (wanted : Nat) : Feed α := ⟨kept (max wanted 1), #[]⟩

/-- Announces an item. -/
def push (feed : Feed α) (a : α) : Feed α := { feed with sent := feed.sent.push a }

/-- The position of a reader that starts now. -/
def position (feed : Feed α) : Nat := feed.sent.size

/-- The items announced so far, oldest first. -/
def toList (feed : Feed α) : List α := feed.sent.toList

/-- The next thing that a reader at a position gets, and its position afterwards; `none` if it has
read everything. -/
def next? (feed : Feed α) (position : Nat) : Option (Reading α × Nat) :=
  let oldest := feed.sent.size - feed.capacity
  if position < oldest then some (.missed (oldest - position), oldest)
  else feed.sent[position]?.map fun a => (.item a, position + 1)

/-- All that a reader at a position gets. -/
def read (feed : Feed α) (position : Nat) : List (Reading α) :=
  let oldest := feed.sent.size - feed.capacity
  if position < oldest then
    .missed (oldest - position) :: ((feed.toList.drop oldest).map .item)
  else (feed.toList.drop position).map .item

@[simp] theorem toList_push (feed : Feed α) (a : α) :
    (feed.push a).toList = feed.toList ++ [a] := by
  simp [push, toList]

@[simp] theorem position_push (feed : Feed α) (a : α) :
    (feed.push a).position = feed.position + 1 := by
  simp [push, position]

@[simp] theorem capacity_push (feed : Feed α) (a : α) : (feed.push a).capacity = feed.capacity :=
  rfl

end Feed

end MqttSessions
