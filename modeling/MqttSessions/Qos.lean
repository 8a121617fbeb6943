/-! # Delivery guarantees

How often a message is delivered: at most once, at least once, or exactly once. On the wire and in
documents a guarantee is its level, 0, 1 or 2. -/

namespace MqttSessions

/-- A delivery guarantee. -/
inductive Qos where
  | atMostOnce
  | atLeastOnce
  | exactlyOnce
  deriving DecidableEq, Repr, Inhabited

namespace Qos

/-- The level of a guarantee. -/
def level : Qos → Nat
  | atMostOnce => 0
  | atLeastOnce => 1
  | exactlyOnce => 2

/-- The guarantee of a level. -/
def ofLevel? : Nat → Option Qos
  | 0 => some atMostOnce
  | 1 => some atLeastOnce
  | 2 => some exactlyOnce
  | _ => none

@[simp] theorem ofLevel?_level (qos : Qos) : ofLevel? qos.level = some qos := by
  cases qos <;> rfl

/-- A level is written as its number. -/
def text (qos : Qos) : String := toString qos.level

end Qos

/-- A level that is no guarantee's. -/
structure InvalidQos where
  level : Nat
  deriving DecidableEq, Repr

/-- The wording of an invalid level. -/
def InvalidQos.message (invalid : InvalidQos) : String :=
  s!"Invalid QoS level: {invalid.level} (expected 0, 1 or 2)"

end MqttSessions
