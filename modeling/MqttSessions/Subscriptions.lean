import MqttSessions.Qos
import MqttSessions.Topic

/-! # Subscriptions

A **`Subscriptions`** value is a list of subscriptions in the order in which they were made, at most
one for a topic filter. Each has a display color and a flag that says whether it is shown. -/

namespace MqttSessions

/-- A subscription to a topic filter. -/
structure Subscription where
  topic : String
  qos : Qos
  color : String
  enabled : Bool
  deriving DecidableEq, Repr

/-- Subscriptions in the order in which they were made. -/
structure Subscriptions where
  entries : List Subscription := []
  deriving DecidableEq, Repr

namespace Subscriptions

/-- No subscription. -/
def empty : Subscriptions := {}

/-- The subscriptions, first made first. -/
def toList (subs : Subscriptions) : List Subscription := subs.entries

/-- The subscription to a topic filter. -/
def get? (subs : Subscriptions) (topic : String) : Option Subscription :=
  subs.entries.find? (·.topic == topic)

/-- Whether there is a subscription to a topic filter. -/
def contains (subs : Subscriptions) (topic : String) : Bool :=
  subs.entries.any (·.topic == topic)

/-- How many subscriptions there are. -/
def size (subs : Subscriptions) : Nat := subs.entries.length

/-- Adds an enabled subscription at the end; `none` if there is one to the same filter. -/
def add? (subs : Subscriptions) (topic : String) (qos : Qos) (color : String) :
    Option Subscriptions :=
  if subs.contains topic then none
  else some ⟨subs.entries ++ [⟨topic, qos, color, true⟩]⟩

/-- Removes the first entry with a topic filter. -/
def eraseTopic (topic : String) : List Subscription → List Subscription
  | [] => []
  | entry :: rest => if entry.topic == topic then rest else entry :: eraseTopic topic rest

/-- Removes the subscription to a topic filter; `none` if there is none. -/
def remove? (subs : Subscriptions) (topic : String) : Option Subscriptions :=
  if subs.contains topic then some ⟨eraseTopic topic subs.entries⟩ else none

/-- Sets the flag of the first entry with a topic filter. -/
def flagTopic (topic : String) (enabled : Bool) : List Subscription → List Subscription
  | [] => []
  | entry :: rest =>
    if entry.topic == topic then { entry with enabled } :: rest
    else entry :: flagTopic topic enabled rest

/-- Sets the flag of the subscription to a topic filter; `none` if there is none. -/
def setEnabled? (subs : Subscriptions) (topic : String) (enabled : Bool) : Option Subscriptions :=
  if subs.contains topic then some ⟨flagTopic topic enabled subs.entries⟩ else none

/-- The color of a topic name: that of the first enabled subscription that accepts it. -/
def color? (subs : Subscriptions) (name : String) : Option String :=
  (subs.entries.find? fun entry => entry.enabled && Topic.accepts entry.topic name).map (·.color)

@[simp] theorem toList_empty : empty.toList = [] := rfl

@[simp] theorem size_eq_length (subs : Subscriptions) : subs.size = subs.toList.length := rfl

end Subscriptions

end MqttSessions
