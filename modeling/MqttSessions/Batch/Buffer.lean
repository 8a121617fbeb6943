import MqttSessions.Message

/-! # Batches of inbound messages

Messages that come in are put into a **`Batch.Buffer`** and handed over together: a *batch* is
everything that is buffered, and no batch is empty. -/

namespace MqttSessions

namespace Batch

/-- Messages that have come in and have not been handed over. -/
structure Buffer where
  messages : List Message := []
  deriving DecidableEq, Repr

namespace Buffer

/-- No message. -/
def empty : Buffer := {}

/-- Puts a message at the end. -/
def enqueue (buffer : Buffer) (message : Message) : Buffer := ⟨buffer.messages ++ [message]⟩

/-- How many messages are buffered. -/
def pending (buffer : Buffer) : Nat := buffer.messages.length

/-- Takes everything; there is no batch if nothing is buffered. -/
def take (buffer : Buffer) : Option (List Message) × Buffer :=
  match buffer.messages with
  | [] => (none, buffer)
  | messages => (some messages, empty)

@[simp] theorem messages_empty : empty.messages = [] := rfl

@[simp] theorem messages_enqueue (buffer : Buffer) (message : Message) :
    (buffer.enqueue message).messages = buffer.messages ++ [message] := rfl

/-- A batch and what is left make up what was buffered. -/
theorem take_messages (buffer : Buffer) :
    buffer.take.1.getD [] ++ buffer.take.2.messages = buffer.messages := by
  cases buffer with
  | mk messages => cases messages <;> simp [take]

end Buffer

end Batch

end MqttSessions
