import MqttSessions.Connection
import MqttSessions.Session.Worker

/-! # How state, link and queues fit together

State and link are two machines that only hear of each other through two queues. A **`Stage`** says
which combinations of the state, the link, the requests queued for the worker and the outcomes queued
for the dispatcher can come about; requests and outcomes are the events of the connection that the
queued commands and reports stand for.

Each move of a party leads from a stage to a stage: a request of a caller (**`Stage.connectRequested`**
and **`Stage.disconnectRequested`**), a command taken by the worker (**`Stage.dialed`**,
**`Stage.failedToDial`** and **`Stage.released`**), an event of the link (**`Stage.acknowledged`**,
**`Stage.failed`** and **`Stage.severed`**) and an outcome that is dispatched
(**`Stage.dispatched`**). When both queues are empty, state and link agree (**`Stage.drained`**).
When a request is accepted, all requests of its kind have been answered (**`Stage.answered`**).

A worker that is stuck in a call takes nothing from its queue any more. What can come about then is
said by **`Frozen`**. -/

namespace MqttSessions

/-- While disconnecting only the end of the teardown is of interest: what is dispatched before it is
ignored. -/
theorem ConnectionState.ignored_of_disconnecting {event : ConnectionEvent}
    {outcomes : List ConnectionEvent} (before : .teardownComplete ∉ event :: outcomes) :
    (disconnecting.next? event).getD disconnecting = disconnecting ∧
      .teardownComplete ∉ outcomes := by
  have other : .teardownComplete ≠ event := List.ne_of_not_mem_cons before
  refine ⟨?_, List.not_mem_of_not_mem_cons before⟩
  cases event <;> first | rfl | exact absurd rfl other

/-- The request that an event of the connection goes back to. -/
def ConnectionEvent.cause : ConnectionEvent → ConnectionEvent
  | connectRequested | connectSucceeded | connectFailed | connectionLost => connectRequested
  | disconnectRequested | teardownComplete => disconnectRequested

open ConnectionState ConnectionEvent

/-- The combinations of state, link, queued requests and queued outcomes that can come about. -/
inductive Stage :
    ConnectionState → Link → List ConnectionEvent → List ConnectionEvent → Prop
  /-- Nothing is under way. -/
  | rest : Stage disconnected .idle [] []
  /-- A connection has been asked for. -/
  | asked : Stage connecting .idle [connectRequested] []
  /-- The attempt is under way. -/
  | dialing : Stage connecting .connecting [] []
  /-- The attempt has failed. -/
  | refused : Stage connecting .idle [] [connectFailed]
  /-- The attempt has succeeded. -/
  | reached : Stage connecting .up [] [connectSucceeded]
  /-- The attempt has succeeded, and the connection is lost already. -/
  | dropped : Stage connecting .idle [] [connectSucceeded, connectionLost]
  /-- There is a connection. -/
  | live : Stage connected .up [] []
  /-- The connection is lost. -/
  | lost : Stage connected .idle [] [connectionLost]
  /-- The request was taken back before the attempt. -/
  | recalled {outcomes : List ConnectionEvent} (before : teardownComplete ∉ outcomes) :
      Stage disconnecting .idle [connectRequested, disconnectRequested] outcomes
  /-- The connection or the attempt is to end. What is reported about it meanwhile is of no use. -/
  | parting {link : Link} {outcomes : List ConnectionEvent} (before : teardownComplete ∉ outcomes) :
      Stage disconnecting link [disconnectRequested] outcomes
  /-- The link has been torn down, which is the last that is reported. -/
  | parted {stale outcomes : List ConnectionEvent} (before : teardownComplete ∉ stale)
      (last : outcomes = stale ++ [teardownComplete]) : Stage disconnecting .idle [] outcomes

namespace Stage

variable {state : ConnectionState} {link : Link} {requests outcomes : List ConnectionEvent}

/-! ## Callers -/

/-- While disconnected nothing is queued and there is no link. -/
theorem of_disconnected (stage : Stage disconnected link requests outcomes) :
    link = .idle ∧ requests = [] ∧ outcomes = [] := by
  cases stage
  exact ⟨rfl, rfl, rfl⟩

/-- A request to connect that is accepted. -/
theorem connectRequested (stage : Stage state link requests outcomes) {state' : ConnectionState}
    (legal : state.next? .connectRequested = some state') :
    Stage state' link (requests ++ [.connectRequested]) outcomes := by
  cases stage <;> cases legal
  exact .asked

/-- A request to disconnect that is accepted. -/
theorem disconnectRequested (stage : Stage state link requests outcomes) {state' : ConnectionState}
    (legal : state.next? .disconnectRequested = some state') :
    Stage state' link (requests ++ [.disconnectRequested]) outcomes := by
  cases stage <;> cases legal
  · exact .recalled (by simp)
  all_goals exact .parting (by simp)

/-! ## The worker -/

/-- A request to connect is taken only when there is no link. -/
theorem idle_of_connect (stage : Stage state link (.connectRequested :: requests) outcomes) :
    link = .idle := by
  cases stage <;> rfl

/-- The worker has started an attempt. -/
theorem dialed (stage : Stage state link (.connectRequested :: requests) outcomes) :
    Stage state .connecting requests outcomes := by
  cases stage with
  | asked => exact .dialing
  | recalled before => exact .parting before

/-- The worker could not start an attempt. -/
theorem failedToDial (stage : Stage state link (.connectRequested :: requests) outcomes) :
    Stage state .idle requests (outcomes ++ [.connectFailed]) := by
  cases stage with
  | asked => exact .refused
  | recalled before => exact .parting (by simpa using before)

/-- The worker has torn the link down. -/
theorem released (stage : Stage state link (.disconnectRequested :: requests) outcomes) :
    Stage state .idle requests (outcomes ++ [.teardownComplete]) := by
  cases stage with
  | parting before => exact .parted before rfl

/-- The link has been acknowledged. -/
theorem acknowledged (stage : Stage state .connecting requests outcomes) :
    Stage state .up requests (outcomes ++ [.connectSucceeded]) := by
  cases stage with
  | dialing => exact .reached
  | parting before => exact .parting (by simpa using before)

/-- The attempt has failed. -/
theorem failed (stage : Stage state .connecting requests outcomes) :
    Stage state .idle requests (outcomes ++ [.connectFailed]) := by
  cases stage with
  | dialing => exact .refused
  | parting before => exact .parting (by simpa using before)

/-- The connection has been lost. -/
theorem severed (stage : Stage state .up requests outcomes) :
    Stage state .idle requests (outcomes ++ [.connectionLost]) := by
  cases stage with
  | reached => exact .dropped
  | live => exact .lost
  | parting before => exact .parting (by simpa using before)

/-! ## The dispatcher -/

/-- An outcome is applied if it is legal, and ignored if it is not. -/
theorem dispatched {event : ConnectionEvent} (stage : Stage state link requests (event :: outcomes)) :
    Stage ((state.next? event).getD state) link requests outcomes := by
  cases stage with
  | refused => exact .rest
  | reached => exact .live
  | dropped => exact .lost
  | lost => exact .rest
  | recalled before =>
    obtain ⟨ignored, later⟩ := ignored_of_disconnecting before
    rw [ignored]
    exact .recalled later
  | parting before =>
    obtain ⟨ignored, later⟩ := ignored_of_disconnecting before
    rw [ignored]
    exact .parting later
  | @parted stale _ before last =>
    -- the end of the teardown is either what is dispatched or still behind it
    cases stale with
    | nil =>
      obtain ⟨rfl, rfl⟩ := List.cons.inj last
      exact .rest
    | cons first rest =>
      obtain ⟨rfl, rfl⟩ := List.cons.inj last
      obtain ⟨ignored, later⟩ := ignored_of_disconnecting before
      rw [ignored]
      exact .parted later rfl

/-- When nothing is queued, state and link agree. -/
theorem drained (stage : Stage state link [] []) :
    state = .disconnected ∧ link = .idle ∨ state = .connecting ∧ link = .connecting ∨
      state = .connected ∧ link = .up := by
  cases stage with
  | rest => exact .inl ⟨rfl, rfl⟩
  | dialing => exact .inr (.inl ⟨rfl, rfl⟩)
  | live => exact .inr (.inr ⟨rfl, rfl⟩)
  | parted before last => simp at last

/-! ## Requests that have been answered -/

/-- When a request of a caller is accepted, nothing is queued any more that goes back to an earlier
request of its kind, and there is no link if it is to be a new one. -/
theorem answered (stage : Stage state link requests outcomes) {event : ConnectionEvent}
    (asked : event = .connectRequested ∨ event = .disconnectRequested)
    {state' : ConnectionState} (legal : state.next? event = some state') :
    (∀ queued ∈ requests, queued.cause ≠ event) ∧ (∀ queued ∈ outcomes, queued.cause ≠ event) ∧
      (event = .connectRequested → link = .idle) := by
  -- a stage in which the event is legal holds nothing of its kind
  rcases asked with rfl | rfl <;> cases stage <;> cases legal
  all_goals simp [cause]

end Stage

/-! ## A worker that is stuck -/

/-- The combinations of state and queued outcomes that can come about once the worker is stuck in a
call. No more outcomes come in, so the connection is never ended. -/
inductive Frozen : ConnectionState → List ConnectionEvent → Prop
  /-- The attempt is under way for good. -/
  | dialing : Frozen connecting []
  /-- The attempt has succeeded. -/
  | reached : Frozen connecting [connectSucceeded]
  /-- There is a connection. -/
  | live : Frozen connected []
  /-- The connection or the attempt is to end, but never will. -/
  | parting {outcomes : List ConnectionEvent} (before : teardownComplete ∉ outcomes) :
      Frozen disconnecting outcomes

namespace Frozen

variable {state : ConnectionState} {link : Link} {requests outcomes : List ConnectionEvent}

/-- The worker gets stuck over a link. -/
theorem of_active (stage : Stage state link requests outcomes) (active : link ≠ .idle) :
    Frozen state outcomes := by
  cases stage with
  | dialing => exact .dialing
  | reached => exact .reached
  | live => exact .live
  | parting before => exact .parting before
  | rest | asked | refused | dropped | lost | recalled | parted => exact absurd rfl active

/-- The worker gets stuck in an attempt. -/
theorem of_connect (stage : Stage state link (.connectRequested :: requests) outcomes) :
    Frozen state outcomes := by
  cases stage with
  | asked => exact .dialing
  | recalled before => exact .parting before

/-- Only a request to disconnect is accepted still. -/
theorem requested (frozen : Frozen state outcomes) {event : ConnectionEvent}
    (asked : event = .connectRequested ∨ event = .disconnectRequested) {state' : ConnectionState}
    (legal : state.next? event = some state') :
    Frozen state' outcomes ∧ ∀ queued ∈ outcomes, queued.cause ≠ event := by
  rcases asked with rfl | rfl <;> cases frozen <;> cases legal
  all_goals exact ⟨.parting (by simp), by simp [cause]⟩

/-- An outcome is applied if it is legal, and ignored if it is not. -/
theorem dispatched {event : ConnectionEvent} (frozen : Frozen state (event :: outcomes)) :
    Frozen ((state.next? event).getD state) outcomes := by
  cases frozen with
  | reached => exact .live
  | parting before =>
    obtain ⟨ignored, later⟩ := ignored_of_disconnecting before
    rw [ignored]
    exact .parting later

end Frozen

end MqttSessions
