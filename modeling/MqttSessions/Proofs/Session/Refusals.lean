import MqttSessions.Proofs.Session.Requests

/-! # What a refused request leaves behind

A request that is refused should leave the session as it was. Asking for a connection or for its end
is another matter, since it ends in the disconnected state when no worker is left. This module is
about the requests that stand for no event of the connection: subscribing, unsubscribing, publishing
and setting a flag.

* **`Session.refused_unchanged_iff`**: all but one of their refusals leave no trace. To unsubscribe
  when no worker is left is refused, and forgets the subscription all the same;
* **`Session.refused_unsubscribe_forgets`**: a session in which this happens, after a publication has
  brought its worker down. -/

namespace MqttSessions

namespace Session

variable {τ : Type}

/-- **Unsubscribing is refused** without effect, or because no worker is left, and then the
subscription is gone although nobody was asked to end it. -/
theorem unsubscribe_refused {s : Session τ} {topic : String} {failure : SessionFailure}
    (refused : (s.unsubscribe topic).1 = .error failure) :
    failure ≠ .workerUnavailable ∧ (s.unsubscribe topic).2 = s ∨
      failure = .workerUnavailable ∧ s.state = .connected ∧ s.worker.footing = .stopped ∧
        ∃ left, s.subscriptions.remove? topic = some left ∧
          (s.unsubscribe topic).2 = { s with subscriptions := left } := by
  unfold unsubscribe at refused ⊢
  cases valid : Topic.checkFilter topic with
  | error fault =>
    rw [valid] at refused
    obtain rfl := Except.error.inj refused
    exact .inl ⟨by simp, rfl⟩
  | ok =>
    rw [valid] at refused
    by_cases connected : s.state = .connected
    · have accepts : (!s.state.acceptsCommands) = false := by
        simp [connected, ConnectionState.acceptsCommands]
      simp only [accepts, Bool.false_eq_true, if_false] at refused ⊢
      cases removed : s.subscriptions.remove? topic with
      | none =>
        simp only [removed] at refused
        obtain rfl := Except.error.inj refused
        exact .inl ⟨by simp, rfl⟩
      | some left =>
        simp only [removed] at refused
        by_cases stopped : s.worker.footing = .stopped
        · have unsent := send?_of_stopped (s := { s with subscriptions := left }) stopped
            (.unsubscribe topic)
          simp only [unsent] at refused ⊢
          obtain rfl := Except.error.inj refused
          exact .inr ⟨rfl, connected, stopped, left, rfl, rfl⟩
        · -- a worker that is left takes the command
          have sent := send?_of_ne_stopped (s := { s with subscriptions := left }) stopped
            (.unsubscribe topic)
          simp only [sent] at refused
          cases refused
    · have rejects : (!s.state.acceptsCommands) = true := by
        simp [connected, ConnectionState.acceptsCommands]
      simp only [rejects, if_true] at refused ⊢
      obtain rfl := Except.error.inj refused
      exact .inl ⟨by simp, trivial⟩

/-- Subscribing, publishing and setting a flag leave no trace when they are refused. -/
theorem unchanged_of_refused {s : Session τ} {request : Request} {failure : SessionFailure}
    (refused : (s.ask request).1 = .error failure) (silent : request.event? = none)
    (other : ∀ topic, request ≠ .unsubscribe topic) : (s.ask request).2 = s := by
  cases request with
  | connect => cases silent
  | disconnect => cases silent
  | unsubscribe topic => exact absurd rfl (other topic)
  | clearHistory => cases refused
  | subscribe topic qos color =>
    rcases subscribe_cases s topic qos color with ⟨_, made⟩ | ⟨-, -, -, _, -, made⟩
    · rw [ask, made]
    · rw [ask, made] at refused
      cases refused
  | publish topic payload qos retain =>
    rcases publish_cases s topic payload qos retain with ⟨_, made⟩ | ⟨-, -, -, made⟩
    · rw [ask, made]
    · rw [ask, made] at refused
      cases refused
  | setEnabled topic enabled =>
    simp only [ask, setEnabled] at refused ⊢
    split at refused
    · cases refused
    · rfl

/-- **What a refused request leaves behind.** Whatever the session, a refusal to subscribe, to
unsubscribe, to publish or to set a flag leaves it exactly as it was, unless it is a request to
unsubscribe for which no worker was left. Then the session is connected, its worker has stopped, the
subscription is removed, and all else is as it was. -/
theorem refused_unchanged_iff {s : Session τ} {request : Request} {failure : SessionFailure}
    (silent : request.event? = none) (refused : (s.ask request).1 = .error failure) :
    ((s.ask request).2 = s ↔
        ¬∃ topic, request = .unsubscribe topic ∧ failure = .workerUnavailable) ∧
      ∀ topic, request = .unsubscribe topic → failure = .workerUnavailable →
        s.state = .connected ∧ s.worker.footing = .stopped ∧
          ∃ left, s.subscriptions.remove? topic = some left ∧
            (s.ask request).2 = { s with subscriptions := left } := by
  by_cases unsubscribes : ∃ topic, request = .unsubscribe topic
  · obtain ⟨topic, rfl⟩ := unsubscribes
    rcases unsubscribe_refused refused with ⟨available, same⟩ | ⟨rfl, connected, stopped, left,
      removes, made⟩
    · refine ⟨⟨?_, fun _ => same⟩, fun _ _ unavailable => absurd unavailable available⟩
      rintro - ⟨_, -, unavailable⟩
      exact available unavailable
    · constructor
      · refine ⟨fun same => ?_, fun traceless => absurd ⟨topic, rfl, rfl⟩ traceless⟩
        -- the list is shorter than it was
        have kept : left = s.subscriptions := congrArg subscriptions (made.symm.trans same)
        exact absurd kept (Subscriptions.remove?_ne removes)
      · rintro _ ⟨⟩ -
        exact ⟨connected, stopped, left, removes, made⟩
  · have other : ∀ topic, request ≠ .unsubscribe topic := fun topic same =>
      unsubscribes ⟨topic, same⟩
    refine ⟨⟨?_, fun _ => unchanged_of_refused refused silent other⟩, ?_⟩
    · rintro - ⟨topic, same, -⟩
      exact other topic same
    · intro topic same
      exact absurd same (other topic)

/-- A connected session is asked to subscribe and to publish, and the publication brings the worker
down. -/
def bereftOfWorker : List (Move Rehearsal) :=
  [.ask .connect, .takeCommand, .takeEvent, .dispatch,
    .ask (.subscribe "a/b" .atLeastOnce "red"), .takeCommand,
    .ask (.publish "t" [120] .atMostOnce false), .takeCommand]

/-- A session that has lost its worker refuses a new subscription, which leaves no trace. -/
theorem refused_unchanged_iff_bereft :
    ∃ s, (rehearsed { panic := [.publish] }).run? bereftOfWorker = some s ∧
      s.state = .connected ∧ s.worker.footing = .stopped ∧
      (s.ask (.subscribe "c" .atMostOnce "blue")).1 = .error .workerUnavailable ∧
      (s.ask (.subscribe "c" .atMostOnce "blue")).2 = s := by
  obtain ⟨s, run, connected, stopped, refused⟩ :
      ∃ s, (rehearsed { panic := [.publish] }).run? bereftOfWorker = some s ∧
        s.state = .connected ∧ s.worker.footing = .stopped ∧
        (s.ask (.subscribe "c" .atMostOnce "blue")).1 = .error .workerUnavailable :=
    ⟨_, rfl, rfl, rfl, rfl⟩
  refine ⟨s, run, connected, stopped, refused, (refused_unchanged_iff rfl refused).1.mpr ?_⟩
  rintro ⟨topic, same, -⟩
  cases same

/-- **A refused request to unsubscribe forgets the subscription.** The session is connected, a
publication has brought its worker down, and one subscription is left. The request to unsubscribe
fails, since no worker is left to take it, and yet the subscription is gone. -/
theorem refused_unsubscribe_forgets :
    ∃ s, (rehearsed { panic := [.publish] }).run? bereftOfWorker = some s ∧
      s.subscriptions.toList = [⟨"a/b", .atLeastOnce, "red", true⟩] ∧
      (s.ask (.unsubscribe "a/b")).1 = .error .workerUnavailable ∧
      (s.ask (.unsubscribe "a/b")).2.subscriptions.toList = [] :=
  ⟨_, rfl, rfl, rfl, rfl⟩

end Session

end MqttSessions
