import MqttSessions.Proofs.Closing.Acts
import MqttSessions.Proofs.Feed

/-! # Changes of state are announced

Whatever a party does to a session, its state is the one that was announced last
(**`Session.announced_of_move?`**, and **`Closing.announced_of_acted`** also while it is being closed). So
a follower that is at work has something to read after every change, and as long as it has not read it
(**`Session.Owing`**) it will ask for a fresh look; this is so also when it has fallen so far behind that
the change itself is not kept any more. -/

namespace MqttSessions

/-! ## Announcements -/

/-- Whether an announcement is one of a change of state. -/
def SessionEvent.isChange : SessionEvent → Bool
  | .stateChanged _ => true
  | _ => false

/-- The state that is known after an announcement. -/
def SessionEvent.known (state : ConnectionState) : SessionEvent → ConnectionState
  | .stateChanged state => state
  | _ => state

/-- Nothing is known to have changed if no change has been announced. -/
theorem SessionEvent.known_of_unchanged {events : List SessionEvent} (state : ConnectionState)
    (unchanged : ∀ event ∈ events, event.isChange = false) : events.foldl known state = state := by
  induction events generalizing state with
  | nil => rfl
  | cons event rest ih =>
    obtain ⟨first, later⟩ := List.forall_mem_cons.mp unchanged
    have same : event.known state = state := by cases event <;> first | rfl | cases first
    rw [List.foldl_cons, same]
    exact ih state later

namespace Session

variable {τ : Type}

/-- Between two moments of a session just these events have been announced, and its state is the one that
was announced last. Its follower has not moved. -/
structure Announced (events : List SessionEvent) (s s' : Session τ) : Prop where
  profile : s'.profile = s.profile
  follower : s'.follower = s.follower
  feed : s'.feed = events.foldl Feed.push s.feed
  state : s'.state = events.foldl SessionEvent.known s.state

namespace Announced

variable {s s' s'' : Session τ} {events events' : List SessionEvent}

theorem refl (s : Session τ) : Announced [] s s := ⟨rfl, rfl, rfl, rfl⟩

theorem trans (first : Announced events s s') (second : Announced events' s' s'') :
    Announced (events ++ events') s s'' where
  profile := second.profile.trans first.profile
  follower := second.follower.trans first.follower
  feed := by rw [second.feed, first.feed, List.foldl_append]
  state := by rw [second.state, first.state, List.foldl_append]

/-- A step that leaves the feed and the state alone announces nothing. -/
theorem of_same (profile : s'.profile = s.profile) (follower : s'.follower = s.follower)
    (feed : s'.feed = s.feed) (state : s'.state = s.state) : Announced [] s s' :=
  ⟨profile, follower, feed, state⟩

theorem enter (s : Session τ) (state : ConnectionState) :
    Announced [.stateChanged state] s (s.enter state) := ⟨rfl, rfl, rfl, rfl⟩

theorem announce (s : Session τ) {event : SessionEvent} (other : event.isChange = false) :
    Announced [event] s (s.announce event) where
  profile := rfl
  follower := rfl
  feed := rfl
  state := (SessionEvent.known_of_unchanged s.state (List.forall_mem_singleton.mpr other)).symm

theorem enqueue (s : Session τ) (commands : List Command) : Announced [] s (s.enqueue commands) :=
  ⟨rfl, rfl, rfl, rfl⟩

theorem settleWorker (s : Session τ) (worker : Worker τ) (reports : List Report) :
    Announced [] s (s.settleWorker worker reports) := ⟨rfl, rfl, rfl, rfl⟩

theorem handOver (s : Session τ) : Announced [] s s.handOver := by
  rw [Session.handOver]
  split <;> exact ⟨rfl, rfl, rfl, rfl⟩

theorem apply (s : Session τ) (event : ConnectionEvent) : ∃ events, Announced events s (s.apply event) := by
  rw [apply_eq]
  cases s.state.next? event with
  | none => exact ⟨[], .refl s⟩
  | some state => exact ⟨_, .enter s state⟩

theorem forceDisconnected (s : Session τ) : ∃ events, Announced events s s.forceDisconnected := by
  rw [Session.forceDisconnected]
  split
  · exact ⟨[], .refl s⟩
  · exact ⟨_, .enter s .disconnected⟩

/-- A request that asks for nothing of the connection announces at most what is published. -/
theorem ask_other (s : Session τ) {request : Request} (other : request.event? = none) :
    ∃ events, Announced events s (s.ask request).2 ∧
      ∀ event ∈ events, ∃ message, event = .published message := by
  have silent : ∀ event ∈ ([] : List SessionEvent), ∃ message, event = .published message := by simp
  cases request with
  | connect | disconnect => cases other
  | subscribe topic qos color =>
    rcases subscribe_cases s topic qos color with ⟨failure, same⟩ | ⟨-, -, -, subscriptions, -, same⟩
    all_goals rw [Session.ask, same]
    · exact ⟨[], .refl s, silent⟩
    · exact ⟨[], ⟨rfl, rfl, rfl, rfl⟩, silent⟩
  | unsubscribe topic =>
    rcases unsubscribe_cases s topic with ⟨failure, same⟩ | ⟨-, -, subscriptions, -, ⟨-, same⟩ | ⟨-, same⟩⟩
    all_goals rw [Session.ask, same]
    · exact ⟨[], .refl s, silent⟩
    · exact ⟨[], ⟨rfl, rfl, rfl, rfl⟩, silent⟩
    · exact ⟨[], ⟨rfl, rfl, rfl, rfl⟩, silent⟩
  | publish topic payload qos retain =>
    rcases publish_cases s topic payload qos retain with ⟨failure, same⟩ | ⟨-, -, -, same⟩
    all_goals rw [Session.ask, same]
    · exact ⟨[], .refl s, silent⟩
    · exact ⟨[.published ⟨topic, payload, qos, retain, .published⟩], ⟨rfl, rfl, rfl, rfl⟩, by simp⟩
  | setEnabled topic enabled =>
    rw [Session.ask, Session.setEnabled]
    split <;> exact ⟨[], ⟨rfl, rfl, rfl, rfl⟩, silent⟩
  | clearHistory => exact ⟨[], ⟨rfl, rfl, rfl, rfl⟩, silent⟩

/-- **What a caller asks for.** -/
theorem ask (s : Session τ) (request : Request) : ∃ events, Announced events s (s.ask request).2 := by
  cases request with
  | connect =>
    rcases requestConnect_cases s with ⟨failure, same⟩ | ⟨-, -, same⟩ | ⟨-, -, same⟩
    all_goals rw [Session.ask, same]
    · exact ⟨[], .refl s⟩
    · exact ⟨_, (Announced.enter s .connecting).trans (.enqueue _ _)⟩
    · exact ⟨_, (Announced.enter s .connecting).trans (.enter _ .disconnected)⟩
  | disconnect =>
    rcases requestDisconnect_cases s with ⟨failure, same⟩ | ⟨-, ⟨-, same⟩ | ⟨-, same⟩⟩
    all_goals rw [Session.ask, same]
    · exact ⟨[], .refl s⟩
    · exact ⟨_, (Announced.enter s .disconnecting).trans (.enqueue _ _)⟩
    · exact ⟨_, (Announced.enter s .disconnecting).trans (.enter _ .disconnected)⟩
  | subscribe | unsubscribe | publish | setEnabled | clearHistory =>
    exact (ask_other s rfl).imp fun _ => And.left

/-- **What the dispatcher makes of a report.** -/
theorem dispatch (s : Session τ) (report : Report) : ∃ events, Announced events s (s.dispatch report) := by
  cases report with
  | connected =>
    simp only [Session.dispatch, transition?]
    cases s.state.next? .connectSucceeded with
    | none => exact ⟨[], .refl s⟩
    | some state =>
      simp only [Option.map_some, resubscribe, foldl_send?]
      split
      · exact ⟨_, .enter s state⟩
      · exact ⟨_, (Announced.enter s state).trans (.enqueue _ _)⟩
  | connectFailed reason => exact Announced.apply s _
  | connectionLost reason => exact Announced.apply s _
  | disconnectComplete => exact Announced.apply s _
  | subscribeAck success => exact ⟨_, .announce s rfl⟩
  | messages batch => exact ⟨[.received batch], rfl, rfl, rfl, rfl⟩

end Announced

variable [Transport τ]

/-- **Every change of state is announced**, whichever party makes it. -/
theorem announced_of_move? {s s' : Session τ} {move : Move τ} (made : s.move? move = some s') :
    ∃ events, Announced events s s' := by
  cases move with
  | ask request =>
    obtain rfl := Option.some.inj made
    exact Announced.ask s request
  | takeCommand =>
    obtain ⟨-, command, rest, -, rfl⟩ := takeCommand?_eq_some_iff.mp made
    exact ⟨[], rfl, rfl, rfl, rfl⟩
  | takeEvent =>
    obtain ⟨-, -, event, transport, worker, reports, messages, -, -, rfl⟩ := takeEvent?_inversion made
    exact ⟨[], rfl, rfl, rfl, rfl⟩
  | dispatch =>
    obtain ⟨report, rest, -, rfl⟩ := dispatch?_eq_some_iff.mp made
    obtain ⟨events, announced⟩ := Announced.dispatch { s with reports := rest } report
    exact ⟨events, announced.profile, announced.follower, announced.feed, announced.state⟩
  | tick =>
    obtain ⟨-, made⟩ := Option.ite_none_right_eq_some.mp made
    obtain rfl := Option.some.inj made
    exact ⟨[], .handOver s⟩
  | finishTicker =>
    obtain ⟨-, made⟩ := Option.ite_none_right_eq_some.mp made
    obtain rfl := Option.some.inj made
    exact ⟨[], (Announced.handOver s).trans ⟨rfl, rfl, rfl, rfl⟩⟩
  | elapse ms =>
    obtain rfl := Option.some.inj made
    exact ⟨[], rfl, rfl, rfl, rfl⟩
  | drift change =>
    obtain rfl := Option.some.inj made
    exact ⟨[], rfl, rfl, rfl, rfl⟩

end Session

open Session in
/-- **Every change of state is announced while a session is being closed**, the last one included. -/
theorem Closing.announced_of_acted {τ : Type} [Transport τ] {c c' : Closing τ} {act : Act τ}
    (acted : c.Acted act c') (other : act ≠ .follow) : ∃ events, Announced events c.session c'.session := by
  cases acted with
  | asked => exact Announced.ask c.session .disconnect
  | told =>
    obtain ⟨commands, same⟩ := send?_getD c.session .shutdown
    change ∃ events, Announced events c.session ((c.session.send? .shutdown).getD c.session)
    rw [same]
    exact ⟨[], .enqueue _ _⟩
  | left => exact Announced.forceDisconnected c.session
  | moved permitted made => exact announced_of_move? made
  | lateTicked => exact ⟨[], .handOver c.session⟩
  | followed => exact absurd rfl other
  | _ => exact ⟨[], rfl, rfl, rfl, rfl⟩

/-! ## What is left to be read -/

namespace Feed

/-- Whether a follower at a position will ask for a fresh look when it reads on. -/
def stirs (feed : Feed SessionEvent) (position : Nat) : Bool :=
  (feed.read position).any Follower.isRefresh

/-- A follower will ask for a fresh look if it has fallen too far behind or has a change to read. -/
theorem stirs_iff {feed : Feed SessionEvent} {position : Nat} :
    feed.stirs position = true ↔ position < feed.position - feed.capacity ∨
      ∃ event ∈ feed.toList.drop position, event.isChange = true := by
  rw [stirs, read]
  by_cases behind : position < feed.sent.size - feed.capacity
  · simp only [if_pos behind, List.any_cons, Follower.isRefresh, Bool.true_or, true_iff]
    exact .inl behind
  · have kept : ¬position < feed.position - feed.capacity := behind
    rw [if_neg behind, List.any_map, List.any_eq_true]
    constructor
    · rintro ⟨event, mem, asks⟩
      refine .inr ⟨event, mem, ?_⟩
      cases event <;> first | rfl | cases asks
    · rintro (missed | ⟨event, mem, change⟩)
      · exact absurd missed kept
      · refine ⟨event, mem, ?_⟩
        cases event <;> first | rfl | cases change

theorem capacity_foldl_push (feed : Feed SessionEvent) (events : List SessionEvent) :
    (events.foldl push feed).capacity = feed.capacity := by
  induction events generalizing feed with
  | nil => rfl
  | cons event rest ih => exact ih (feed.push event)

/-- A follower that will ask for a fresh look still will when more has been announced. -/
theorem stirs_foldl_push {feed : Feed SessionEvent} {position : Nat} (events : List SessionEvent)
    (before : feed.stirs position = true) : (events.foldl push feed).stirs position = true := by
  rw [stirs_iff] at before ⊢
  rw [position_foldl_push, capacity_foldl_push, toList_foldl_push, List.drop_append]
  refine before.imp (fun behind => by omega) fun ⟨event, mem, change⟩ => ?_
  exact ⟨event, List.mem_append_left _ mem, change⟩

/-- A follower that has not read further than has been announced will ask for a fresh look when a change
is announced. -/
theorem stirs_of_change {feed : Feed SessionEvent} {position : Nat} {events : List SessionEvent}
    (within : position ≤ feed.position) (changed : ∃ event ∈ events, event.isChange = true) :
    (events.foldl push feed).stirs position = true := by
  obtain ⟨event, mem, change⟩ := changed
  rw [stirs_iff, toList_foldl_push, List.drop_append_of_le_length (by rwa [length_toList])]
  exact .inr ⟨event, List.mem_append_right _ mem, change⟩

/-- **What a follower reads next**: it reads on, never beyond what has been announced, and if it will ask
for a fresh look it does so now or will later. -/
theorem next?_eq_some {feed : Feed SessionEvent} {position after : Nat} {reading : Reading SessionEvent}
    (next : feed.next? position = some (reading, after)) :
    after ≤ feed.position ∧
      (feed.stirs position = true → Follower.isRefresh reading = true ∨ feed.stirs after = true) := by
  cases reading with
  | missed count =>
    simp only [next?] at next
    split at next
    · cases next
      exact ⟨Nat.sub_le _ _, fun _ => .inl rfl⟩
    · obtain ⟨event, -, same⟩ := Option.map_eq_some_iff.mp next
      cases same
  | item event =>
    obtain ⟨within, unread⟩ := next?_eq_item next
    refine ⟨within, fun stirs => ?_⟩
    rw [stirs_iff] at stirs
    rcases stirs with behind | ⟨other, mem, change⟩
    · -- a follower that has missed something finds out about that first
      rw [next?, if_pos (show position < feed.sent.size - feed.capacity from behind)] at next
      cases next
    · rw [unread] at mem
      rcases List.mem_cons.mp mem with rfl | later
      · left
        cases other <;> first | rfl | cases change
      · exact .inr (stirs_iff.mpr (.inr ⟨other, later, change⟩))

end Feed

namespace Session

variable {τ : Type} {s s' : Session τ} {events : List SessionEvent}

/-- A fresh look at a session is owed: its follower has asked for one, or it is at work and will. -/
def Owing (s : Session τ) : Prop :=
  0 < s.follower.refreshes ∨ s.follower.isActive = true ∧ s.feed.stirs s.follower.position = true

/-- A follower has not read further than has been announced. -/
def FollowerWithin (s : Session τ) : Prop := s.follower.position ≤ s.feed.position

theorem Announced.within (announced : Announced events s s') (within : s.FollowerWithin) :
    s'.FollowerWithin := by
  rw [FollowerWithin, announced.follower, announced.feed, Feed.position_foldl_push]
  exact Nat.le_add_right_of_le within

/-- What is owed is still owed when something has been announced. -/
theorem Announced.owing (announced : Announced events s s') (owing : s.Owing) : s'.Owing := by
  rw [Owing, announced.follower, announced.feed]
  exact owing.imp_right fun ⟨active, stirs⟩ => ⟨active, Feed.stirs_foldl_push events stirs⟩

/-- **A change of state owes a fresh look**, as long as the follower is at work. -/
theorem Announced.owing_of_change (announced : Announced events s s')
    (active : s.follower.isActive = true) (within : s.FollowerWithin)
    (changed : ∃ event ∈ events, event.isChange = true) : s'.Owing := by
  rw [Owing, announced.follower, announced.feed]
  exact .inr ⟨active, Feed.stirs_of_change within changed⟩

/-- The state is the same as before if no change has been announced. -/
theorem Announced.changed (announced : Announced events s s') (differ : s'.state ≠ s.state) :
    ∃ event ∈ events, event.isChange = true := by
  by_contra unchanged
  refine differ (announced.state.trans (SessionEvent.known_of_unchanged _ fun event mem => ?_))
  by_contra change
  exact unchanged ⟨event, mem, by simpa using change⟩

/-! ## The follower's moves -/

/-- The follower reads the next announcement, if there is one. -/
def readNext? (s : Session τ) : Option (Session τ) :=
  if s.follower.isActive then
    (s.feed.next? s.follower.position).map fun (reading, position) =>
      { s with follower :=
        { s.follower with
          position
          refreshes := s.follower.refreshes + if Follower.isRefresh reading then 1 else 0 } }
  else none

/-- Between two moments only the follower has moved, and what was owed is still owed. -/
structure Followed (s s' : Session τ) : Prop where
  same : ∃ follower, s' = { s with follower }
  active : s'.follower.isActive = s.follower.isActive
  within : s.FollowerWithin → s'.FollowerWithin
  owing : s.Owing → s'.Owing

theorem followed_of_readNext? (read : s.readNext? = some s') : Followed s s' := by
  obtain ⟨active, read⟩ := Option.ite_none_right_eq_some.mp read
  obtain ⟨⟨reading, position⟩, next, rfl⟩ := Option.map_eq_some_iff.mp read
  obtain ⟨within, later⟩ := Feed.next?_eq_some next
  refine ⟨⟨_, rfl⟩, rfl, fun _ => within, fun owing => ?_⟩
  rcases owing with asked | ⟨-, stirs⟩
  · exact .inl (Nat.lt_of_lt_of_le asked (Nat.le_add_right _ _))
  · rcases later stirs with asks | stirs
    · left
      simp [asks]
    · exact .inr ⟨active, stirs⟩

theorem followed_of_follow (s : Session τ) : Followed s s.follow := by
  rw [follow]
  split
  · rename_i active
    refine ⟨⟨_, rfl⟩, rfl, fun _ => Nat.le_refl _, fun owing => .inl ?_⟩
    rcases owing with asked | ⟨-, stirs⟩
    · exact Nat.lt_of_lt_of_le asked (Nat.le_add_right _ _)
    · have asks : 0 < (s.feed.read s.follower.position).countP Follower.isRefresh := by
        rw [List.countP_pos_iff]
        exact List.any_eq_true.mp stirs
      exact Nat.lt_of_lt_of_le asks (Nat.le_add_left _ _)
  · exact ⟨⟨s.follower, rfl⟩, rfl, id, id⟩

/-! ## Followed sessions -/

/-- Whether the state of a session has changed between two moments, or a change has been announced that
may have been taken back. -/
def Altered (s s' : Session τ) : Prop :=
  s'.state ≠ s.state ∨ ∃ event ∈ s'.feed.toList.drop s.feed.position, event.isChange = true

/-- Between two moments a session has been tended: what was owed is still owed, and if its follower is at
work, every change owes a fresh look. -/
structure Tended (s s' : Session τ) : Prop where
  profile : s'.profile = s.profile
  active : s'.follower.isActive = s.follower.isActive
  within : s.FollowerWithin → s'.FollowerWithin
  owing : s.Owing → s'.Owing
  altered : s.follower.isActive = true → s.FollowerWithin → Altered s s' → s'.Owing

theorem Announced.tended (announced : Announced events s s') : Tended s s' where
  profile := announced.profile
  active := by rw [announced.follower]
  within := announced.within
  owing := announced.owing
  altered active within altered := by
    refine announced.owing_of_change active within ?_
    rcases altered with differ | ⟨event, mem, change⟩
    · exact announced.changed differ
    · rw [announced.feed, Feed.toList_foldl_push, ← Feed.length_toList, List.drop_left] at mem
      exact ⟨event, mem, change⟩

/-- A session is not altered if its state and its feed are the same. -/
theorem not_altered (state : s'.state = s.state) (feed : s'.feed = s.feed) : ¬Altered s s' := by
  rintro (differ | ⟨event, mem, -⟩)
  · exact differ state
  · rw [feed, List.drop_of_length_le (Nat.le_of_eq (Feed.length_toList _))] at mem
    exact absurd mem List.not_mem_nil

theorem Followed.tended (followed : Followed s s') : Tended s s' := by
  obtain ⟨follower, same⟩ := followed.same
  exact
    { profile := by rw [same]
      active := followed.active
      within := followed.within
      owing := followed.owing
      altered := fun _ _ altered => absurd altered (not_altered (by rw [same]) (by rw [same])) }

/-- **Whatever anybody does to a session, also while it is being closed, it is tended.** -/
theorem tended_of_act? [Transport τ] {c c' : Closing τ} {act : Closing.Act τ}
    (made : c.act? act = some c') : Tended c.session c'.session := by
  by_cases follows : act = .follow
  · subst follows
    obtain rfl := Option.some.inj made
    exact (followed_of_follow c.session).tended
  · obtain ⟨events, announced⟩ := Closing.announced_of_acted (Closing.acted_of_act? made) follows
    exact announced.tended

end Session

end MqttSessions
