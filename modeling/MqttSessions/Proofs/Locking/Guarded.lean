import MqttSessions.Proofs.Locking.Visits

/-! # What the lock protects

Whoever holds the lock keeps everybody else from ending the connection. So a caller who changes the
subscriptions, and the dispatcher while it restores them, find the session connected from the check
to the command that they queue (**`Locked.Disciplined`**), and every step keeps it so
(**`Locked.disciplined_of_step?`**).

* **`Locked.queued_while_connected`**: every command about subscriptions is queued while the session
  is connected, ahead of the command that ends the connection, and the list changes only then. For
  messages this holds in runs in which no connection ends between the check of a caller who
  publishes and its command (**`Locked.Spared`**);
* **`Locked.run?_belated`** and **`Locked.queued_too_late`**: in another run a message is queued,
  and the caller told so, behind the command that ends the connection. -/

namespace MqttSessions

open Session

/-- Whether a command is about a subscription. -/
def Command.isSubscription : Command → Bool
  | .subscribe .. => true
  | .unsubscribe _ => true
  | _ => false

/-- Whether a command is a message to be published. -/
def Command.isPublication : Command → Bool
  | .publish .. => true
  | _ => false

namespace Visit

variable {τ : Type} {s s' : Session τ} {free : Bool} {visit : Visit} {place : Place}

/-- Whether a caller holds the lock and has found the session connected. -/
def isCommitted (visit : Visit) : Bool :=
  match visit.place with
  | .admitted => visit.errand.isLocking
  | .recorded => true
  | _ => false

theorem holds_of_isCommitted (committed : visit.isCommitted = true) : visit.holds = true := by
  obtain ⟨errand, place⟩ := visit
  cases place <;> first | exact committed | cases committed

/-- The lock is only taken when it is free. -/
theorem Went.free_of_holds (went : visit.Went s free s' place)
    (holds : Visit.holds { visit with place } = true) : visit.holds = true ∨ free = true := by
  cases went with
  | entered unlocked => exact .inr unlocked
  | admitted _ held => exact .inl (held holds)
  | recorded _ _ held => exact .inl held
  | _ => cases holds

/-- Only a caller who holds the lock, or has made the transition before, changes the state. -/
theorem Went.state (went : visit.Went s free s' place) :
    s'.state = s.state ∨ visit.holds = true ∨ visit.place = .parted := by
  cases went with
  | parted held | forced held => exact .inr (.inl held)
  | forsaken at_ =>
    -- the one change of state without the lock
    exact .inr (.inr at_)
  | _ => exact .inl rfl

/-- A caller who is committed finds the session connected, if a caller who was committed did. -/
theorem Went.connected (went : visit.Went s free s' place)
    (committed : Visit.isCommitted { visit with place } = true) :
    s'.state = s.state ∧ (s.state = .connected ∨ visit.isCommitted = true) := by
  cases went with
  | admitted connected => exact ⟨rfl, .inl connected⟩
  | recorded _ at_ held =>
    refine ⟨rfl, .inr ?_⟩
    simpa [isCommitted, holds, at_] using held
  | _ => cases committed

end Visit

/-- Whether a connection has ended or is to end. -/
def ConnectionState.IsEnding (state : ConnectionState) : Prop :=
  state = .disconnecting ∨ state = .disconnected

namespace Visit

variable {τ : Type} {s s' : Session τ} {free : Bool} {visit : Visit} {place : Place}

/-- Callers begin no connection. -/
theorem Went.isEnding (went : visit.Went s free s' place) (ending : s.state.IsEnding) :
    s'.state.IsEnding := by
  cases went with
  | parted => exact .inl rfl
  | forsaken | forced => exact .inr (forceDisconnected_state s)
  | _ => exact ending

/-- Whoever has made the transition leaves a connection that has ended or is to end. -/
theorem Went.isEnding_of_isParted (went : visit.Went s free s' place) (parted : place.isParted = true)
    (before : visit.place.isParted = true → s.state.IsEnding) : s'.state.IsEnding := by
  cases went with
  | parted => exact .inl rfl
  | asked at_ => exact before (by rw [at_]; rfl)
  | forsaken => exact .inr (forceDisconnected_state s)
  | _ => cases parted

end Visit

/-! ## The dispatcher -/

/-- What a step of the dispatcher does. -/
structure Dispatched {τ : Type} (s : Session τ) (free : Bool) (now : Dispatching) (s' : Session τ)
    (next : Dispatching) : Prop where
  /-- The lock is only taken when it is free. -/
  locks : next.holds = true → now.holds = true ∨ free = true
  /-- A connection begins or ends only under the lock. -/
  state : s'.state = s.state ∨ s.state = .connecting ∨ s'.state = .disconnected ∧
    (s.state = .connected → now.holds = true)
  /-- Subscriptions are restored over a connection that has just begun. -/
  restoring : ∀ commands, next = .restoring commands →
    s'.state = .connected ∨ s'.state = s.state ∧ ∃ earlier, now = .restoring earlier
  /-- Nothing but what is restored is queued. -/
  commands : s'.commands = s.commands ∨ ∃ earlier, now = .restoring earlier
  subscriptions : s'.subscriptions = s.subscriptions

namespace Locked

variable {τ : Type}

/-- Reports that the dispatcher needs no lock for begin no connection and end none. -/
theorem dispatch_unguarded {s : Session τ} {report : Report} (unguarded : report.isGuarded = false) :
    (s.dispatch report).commands = s.commands ∧
      ((s.dispatch report).state = s.state ∨
        (s.dispatch report).state = .disconnected ∧ s.state ≠ .connected) := by
  obtain ⟨-, -, -, commands, state⟩ := dispatch_kept s report
  rw [commands, state]
  cases report <;> cases unguarded <;> cases s.state <;>
    simp [restored, Report.event?, ConnectionState.next?]

/-- A step after which the dispatcher rests: it does not hold the lock then, and restores nothing. -/
theorem rests {s s' : Session τ} {free : Bool} {now : Dispatching}
    (state : s'.state = s.state ∨ s.state = .connecting ∨ s'.state = .disconnected ∧
      (s.state = .connected → now.holds = true))
    (commands : s'.commands = s.commands ∨ ∃ earlier, now = .restoring earlier)
    (subscriptions : s'.subscriptions = s.subscriptions) : Dispatched s free now s' .resting where
  locks held := absurd held Bool.false_ne_true
  state := state
  restoring _ same := by cases same
  commands := commands
  subscriptions := subscriptions

/-- **What a step of the dispatcher does.** -/
theorem dispatched_of_dispatch? {s s' : Session τ} {free : Bool} {now next : Dispatching}
    (made : dispatch? s free now = some (s', next)) : Dispatched s free now s' next := by
  cases now with
  | resting =>
    simp only [dispatch?] at made
    split at made
    · cases made
    · rename_i report rest queued
      cases guarded : report.isGuarded with
      | true =>
        rw [guarded, if_pos rfl] at made
        cases made
        exact ⟨(absurd · Bool.false_ne_true), .inl rfl, fun _ same => (by cases same), .inl rfl, rfl⟩
      | false =>
        rw [guarded, if_neg Bool.false_ne_true] at made
        cases made
        obtain ⟨commands, state⟩ := dispatch_unguarded (s := { s with reports := rest }) guarded
        obtain ⟨-, -, subscriptions, -, -⟩ := dispatch_kept { s with reports := rest } report
        refine rests ?_ (.inl commands) subscriptions
        rcases state with same | ⟨ended, other⟩
        · exact .inl same
        · exact .inr (.inr ⟨ended, fun connected => absurd connected other⟩)
  | facing report =>
    obtain ⟨unlocked, made⟩ := Option.ite_none_right_eq_some.mp made
    cases made
    exact ⟨fun _ => .inr unlocked, .inl rfl, fun _ same => (by cases same), .inl rfl, rfl⟩
  | holding report =>
    have elsewise (other : report ≠ .connected) :
        Dispatched s free (.holding report) (s.dispatch report) .resting := by
      obtain ⟨-, -, subscriptions, commands, state⟩ := dispatch_kept s report
      obtain ⟨restored, after⟩ := dispatched_elsewise (s := s) fun timely => other timely.2
      rw [← state] at after
      refine rests ?_ (.inl (by rw [commands, restored, List.append_nil])) subscriptions
      rcases after with same | ended
      · exact .inl same
      · exact .inr (.inr ⟨ended, fun _ => rfl⟩)
    cases report with
    | connected =>
      simp only [dispatch?] at made
      split at made
      · rename_i begun entered
        cases made
        obtain ⟨state, legal, rfl⟩ := transition?_eq_some_iff.mp entered
        -- an acknowledgment is legal in no other state
        cases before : s.state <;> rw [before] at legal <;> cases legal
        exact ⟨fun _ => .inl rfl, .inr (.inl before), fun _ _ => .inl rfl, .inl rfl, rfl⟩
      · cases made
        exact rests (.inl rfl) (.inl rfl) rfl
    | connectFailed | connectionLost | disconnectComplete | subscribeAck | messages =>
      cases made
      exact elsewise (by simp)
  | restoring commands =>
    cases commands with
    | nil =>
      cases made
      exact rests (.inl rfl) (.inl rfl) rfl
    | cons command rest =>
      cases made
      obtain ⟨_, sent⟩ := send?_getD s command
      rw [sent]
      exact ⟨fun _ => .inl rfl, .inl rfl, fun _ _ => .inr ⟨rfl, _, rfl⟩, .inr ⟨_, rfl⟩, rfl⟩

/-! ## Lock, state and list -/

/-- What the lock is good for: whoever holds it is known to hold it, a caller who is committed finds
the session connected, and so does the dispatcher while it restores subscriptions; and once the
transition that ends a connection has been made there is no connection. -/
structure Disciplined (l : Locked τ) : Prop where
  visitor : ∀ (position : Nat) (visit : Visit), l.visits[position]? = some visit →
    visit.holds = true → l.lock = some (.visitor position)
  dispatcher : l.dispatching.holds = true → l.lock = some .dispatcher
  committed : ∀ (position : Nat) (visit : Visit), l.visits[position]? = some visit →
    visit.isCommitted = true → l.session.state = .connected
  restoring : ∀ commands, l.dispatching = .restoring commands → l.session.state = .connected
  parted : ∀ (position : Nat) (visit : Visit), l.visits[position]? = some visit →
    visit.place.isParted = true → l.session.state.IsEnding

theorem start_disciplined (s : Session τ) : (start s).Disciplined where
  visitor _ _ there := by simp [start] at there
  dispatcher := nofun
  committed _ _ there := by simp [start] at there
  restoring := nofun
  parted _ _ there := by simp [start] at there

/-- Who holds the lock keeps it when somebody else takes a step. -/
theorem passOn_of_other {lock : Option Holder} {holder other : Holder} {before after : Bool}
    (held : lock = some other) (distinct : other ≠ holder)
    (owner : before = true → lock = some holder)
    (taken : after = true → before = true ∨ lock.isNone = true) :
    passOn lock holder before after = lock := by
  have notBefore : before ≠ true := by
    intro holds
    exact distinct (Option.some.inj (held.symm.trans (owner holds)))
  have notAfter : after ≠ true := by
    intro holds
    rcases taken holds with first | free
    · exact notBefore first
    · rw [held] at free
      cases free
  rw [passOn, if_neg notAfter, if_neg notBefore]

/-- A connected session is not one whose connection has ended. -/
theorem not_isEnding_of_connected {state : ConnectionState} (connected : state = .connected) :
    ¬state.IsEnding := by
  rintro (ending | ended)
  · exact absurd (connected.symm.trans ending) (by simp)
  · exact absurd (connected.symm.trans ended) (by simp)

/-- A caller's step keeps a session connected for whoever else holds the lock. -/
theorem Disciplined.connected_of_went {l : Locked τ} (disciplined : l.Disciplined) {position : Nat}
    {visit : Visit} {s : Session τ} {place : Place} (there : l.visits[position]? = some visit)
    (went : visit.Went l.session l.lock.isNone s place) {other : Holder} (held : l.lock = some other)
    (distinct : other ≠ .visitor position) (connected : l.session.state = .connected) :
    s.state = .connected := by
  rcases went.state with same | holds | parted
  · exact same.trans connected
  · have own := disciplined.visitor position visit there holds
    exact absurd (Option.some.inj (held.symm.trans own)) distinct
  · have ending := disciplined.parted position visit there (by rw [parted]; rfl)
    exact absurd ending (not_isEnding_of_connected connected)

/-- A caller's step keeps the discipline. -/
theorem Disciplined.stepped {l : Locked τ} (disciplined : l.Disciplined) {position : Nat}
    {visit : Visit} {s : Session τ} {place : Place} (there : l.visits[position]? = some visit)
    (went : visit.Went l.session l.lock.isNone s place) :
    (l.stepped position visit s place).Disciplined := by
  -- whoever else holds the lock keeps it
  have keeps {other : Holder} (held : l.lock = some other) (distinct : other ≠ .visitor position) :
      (l.stepped position visit s place).lock = l.lock :=
    passOn_of_other held distinct (disciplined.visitor position visit there) went.free_of_holds
  have self : (l.visits.set position { visit with place })[position]? = some { visit with place } :=
    List.getElem?_set_self (List.getElem?_eq_some_iff.mp there).1
  have others {index : Nat} (distinct : index ≠ position) :
      (l.visits.set position { visit with place })[index]? = l.visits[index]? :=
    List.getElem?_set_ne (Ne.symm distinct)
  refine ⟨?_, ?_, ?_, ?_, ?_⟩
  · -- whoever holds the lock is known to hold it
    intro index other at_ holds
    by_cases same : index = position
    · subst same
      obtain rfl := Option.some.inj (self.symm.trans at_)
      exact if_pos holds
    · have held := disciplined.visitor index other ((others same).symm.trans at_) holds
      exact (keeps held (by simpa using same)).trans held
  · intro holds
    have held := disciplined.dispatcher holds
    exact (keeps held nofun).trans held
  · -- whoever else is committed holds the lock, so that this step leaves the state alone
    intro index other at_ committed
    by_cases same : index = position
    · subst same
      obtain rfl := Option.some.inj (self.symm.trans at_)
      obtain ⟨state, connected | before⟩ := went.connected committed
      · exact state.trans connected
      · exact state.trans (disciplined.committed index visit there before)
    · have before := (others same).symm.trans at_
      have held := disciplined.visitor index other before (Visit.holds_of_isCommitted committed)
      exact disciplined.connected_of_went there went held (by simpa using same)
        (disciplined.committed index other before committed)
  · -- and so does the dispatcher while it restores subscriptions
    intro commands restoring
    have held := disciplined.dispatcher (by rw [show l.dispatching = _ from restoring]; rfl)
    exact disciplined.connected_of_went there went held nofun (disciplined.restoring commands restoring)
  · -- a connection that has ended does not come back
    intro index other at_ parted
    by_cases same : index = position
    · subst same
      obtain rfl := Option.some.inj (self.symm.trans at_)
      exact went.isEnding_of_isParted parted (disciplined.parted index visit there)
    · exact went.isEnding (disciplined.parted index other ((others same).symm.trans at_) parted)

/-- A step of the dispatcher keeps the discipline. -/
theorem Disciplined.dispatched {l : Locked τ} (disciplined : l.Disciplined) {s : Session τ}
    {next : Dispatching} (went : Dispatched l.session l.lock.isNone l.dispatching s next) :
    (l.dispatched s next).Disciplined := by
  have keeps {position : Nat} (held : l.lock = some (.visitor position)) :
      (l.dispatched s next).lock = l.lock :=
    passOn_of_other held nofun disciplined.dispatcher went.locks
  refine ⟨?_, fun holds => if_pos holds, ?_, ?_, ?_⟩
  · intro position visit there holds
    have held := disciplined.visitor position visit there holds
    exact (keeps held).trans held
  · intro position visit there committed
    have connected := disciplined.committed position visit there committed
    rcases went.state with same | connecting | ⟨-, locked⟩
    · exact same.trans connected
    · exact absurd (connected.symm.trans connecting) (by simp)
    · -- the dispatcher does not hold the lock that the caller holds
      have held := disciplined.visitor position visit there (Visit.holds_of_isCommitted committed)
      exact absurd (held.symm.trans (disciplined.dispatcher (locked connected))) (by simp)
  · intro commands restoring
    rcases went.restoring commands restoring with begun | ⟨same, earlier, before⟩
    · exact begun
    · exact same.trans (disciplined.restoring earlier before)
  · -- no connection begins once one has ended
    intro position visit there parted
    have ending := disciplined.parted position visit there parted
    rcases went.state with same | connecting | ⟨ended, -⟩
    · exact (congrArg ConnectionState.IsEnding same).mpr ending
    · rcases ending with before | before <;> exact absurd (connecting.symm.trans before) (by simp)
    · exact .inr ended

variable [Transport τ]

/-- Whoever is neither a caller nor the dispatcher leaves the state and the subscriptions alone, and
queues nothing. -/
theorem apart_of_move? {s s' : Session τ} {move : Move τ} (apart : move.isApart = true)
    (made : s.move? move = some s') :
    s'.state = s.state ∧ s'.subscriptions = s.subscriptions ∧
      s'.commands.length ≤ s.commands.length := by
  cases move with
  | ask | dispatch => cases apart
  | takeCommand =>
    obtain ⟨-, command, rest, queued, rfl⟩ := takeCommand?_eq_some_iff.mp made
    refine ⟨rfl, rfl, ?_⟩
    simp only [settleWorker, queued, List.length_cons]
    split <;> simp
  | takeEvent =>
    obtain ⟨-, -, -, state, commands, subscriptions, -⟩ := takeEvent?_eq_some made
    exact ⟨state, subscriptions, Nat.le_of_eq (congrArg List.length commands)⟩
  | tick | finishTicker | elapse | drift =>
    have same := undisturbed_of_move? rfl made
    exact ⟨same.state, same.subscriptions, Nat.le_of_eq (congrArg List.length same.commands)⟩

/-- What a step is: a caller's, the dispatcher's, or one that has nothing to do with the lock. -/
theorem step?_cases {l l' : Locked τ} {step : Step τ} (made : l.step? step = some l') :
    (∃ position visit s place, l.visits[position]? = some visit ∧
        visit.Went l.session l.lock.isNone s place ∧ l' = l.stepped position visit s place) ∨
      (∃ s next, Dispatched l.session l.lock.isNone l.dispatching s next ∧
        l' = l.dispatched s next) ∨
      (∃ errand, l' = { l with visits := l.visits ++ [⟨errand, .arrived⟩] }) ∨
      ∃ s, l' = { l with session := s } ∧ s.state = l.session.state ∧
        s.subscriptions = l.session.subscriptions ∧
        s.commands.length ≤ l.session.commands.length := by
  cases step with
  | arrive errand => exact .inr (.inr (.inl ⟨errand, (Option.some.inj made).symm⟩))
  | visitor position =>
    obtain ⟨visit, there, made⟩ := Option.bind_eq_some_iff.mp made
    obtain ⟨⟨s, place⟩, next, rfl⟩ := Option.map_eq_some_iff.mp made
    exact .inl ⟨position, visit, s, place, there, Visit.went_of_next? next, rfl⟩
  | dispatcher =>
    obtain ⟨⟨s, next⟩, taken, rfl⟩ := Option.map_eq_some_iff.mp made
    exact .inr (.inl ⟨s, next, dispatched_of_dispatch? taken, rfl⟩)
  | other move =>
    obtain ⟨apart, made⟩ := Option.ite_none_right_eq_some.mp made
    obtain ⟨s, moved, rfl⟩ := Option.map_eq_some_iff.mp made
    exact .inr (.inr (.inr ⟨s, rfl, apart_of_move? apart moved⟩))

/-- A caller who has just come has done nothing. -/
theorem getElem?_arrived {visits : List Visit} {errand : Errand} {position : Nat} {visit : Visit}
    (there : (visits ++ [⟨errand, .arrived⟩])[position]? = some visit) :
    visits[position]? = some visit ∨ visit.place = .arrived := by
  rcases Nat.lt_or_ge position visits.length with before | behind
  · rw [List.getElem?_append_left before] at there
    exact .inl there
  · rw [List.getElem?_append_right behind] at there
    have last := List.mem_singleton.mp (List.mem_of_getElem? there)
    exact .inr (by rw [last])

/-- **Every step keeps the discipline.** -/
theorem disciplined_of_step? {l l' : Locked τ} {step : Step τ} (disciplined : l.Disciplined)
    (made : l.step? step = some l') : l'.Disciplined := by
  rcases step?_cases made with ⟨position, visit, s, place, there, went, rfl⟩ | ⟨s, next, went, rfl⟩ |
    ⟨errand, rfl⟩ | ⟨s, rfl, state, -⟩
  · exact disciplined.stepped there went
  · exact disciplined.dispatched went
  · -- the newcomer neither holds the lock nor has made a transition
    refine ⟨?_, disciplined.dispatcher, ?_, disciplined.restoring, ?_⟩
    · intro position visit there holds
      rcases getElem?_arrived there with before | arrived
      · exact disciplined.visitor position visit before holds
      · simp [Visit.holds, arrived] at holds
    · intro position visit there committed
      rcases getElem?_arrived there with before | arrived
      · exact disciplined.committed position visit before committed
      · simp [Visit.isCommitted, arrived] at committed
    · intro position visit there parted
      rcases getElem?_arrived there with before | arrived
      · exact disciplined.parted position visit before parted
      · simp [Place.isParted, arrived] at parted
  · refine ⟨disciplined.visitor, disciplined.dispatcher, ?_, ?_, ?_⟩
    · exact fun position visit there committed =>
        state.trans (disciplined.committed position visit there committed)
    · exact fun commands restoring => state.trans (disciplined.restoring commands restoring)
    · intro position visit there parted
      have ending := disciplined.parted position visit there parted
      rwa [← state] at ending

/-- A run keeps the discipline. -/
theorem disciplined_of_run? {l l' : Locked τ} {steps : List (Step τ)} (disciplined : l.Disciplined)
    (run : l.run? steps = some l') : l'.Disciplined := by
  induction steps generalizing l with
  | nil =>
      obtain rfl := Option.some.inj run
      exact disciplined
  | cons step rest ih =>
      obtain ⟨next, made, remaining⟩ := Option.bind_eq_some_iff.mp (run?_cons l step rest ▸ run)
      exact ih (disciplined_of_step? disciplined made) remaining

/-! ## Callers who publish -/

/-- Whoever has been admitted finds the session connected. -/
def Sheltered (l : Locked τ) : Prop :=
  ∀ visit ∈ l.visits, visit.place = .admitted → l.session.state = .connected

/-- If a connection ends in a step, nobody has been admitted without the lock. -/
def Spares (l l' : Locked τ) : Prop :=
  l.session.state = .connected → l'.session.state ≠ .connected →
    ∀ visit ∈ l.visits, visit.place = .admitted → visit.errand.isLocking = true

/-- No connection ends between the check of a caller who publishes and its command. -/
def Spared : Locked τ → List (Step τ) → Prop
  | _, [] => True
  | l, step :: rest => ∀ l', l.step? step = some l' → l.Spares l' ∧ l'.Spared rest

/-- A step that leaves the session connected spares everybody. -/
theorem Spared.cons {l l' : Locked τ} {step : Step τ} {rest : List (Step τ)}
    (made : l.step? step = some l') (connected : l'.session.state = .connected)
    (later : l'.Spared rest) : l.Spared (step :: rest) := by
  intro other made'
  obtain rfl := Option.some.inj (made.symm.trans made')
  exact ⟨fun _ ended => absurd connected ended, later⟩

/-- Whoever has been admitted after a step had been before, or finds the session connected. -/
theorem admitted_of_step? {l l' : Locked τ} {step : Step τ} (made : l.step? step = some l')
    {visit : Visit} (mem : visit ∈ l'.visits) (admitted : visit.place = .admitted) :
    visit ∈ l.visits ∨ l'.session.state = .connected := by
  rcases step?_cases made with ⟨position, earlier, s, place, -, went, rfl⟩ | ⟨s, next, -, rfl⟩ |
    ⟨errand, rfl⟩ | ⟨s, rfl, -⟩
  · rcases List.mem_or_eq_of_mem_set mem with before | rfl
    · exact .inl before
    · obtain rfl : place = .admitted := admitted
      cases went with
      | admitted connected => exact .inr connected
  · exact .inl mem
  · rcases List.mem_append.mp mem with before | newcomer
    · exact .inl before
    · obtain rfl := List.mem_singleton.mp newcomer
      cases admitted
  · exact .inl mem

/-- A step that spares those who publish keeps them sheltered. -/
theorem sheltered_of_step? {l l' : Locked τ} {step : Step τ} (disciplined : l.Disciplined)
    (sheltered : l.Sheltered) (spares : l.Spares l') (made : l.step? step = some l') :
    l'.Sheltered := by
  intro visit mem admitted
  cases locking : visit.errand.isLocking with
  | true =>
    -- the lock does for the others what is asked of the run for those who publish
    obtain ⟨position, there⟩ := List.getElem?_of_mem mem
    have committed : visit.isCommitted = true := by simp [Visit.isCommitted, admitted, locking]
    exact (disciplined_of_step? disciplined made).committed position visit there committed
  | false =>
    rcases admitted_of_step? made mem admitted with before | connected
    · by_contra ended
      have unlocked := spares (sheltered visit before admitted) ended visit before admitted
      exact absurd (locking.symm.trans unlocked) (by simp)
    · exact connected

/-- A run that spares those who publish keeps them sheltered. -/
theorem sheltered_of_run? {l l' : Locked τ} {steps : List (Step τ)} (disciplined : l.Disciplined)
    (sheltered : l.Sheltered) (spared : l.Spared steps) (run : l.run? steps = some l') :
    l'.Sheltered := by
  induction steps generalizing l with
  | nil =>
      obtain rfl := Option.some.inj run
      exact sheltered
  | cons step rest ih =>
      obtain ⟨next, made, remaining⟩ := Option.bind_eq_some_iff.mp (run?_cons l step rest ▸ run)
      obtain ⟨spares, later⟩ := spared next made
      exact ih (disciplined_of_step? disciplined made)
        (sheltered_of_step? disciplined sheltered spares made) later remaining

/-! ## What is queued, and when -/

/-- Whoever changes the list finds the session connected. -/
theorem Disciplined.connected_of_changed {l l' : Locked τ} {step : Step τ}
    (disciplined : l.Disciplined) (made : l.step? step = some l')
    (changed : l'.session.subscriptions ≠ l.session.subscriptions) :
    l.session.state = .connected := by
  rcases step?_cases made with ⟨position, visit, s, place, there, went, rfl⟩ | ⟨s, next, went, rfl⟩ |
    ⟨errand, rfl⟩ | ⟨s, rfl, -, subscriptions, -⟩
  · have committed : visit.isCommitted = true := by
      cases went with
      | recorded _ at_ held => simpa [Visit.isCommitted, Visit.holds, at_] using held
      | untold _ at_ => simp [Visit.isCommitted, at_]
      | forsaken | forced => exact absurd (forceDisconnected_subscriptions _) changed
      | _ => exact absurd rfl changed
    exact disciplined.committed position visit there committed
  · exact absurd went.subscriptions changed
  · exact absurd rfl changed
  · exact absurd subscriptions changed

/-- Whoever queues a command about a subscription finds the session connected, and so does whoever
queues a message, if those who publish are sheltered. -/
theorem Disciplined.connected_of_queued {l l' : Locked τ} {step : Step τ} (disciplined : l.Disciplined)
    (made : l.step? step = some l') {queued : List Command}
    (commands : l'.session.commands = l.session.commands ++ queued) {command : Command}
    (mem : command ∈ queued)
    (which : command.isSubscription = true ∨ command.isPublication = true ∧ l.Sheltered) :
    l.session.state = .connected := by
  have longer : l.session.commands.length < l'.session.commands.length := by
    have some_ := List.length_pos_of_mem mem
    rw [commands, List.length_append]
    omega
  have unqueued (same : l'.session.commands = l.session.commands) : l.session.state = .connected :=
    absurd (congrArg List.length same) (Nat.ne_of_gt longer)
  rcases step?_cases made with ⟨position, visit, s, place, there, went, rfl⟩ | ⟨s, next, went, rfl⟩ |
    ⟨errand, rfl⟩ | ⟨s, rfl, -, -, shorter⟩
  · cases went with
    | told other at_ =>
      exact disciplined.committed position visit there (by simp [Visit.isCommitted, at_])
    | sent topic payload qos retain at_ =>
      obtain rfl := List.append_cancel_left commands
      obtain rfl := List.mem_singleton.mp mem
      rcases which with subscription | ⟨-, sheltered⟩
      · cases subscription
      · exact sheltered visit (List.mem_of_getElem? there) at_
    | asked at_ =>
      -- the command that ends the connection is none of those
      obtain rfl := List.append_cancel_left commands
      obtain rfl := List.mem_singleton.mp mem
      rcases which with subscription | ⟨publication, -⟩
      · cases subscription
      · cases publication
    | forsaken | forced => exact unqueued (forceDisconnected_commands _)
    | _ => exact unqueued rfl
  · rcases went.commands with same | ⟨earlier, restoring⟩
    · exact unqueued same
    · exact disciplined.restoring earlier restoring
  · exact unqueued rfl
  · exact absurd shorter (Nat.not_le_of_lt longer)

/-- **Subscriptions change, and commands are queued, only while the session is connected.** This
goes for every step that a caller, the dispatcher or anybody else takes after any others. A command
about a subscription is queued over a connection that no caller has made the transition to end, so
that it comes ahead of the command that ends it; and so is a message, if no connection has ended
between the check of a caller who publishes and its command. -/
theorem queued_while_connected {s : Session τ} {steps : List (Step τ)} {step : Step τ} {l l' : Locked τ}
    (run : (start s).run? steps = some l) (made : l.step? step = some l') :
    (l'.session.subscriptions ≠ l.session.subscriptions → l.session.state = .connected) ∧
      ∀ queued, l'.session.commands = l.session.commands ++ queued → ∀ command ∈ queued,
        command.isSubscription = true ∨ command.isPublication = true ∧ (start s).Spared steps →
        l.session.state = .connected ∧ ∀ visit ∈ l.visits, visit.place.isParted = false := by
  have disciplined := disciplined_of_run? (start_disciplined s) run
  -- what is queued and what is changed is the step's doing, so that only its point of departure counts
  refine ⟨disciplined.connected_of_changed made, fun queued commands command mem which => ?_⟩
  have connected : l.session.state = .connected := by
    refine disciplined.connected_of_queued made commands mem (which.imp_right ?_)
    rintro ⟨publication, spared⟩
    exact ⟨publication, sheltered_of_run? (start_disciplined s) nofun spared run⟩
  refine ⟨connected, fun visit there => ?_⟩
  obtain ⟨position, there⟩ := List.getElem?_of_mem there
  -- a caller who had made the transition would have left no connection
  by_contra parted
  exact not_isEnding_of_connected connected
    (disciplined.parted position visit there (Bool.of_not_eq_false parted))

/-- The moves that connect a session. -/
def dialing : List (Move Rehearsal) := [.ask .connect, .takeCommand, .takeEvent, .dispatch]

/-- A caller who subscribes has changed the list, one who wants to end the connection waits for the
lock, and one who publishes has been admitted. -/
def crowded : List (Step Rehearsal) :=
  [.arrive (.change (.add "a/b" .atLeastOnce "red")), .arrive .disconnect,
    .arrive (.publish "t" [120] .atMostOnce false), .visitor 0, .visitor 0, .visitor 2, .visitor 0]

/-- Two callers queue their commands over a connection, the one with the lock and the other without
it, while a third one waits for the lock to end it. -/
theorem queued_while_connected_crowded :
    ∃ s l told sent, (rehearsed {}).run? dialing = some s ∧ (start s).run? crowded = some l ∧
      l.step? (.visitor 1) = none ∧
      l.step? (.visitor 0) = some told ∧
      told.session.commands = l.session.commands ++ [.subscribe "a/b" .atLeastOnce] ∧
      l.step? (.visitor 2) = some sent ∧
      sent.session.commands = l.session.commands ++ [.publish "t" [120] .atMostOnce false] ∧
      l.session.state = .connected ∧ ∀ visit ∈ l.visits, visit.place.isParted = false := by
  obtain ⟨s, l, told, sent, dialed, run, waits, tells, subscribed, sends, published, spared⟩ :
      ∃ s l told sent, (rehearsed {}).run? dialing = some s ∧ (start s).run? crowded = some l ∧
        l.step? (.visitor 1) = none ∧
        l.step? (.visitor 0) = some told ∧
        told.session.commands = l.session.commands ++ [.subscribe "a/b" .atLeastOnce] ∧
        l.step? (.visitor 2) = some sent ∧
        sent.session.commands = l.session.commands ++ [.publish "t" [120] .atMostOnce false] ∧
        (start s).Spared crowded :=
    ⟨_, _, _, _, rfl, rfl, rfl, rfl, rfl, rfl, rfl, .cons rfl rfl <| .cons rfl rfl <| .cons rfl rfl <|
      .cons rfl rfl <| .cons rfl rfl <| .cons rfl rfl <| .cons rfl rfl trivial⟩
  obtain ⟨-, commands⟩ := queued_while_connected run sends
  exact ⟨s, l, told, sent, dialed, run, waits, tells, subscribed, sends, published,
    commands _ published _ List.mem_cons_self (.inr ⟨rfl, spared⟩)⟩

/-! ## A message that comes too late -/

/-- A caller who publishes is admitted, another one ends the connection, and only then is the
message queued. -/
def belated (topic : String) (payload : List UInt8) (qos : Qos) (retain : Bool) : List (Step τ) :=
  [.arrive (.publish topic payload qos retain), .arrive .disconnect, .visitor 0, .visitor 1, .visitor 1,
    .visitor 1, .visitor 0, .visitor 0]

/-- **No connection is safe from a message that comes too late**, as long as the worker is left: the
message is queued behind the command that ends the connection, in a session that is not connected
any more, and the caller is told that all is well. -/
theorem run?_belated {s : Session τ} {topic : String} (valid : Topic.checkName topic = .ok ())
    (connected : s.state = .connected) (left : s.worker.footing ≠ .stopped) (payload : List UInt8)
    (qos : Qos) (retain : Bool) :
    ∃ l, (start s).run? (belated topic payload qos retain) = some l ∧
      l.visits.map (·.place) = [.done (.ok ()), .gone (.ok ())] ∧
      l.session.state = .disconnecting ∧
      l.session.commands = s.commands ++ [.disconnect, .publish topic payload qos retain] ∧
      l.session.history = s.history ++ [⟨topic, payload, qos, retain, .published⟩] := by
  have admitted : Visit.next? s true ⟨.publish topic payload qos retain, .arrived⟩ =
      some (s, .admitted) := by
    simp [Visit.next?, valid, Visit.check, connected, ConnectionState.acceptsCommands]
  -- the lock is free, since the one who has been admitted does not hold it
  have ending : s.transition? .disconnectRequested = some (s.enter .disconnecting) :=
    transition?_eq_some_iff.mpr ⟨_, by rw [connected]; rfl, rfl⟩
  have parted : Visit.next? s false ⟨.disconnect, .inside⟩ =
      some (s.enter .disconnecting, .parted) := by
    simp only [Visit.next?, ending]
  have asked : Visit.next? (s.enter .disconnecting) true ⟨.disconnect, .parted⟩ =
      some ((s.enter .disconnecting).enqueue [.disconnect], .gone (.ok ())) := by
    simp only [Visit.next?, send?_of_ne_stopped (s := s.enter .disconnecting) left]
  have sent : Visit.next? ((s.enter .disconnecting).enqueue [.disconnect]) true
      ⟨.publish topic payload qos retain, .admitted⟩ =
        some (((s.enter .disconnecting).enqueue [.disconnect]).enqueue
          [.publish topic payload qos retain], .queued) := by
    simp only [Visit.next?,
      send?_of_ne_stopped (s := (s.enter .disconnecting).enqueue [.disconnect]) left]
  refine ⟨_, (run?_visitor rfl admitted _).trans <| (run?_visitor rfl rfl _).trans <|
    (run?_visitor rfl parted _).trans <| (run?_visitor rfl asked _).trans <|
    (run?_visitor rfl sent _).trans <| run?_visitor rfl rfl _, rfl, rfl, ?_, rfl⟩
  exact List.append_assoc _ _ _

/-- **A message that comes too late is lost.** The caller is told that all is well, and the message
is in the history. But it was queued when the session was not connected any more, behind the command
that ends the connection, and the worker never hands it to the transport. -/
theorem queued_too_late :
    ∃ s l l' l'', (rehearsed {}).run? dialing = some s ∧
      (start s).run? ((belated "t" [120] .atMostOnce false).take 6) = some l ∧
      l.session.state = .disconnecting ∧ l.session.commands = [.disconnect] ∧
      l.run? [.visitor 0, .visitor 0] = some l' ∧
      l'.session.state = .disconnecting ∧
      l'.session.commands = [.disconnect, .publish "t" [120] .atMostOnce false] ∧
      l'.visits.map (·.place) = [.done (.ok ()), .gone (.ok ())] ∧
      l'.session.history = [⟨"t", [120], .atMostOnce, false, .published⟩] ∧
      l'.run? [.other .takeCommand, .other .takeCommand] = some l'' ∧
      l''.session.commands = [] ∧
      ∀ call ∈ l''.session.worker.transport.calls, call.kind ≠ .publish := by
  refine ⟨_, _, _, _, rfl, rfl, rfl, rfl, rfl, rfl, rfl, rfl, rfl, rfl, rfl, ?_⟩
  decide

end Locked

end MqttSessions
