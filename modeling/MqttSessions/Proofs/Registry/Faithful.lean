import MqttSessions.Proofs.Registry.World
import MqttSessions.Proofs.Session.Wire

/-! # A session connects with its own profile

Whoever asks a session to connect queues its own profile for that, and nobody else queues a connection. So
whatever is done in the world of a registry, its sessions never connect with the profile of another session,
nor with one that has been read under their id later on.

* **`Transport.Upholds`**: what is true of a transport however it is used, unless that is to connect with
  another profile;
* **`Session.Faithful`**: the connections that are queued are for the profile of the session, and so are those
  that have been made. Every move of every party keeps it so (**`Session.Faithful.move?`**), and so do time and
  the closing of the session;
* **`Registry.Each`**: what is true of every session of a registry;
* **`World.faithful_run`**: every session of a registry is faithful, whatever is done in its world;
* **`World.connects_own`**: what that says of the calls that a transport tells of (**`World.Notes`**), as a
  rehearsal does. -/

namespace MqttSessions

/-- A call connects with no other profile than one. -/
def Call.Suits (profile : Profile) (call : Call) : Prop := ∀ other, call = .connect other → other = profile

/-- Only a command to connect leads to a connection. -/
theorem Command.suits {profile : Profile} {command : Command}
    (other : command.event? ≠ some .connectRequested) : command.call.Suits profile := by
  intro dialed same
  cases command with
  | connect => exact absurd rfl other
  | _ => cases same

/-- What is true of the transport of a profile stays true when it is polled, and whatever it is asked for but
to connect with another profile. -/
structure Transport.Upholds {τ : Type} [Transport τ] (Own : Profile → τ → Prop) : Prop where
  performed : ∀ {profile : Profile} {t : τ} {call : Call}, Own profile t → call.Suits profile →
    Own profile (Transport.perform call t).2
  polled : ∀ {profile : Profile} {t t' : τ} {event : LinkEvent}, Own profile t →
    Transport.poll t = some (event, t') → Own profile t'

namespace Rehearsal

/-- **A rehearsal notes every call**, whatever goes wrong with it. -/
theorem perform_calls (r : Rehearsal) (call : Call) :
    (Transport.perform call r).2.calls = r.calls ++ [call] := by
  have carried : (r.carryOut call).2.calls = r.calls ++ [call] := by
    unfold carryOut
    cases call with
    | connect =>
      simp only
      split
      · rfl
      · split <;> rfl
    | subscribe =>
      simp only
      split <;> rfl
    | _ => rfl
  change (r.perform call).2.calls = _
  unfold perform
  -- what goes wrong does so after the call has been noted
  simp only
  split_ifs <;> exact carried

theorem poll_calls {r r' : Rehearsal} {event : LinkEvent} (polled : Transport.poll r = some (event, r')) :
    r'.calls = r.calls := by
  change r.poll = some (event, r') at polled
  unfold poll at polled
  split at polled
  · cases polled
  · cases polled
    rfl

end Rehearsal

namespace Session

variable {τ : Type} {s s' : Session τ} {Own : Profile → τ → Prop}

/-- Every connection that is queued is one with the profile of the session, and so is every one of those that
its transport tells of. -/
structure Faithful (Own : Profile → τ → Prop) (s : Session τ) : Prop where
  queued : ∀ command ∈ s.commands, command.call.Suits s.profile
  held : Own s.profile s.worker.transport

namespace Faithful

/-- A step that queues nothing and leaves the transport alone. -/
theorem of_same (faithful : s.Faithful Own) (profile : s'.profile = s.profile)
    (commands : s'.commands ⊆ s.commands) (transport : s'.worker.transport = s.worker.transport) :
    s'.Faithful Own where
  queued command mem := profile ▸ faithful.queued command (commands mem)
  held := profile ▸ transport ▸ faithful.held

/-- What a worker that has settled leaves of the commands. -/
theorem settleWorker_subset (s : Session τ) (worker : Worker τ) (reports : List Report) :
    (s.settleWorker worker reports).commands ⊆ s.commands := by
  simp only [settleWorker]
  split
  · exact List.nil_subset _
  · exact List.Subset.refl _

theorem stopWorker (faithful : s.Faithful Own) : s.stopWorker.Faithful Own :=
  faithful.of_same rfl (settleWorker_subset s _ _) rfl

theorem stopTicker (faithful : s.Faithful Own) : s.stopTicker.Faithful Own :=
  faithful.of_same rfl (List.Subset.refl _) rfl

theorem forceDisconnected (faithful : s.Faithful Own) : s.forceDisconnected.Faithful Own := by
  have profile : s.forceDisconnected.profile = s.profile := by
    unfold Session.forceDisconnected
    split <;> rfl
  refine faithful.of_same profile ?_ ?_
  · rw [forceDisconnected_commands]
    exact List.Subset.refl _
  · rw [forceDisconnected_worker]

theorem follow (faithful : s.Faithful Own) : s.follow.Faithful Own := by
  obtain ⟨_, same⟩ := follow_frame s
  rw [same]
  exact faithful.of_same rfl (List.Subset.refl _) rfl

/-- A command that connects with nobody may be sent. -/
theorem send? (faithful : s.Faithful Own) (command : Command)
    (other : command.event? ≠ some .connectRequested) : ((s.send? command).getD s).Faithful Own := by
  cases sent : s.send? command with
  | none => exact faithful
  | some after =>
    obtain ⟨-, rfl⟩ := send?_eq_some_iff.mp sent
    refine ⟨fun queued mem => ?_, faithful.held⟩
    rcases List.mem_append.mp mem with before | new
    · exact faithful.queued queued before
    · rw [List.mem_singleton.mp new]
      exact Command.suits other

/-- **Whoever asks a session to connect queues its own profile for that**, and other requests queue no
connection. -/
theorem ask_suits (s : Session τ) (request : Request) :
    ∀ command ∈ (s.ask request).2.commands, command ∈ s.commands ∨ command.call.Suits s.profile := by
  intro command mem
  by_cases connects : request = .connect
  · subst connects
    change command ∈ s.requestConnect.2.commands at mem
    rcases requestConnect_cases s with ⟨failure, made⟩ | ⟨-, -, made⟩ | ⟨-, -, made⟩
    · rw [made] at mem
      exact .inl mem
    · rw [made] at mem
      refine (List.mem_append.mp mem).imp_right fun new other same => ?_
      rw [List.mem_singleton.mp new] at same
      exact (Call.connect.inj same).symm
    · rw [made] at mem
      exact .inl mem
  · have asked := ask_asked s request
    generalize (s.ask request).1 = outcome at asked
    cases asked with
    | @granted _ event asks stands _ _ said queued =>
      rw [queued] at mem
      refine (List.mem_append.mp mem).imp_right fun new => ?_
      rw [List.mem_singleton.mp new]
      refine Command.suits fun connecting => connects ?_
      rw [said] at connecting
      rw [connecting] at stands
      cases request <;> first | rfl | cases stands
    | passed commands _ _ silent queued =>
      rw [queued] at mem
      refine (List.mem_append.mp mem).imp_right fun new => ?_
      exact Command.suits (by simp [silent command new])
    | forsaken _ _ queued => exact .inl (queued ▸ mem)

variable [Transport τ]

/-- **Every move keeps a session faithful**, if the network upholds what is true of its transport. -/
theorem move? (upholds : Transport.Upholds Own) (faithful : s.Faithful Own) (move : Move τ)
    (drifted : ∀ change, move = .drift change → ∀ t, Own s.profile t → Own s.profile (change t))
    (made : s.move? move = some s') : s'.Faithful Own := by
  have profile := (fixed_of_move? made).1
  cases move with
  | ask request =>
    obtain rfl := Option.some.inj made
    refine ⟨fun command mem => ?_, ?_⟩
    · rw [profile]
      exact (ask_suits s request command mem).elim (faithful.queued command) id
    · rw [profile, ask_worker]
      exact faithful.held
  | takeCommand =>
    obtain ⟨-, command, rest, commands, rfl⟩ := takeCommand?_eq_some_iff.mp made
    obtain ⟨queued, held⟩ := faithful
    rw [commands] at queued
    obtain ⟨suits, others⟩ := List.forall_mem_cons.mp queued
    refine ⟨fun other mem => others other (settleWorker_subset _ _ _ mem), ?_⟩
    change Own s.profile (s.worker.take command).1.transport
    rw [Worker.take_transport]
    split
    · exact upholds.performed held suits
    · exact held
  | takeEvent =>
    obtain ⟨-, -, -, -, commands, -, ⟨event, polled⟩, -⟩ := takeEvent?_eq_some made
    refine ⟨?_, ?_⟩
    · rw [profile, commands]
      exact faithful.queued
    · rw [profile]
      exact upholds.polled faithful.held polled
  | dispatch =>
    obtain ⟨report, -, worker, -, commands, -⟩ := dispatch?_eq_some made
    refine ⟨fun command mem => ?_, ?_⟩
    · rw [commands] at mem
      rw [profile]
      rcases List.mem_append.mp mem with before | new
      · exact faithful.queued command before
      · -- only subscriptions are restored
        obtain ⟨entry, -, rfl⟩ := mem_restored new
        exact Command.suits (by simp [Command.event?])
    · rw [profile, worker]
      exact faithful.held
  | tick | finishTicker =>
    obtain ⟨-, made⟩ := Option.ite_none_right_eq_some.mp made
    obtain rfl := Option.some.inj made
    obtain ⟨_, _, same⟩ := handOver_frame s
    rw [same]
    exact faithful.of_same rfl (List.Subset.refl _) rfl
  | elapse =>
    obtain rfl := Option.some.inj made
    exact faithful.of_same rfl (List.Subset.refl _) rfl
  | drift change =>
    obtain rfl := Option.some.inj made
    exact ⟨faithful.queued, drifted change rfl _ faithful.held⟩

/-- What the parties do on their own keeps a session faithful. -/
theorem ownSteps (upholds : Transport.Upholds Own) :
    OwnSteps fun s s' : Session τ => s.Faithful Own → s'.Faithful Own := by
  refine .of_moves (fun _ => id) (fun first second => second ∘ first) (fun move other made faithful => ?_)
    fun _ => Faithful.follow
  exact faithful.move? upholds move (fun change drifts => absurd drifts (other change)) made

theorem settle (upholds : Transport.Upholds Own) (faithful : s.Faithful Own) : s.settle.Faithful Own :=
  (ownSteps upholds).settle s faithful

theorem advance (upholds : Transport.Upholds Own) (faithful : s.Faithful Own) (ms : Nat) :
    (s.advance ms).Faithful Own :=
  (ownSteps upholds).advance (fun made faithful => faithful.move? upholds .tick nofun made)
    (fun _ _ faithful => faithful.of_same rfl (List.Subset.refl _) rfl) s ms faithful

theorem waitFor (upholds : Transport.Upholds Own) (faithful : s.Faithful Own) (target : ConnectionState)
    (ms : Nat) : (s.waitFor target ms).2.Faithful Own := by
  unfold Session.waitFor
  split
  · exact faithful
  · split
    · exact faithful
    · simp only
      split
      · exact faithful.settle upholds
      · exact (faithful.settle upholds).advance upholds ms

theorem stopAll (upholds : Transport.Upholds Own) (faithful : s.Faithful Own) : s.stopAll.Faithful Own := by
  unfold Session.stopAll
  split
  · exact faithful.stopWorker.of_same rfl (List.Subset.refl _) rfl
  · have told := ((faithful.send? .shutdown nofun).stopTicker).settle upholds
    simp only
    split
    · exact told
    · exact (told.advance upholds _).stopWorker.settle upholds

/-- **Closing keeps a session faithful.** -/
theorem close (upholds : Transport.Upholds Own) (faithful : s.Faithful Own) : s.close.Faithful Own := by
  have begun : Faithful Own { s with closed := true } := faithful.of_same rfl (List.Subset.refl _) rfl
  have asked := begun.move? upholds (.ask .disconnect) nofun rfl
  unfold Session.close
  split
  · exact faithful
  · refine (Faithful.stopAll upholds ?_).forceDisconnected
    simp only
    split
    · split
      · exact asked
      · exact asked.waitFor upholds _ _
    · split
      · exact begun
      · exact begun.waitFor upholds _ _

end Faithful

end Session

/-! ## All sessions of a registry -/

namespace Registry

variable {τ : Type} {r r' : Registry τ} {Holds : Session τ → Prop}

/-- Something is true of every session of a registry. -/
def Each (Holds : Session τ → Prop) (r : Registry τ) : Prop :=
  ∀ number s, r.session? number = some s → Holds s

/-- Something stays true of a session when time passes, when its fresh looks are taken, and when it is
closed. -/
structure Lasts [Transport τ] (Holds : Session τ → Prop) : Prop where
  pass : ∀ {s : Session τ} (ms : Nat), Holds s → Holds (s.pass ms)
  takeRefreshes : ∀ {s : Session τ}, Holds s → Holds s.takeRefreshes.2
  stopFollower : ∀ {s : Session τ}, Holds s → Holds s.stopFollower
  close : ∀ {s : Session τ}, Holds s → Holds s.close

namespace Each

theorem of_sessions (each : r.Each Holds) (same : r'.sessions = r.sessions) : r'.Each Holds := by
  intro number s found
  rw [session?, same] at found
  exact each number s found

/-- A profile has been added, or has not. -/
theorem add (each : r.Each Holds) {disk disk' : Disk} {profile : Profile} {outcome : Outcome}
    (adds : r.add disk profile = (outcome, r', disk')) : r'.Each Holds := by
  cases added_of_add adds with
  | known => exact each
  | unsaved => exact each
  | saved => exact each.of_sessions rfl

/-- A session has been created. -/
theorem enrol (each : r.Each Holds) {profile : Profile} {transport : τ}
    (new : Holds (Session.create profile transport r.settings).startFollower) :
    (r.enrol profile transport).Each Holds := by
  intro number s found
  rcases enrol_session?_cases found with ⟨-, rfl⟩ | old
  · exact new
  · exact each number s old

variable [Transport τ]

/-- Time has passed for all sessions. -/
theorem advance (lasts : Lasts Holds) (each : r.Each Holds) (ms : Nat) : (r.advance ms).Each Holds := by
  intro number s found
  rw [advance_session?] at found
  obtain ⟨before, there, rfl⟩ := Option.map_eq_some_iff.mp found
  exact lasts.takeRefreshes (lasts.pass ms (each number before there))

/-- A step of one session has been taken. -/
theorem inSession {α : Type} (lasts : Lasts Holds) (each : r.Each Holds) {number : Nat}
    {step : Session τ → α × Session τ} (kept : ∀ s, Holds s → Holds (step s).2) :
    (r.inSession number step).2.Each Holds := by
  cases there : r.session? number with
  | none =>
    rw [inSession_of_none there]
    exact each
  | some before =>
    intro other s found
    rw [inSession_session? there] at found
    split at found
    · obtain rfl := Option.some.inj found
      exact lasts.takeRefreshes (kept before (each number before there))
    · exact each.advance lasts _ other s found

/-- A session has been evicted. -/
theorem evict (lasts : Lasts Holds) (each : r.Each Holds) (id : String) : (r.evict id).Each Holds := by
  cases cached : r.cached? id with
  | none =>
    rw [evict_of_none cached]
    exact each
  | some number =>
    have uncached : (r.uncache id).Each Holds := each.of_sessions rfl
    rw [evict_of_some cached]
    exact uncached.inSession lasts fun s holds => lasts.stopFollower (lasts.close holds)

/-- Sessions have been evicted one after the other. -/
theorem evictAll (lasts : Lasts Holds) (each : r.Each Holds) (ids : List String) :
    (ids.foldl Registry.evict r).Each Holds := by
  induction ids generalizing r with
  | nil => exact each
  | cons id rest ih => exact ih (each.evict lasts id)

/-- A profile has been deleted, or has not. -/
theorem delete (lasts : Lasts Holds) (each : r.Each Holds) {disk disk' : Disk} {id : String}
    {outcome : Outcome} (deletes : r.delete disk id = (outcome, r', disk')) : r'.Each Holds := by
  cases deleted_of_delete deletes with
  | unknown => exact each
  | unsaved => exact each.evict lasts id
  | saved => exact (each.evict lasts id).of_sessions rfl

/-- The document has been read again, or has not. -/
theorem reload (lasts : Lasts Holds) (each : r.Each Holds) {disk disk' : Disk} {ids : Nat → String}
    {outcome : Outcome} {fetched : Except Store.Failure Store.Fetched}
    (reloads : r.reload disk ids = (outcome, r', disk', fetched)) : r'.Each Holds := by
  cases reloaded_of_reload reloads with
  | unread => exact each
  | read => exact (each.evictAll lasts _).of_sessions rfl

/-- A party of a session has made a move, if it could. -/
theorem moved (each : r.Each Holds) {number : Nat} {move : Session.Move τ}
    (kept : ∀ s s', Holds s → s.move? move = some s' → Holds s') : (r.moved number move).Each Holds := by
  rw [Registry.moved]
  split
  · exact each
  · rename_i after made
    obtain ⟨before, there, made⟩ := Option.bind_eq_some_iff.mp made
    intro other s found
    simp only [session?, List.getElem?_set] at found
    split at found
    · split at found
      · obtain rfl := Option.some.inj found
        exact kept before after (each number before there) made
      · cases found
    · exact each other s found

end Each

end Registry

namespace World

open Registry (Each Lasts)

variable {τ φ : Type} [Transport τ] {w : World τ φ} {make : Profile → φ → τ × φ}
  {Holds : Session τ → Prop}

/-- **What is true of all sessions stays true after a deed**, if it is true of new ones and the move of the
deed keeps it, if it is one. -/
theorem each_after (lasts : Lasts Holds) (each : w.registry.Each Holds)
    (new : ∀ profile factory settings,
      Holds (Session.create profile (make profile factory).1 settings).startFollower)
    {deed : Deed τ}
    (kept : ∀ number move, deed = .move number move → ∀ s s', Holds s → s.move? move = some s' → Holds s') :
    (w.after make deed).registry.Each Holds := by
  cases deed with
  | add profile => exact each.add rfl
  | delete id => exact each.delete lasts rfl
  | reload ids => exact each.reload lasts rfl
  | client id =>
    change (w.client make id).2.registry.Each Holds
    rcases client_cases w make id with ⟨same, -⟩ | ⟨profile, -, -, -, same⟩
    · rw [same]
      exact each
    · rw [same]
      exact each.enrol (new profile w.factory _)
  | shutdown => exact each.evictAll lasts _
  | close number => exact each.inSession lasts fun s => lasts.close
  | move number move => exact each.moved (kept number move rfl)
  | elapse ms => exact each.advance lasts ms
  | edit change => exact each

/-- What is true of all sessions stays true through all deeds. -/
theorem each_run (lasts : Lasts Holds) (each : w.registry.Each Holds)
    (new : ∀ profile factory settings,
      Holds (Session.create profile (make profile factory).1 settings).startFollower)
    {deeds : List (Deed τ)}
    (kept : ∀ number move, .move number move ∈ deeds → ∀ s s', Holds s → s.move? move = some s' → Holds s') :
    (w.run make deeds).registry.Each Holds := by
  induction deeds generalizing w with
  | nil => exact each
  | cons deed rest ih =>
    have first := each_after lasts each new fun number move same =>
      kept number move (same ▸ List.mem_cons_self)
    exact ih first fun number move mem => kept number move (List.mem_cons_of_mem _ mem)

/-! ## Connections with the profile of the session -/

/-- Faithful sessions last. -/
theorem lasts_faithful {Own : Profile → τ → Prop} (upholds : Transport.Upholds Own) :
    Lasts fun s : Session τ => s.Faithful Own where
  pass ms faithful := by
    unfold Session.pass
    split
    · exact faithful
    · exact faithful.advance upholds ms
  takeRefreshes faithful := faithful.of_same rfl (List.Subset.refl _) rfl
  stopFollower faithful := faithful.of_same rfl (List.Subset.refl _) rfl
  close faithful := faithful.close upholds

/-- **Every session of a registry is faithful to its profile**, whatever is done in its world, if the network
upholds what is true of the transports. -/
theorem faithful_run {Own : Profile → τ → Prop} (upholds : Transport.Upholds Own) {deeds : List (Deed τ)}
    (new : ∀ profile factory, Own profile (make profile factory).1)
    (drifted : ∀ number change, .move number (.drift change) ∈ deeds →
      ∀ profile t, Own profile t → Own profile (change t))
    (store : Store) (settings : SessionSettings) (disk : Disk) (ids : Nat → String) (factory : φ) :
    ((opened store settings disk ids factory).run make deeds).registry.Each (·.Faithful Own) := by
  refine each_run (lasts_faithful upholds) ?_ ?_ ?_
  · -- there is no session yet
    intro number s found
    simp [opened, Registry.session?, Registry.create, Registry.ofFetched] at found
  · intro profile factory settings
    exact ⟨fun command mem => absurd mem List.not_mem_nil, new profile factory⟩
  · intro number move mem s s' faithful made
    refine faithful.move? upholds move (fun change same t => ?_) made
    exact drifted number change (same ▸ mem) s.profile t

/-- Something tells the calls that have been made to a transport: none to a new one, then each that is made.
Neither polling a transport nor what some deeds let the network do to it is a call. -/
structure Notes (make : Profile → φ → τ × φ) (deeds : List (Deed τ)) (calls : τ → List Call) : Prop where
  fresh : ∀ profile factory, calls (make profile factory).1 = []
  performed : ∀ call t, calls (Transport.perform call t).2 = calls t ++ [call]
  polled : ∀ t event t', Transport.poll t = some (event, t') → calls t' = calls t
  drifted : ∀ number change, .move number (.drift change) ∈ deeds → ∀ t, calls (change t) = calls t

/-- That all connections that are noted are with one profile is upheld. -/
theorem Notes.upholds {deeds : List (Deed τ)} {calls : τ → List Call} (notes : Notes make deeds calls) :
    Transport.Upholds fun profile t => ∀ call ∈ calls t, call.Suits profile where
  performed {profile t call} held suits other mem := by
    rw [notes.performed] at mem
    rcases List.mem_append.mp mem with before | new
    · exact held other before
    · rw [List.mem_singleton.mp new]
      exact suits
  polled held polled := by
    rw [notes.polled _ _ _ polled]
    exact held

/-- A rehearsal notes its calls, as long as nothing else is done to it. -/
theorem notes_rehearse {deeds : List (Deed Rehearsal)}
    (undisturbed : ∀ number change, .move number (.drift change) ∉ deeds) :
    Notes rehearse deeds Rehearsal.calls where
  fresh _ _ := rfl
  performed call t := Rehearsal.perform_calls t call
  polled _ _ _ polled := Rehearsal.poll_calls polled
  drifted number change mem := absurd mem (undisturbed number change)

/-- **A session connects with its own profile.** Every connection that is queued in a session is for its own
profile, and so is every connect call that has been made to its transport. -/
theorem connects_own (make : Profile → φ → τ × φ) (store : Store) (settings : SessionSettings) (disk : Disk)
    (ids : Nat → String) (factory : φ) (deeds : List (Deed τ)) {number : Nat} {s : Session τ}
    (found : ((opened store settings disk ids factory).run make deeds).registry.session? number = some s) :
    (∀ profile, .connect profile ∈ s.commands → profile = s.profile) ∧
      ∀ calls, Notes make deeds calls →
        ∀ profile, .connect profile ∈ calls s.worker.transport → profile = s.profile := by
  refine ⟨fun profile mem => ?_, fun calls notes profile mem => ?_⟩
  · -- for what is queued nothing needs to be known of the transport
    have upholds : Transport.Upholds fun (_ : Profile) (_ : τ) => True :=
      ⟨fun _ _ => trivial, fun _ _ => trivial⟩
    have faithful := faithful_run upholds (fun _ _ => trivial) (fun _ _ _ _ _ _ => trivial) store settings
      disk ids factory number s found
    exact faithful.queued _ mem profile rfl
  · have faithful := faithful_run notes.upholds (by simp [notes.fresh])
      (fun number change mem profile t held => by rwa [notes.drifted number change mem]) store settings disk
      ids factory number s found
    exact faithful.held _ mem profile rfl

end World

end MqttSessions
