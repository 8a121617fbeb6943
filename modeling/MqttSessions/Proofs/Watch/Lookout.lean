import MqttSessions.Proofs.Watch.Trail

/-! # Whether a watch ends when the connection is lost

A watch learns of the loss of the connection only by reading it. If the watch falls behind, the loss may not be
kept any more when it comes to read it, and then the watch waits for announcements of a session that announces
nothing any more.

How far the watch falls behind does not matter for that, but only how many announcements there can be behind the
loss, since a watch that has missed something goes on with the oldest announcement that is kept. There are two
of them at most (**`Tardy.Orderly`**), so a feed of three keeps the loss until it is read.

* **`Watch.Passed`**: a watch that goes on has missed every loss that it is past;
* **`Lookout.Sound`**: what holds since a watch was started, which every act keeps (**`Lookout.Sound.step?`**);
* **`Lookout.ends_after_loss`**: a watch on a feed of three or more ends when the connection is lost;
* **`Lookout.Hangs`**: a watch waits for nothing, which it does for good (**`Lookout.Hangs.run?`**);
* **`Lookout.hangs_after_loss`**: on a feed of one a watch may hang;
* **`Lookout.hangs_iff`**: settings let a watch hang just if they want fewer than three announcements kept. -/

namespace MqttSessions

namespace Watch

/-! ## What a watch is past -/

/-- A watch has not read further than has been announced, and if it goes on it has missed every loss after
some moment that it is past: that is not kept any more. -/
structure Passed (since : Nat) (feed : Feed SessionEvent) (w : Watch) : Prop where
  within : w.position ≤ feed.position
  missed : w.ended = false → ∀ i, since ≤ i → i < w.position → feed.toList[i]? = some .lost →
    i + feed.capacity < feed.position

variable {since : Nat} {feed : Feed SessionEvent} {w w' : Watch}

theorem passed_start (feed : Feed SessionEvent) : (start feed).Passed feed.position feed where
  within := Nat.le_refl _
  missed _ _ later before := absurd later (Nat.not_le_of_lt before)

/-- What is not kept any more is not kept later. -/
theorem Passed.announced (passed : w.Passed since feed) (events : List SessionEvent) :
    w.Passed since (events.foldl Feed.push feed) where
  within := by
    rw [Feed.position_foldl_push]
    exact Nat.le_add_right_of_le passed.within
  missed going i later before there := by
    have old : i < feed.toList.length := by
      rw [Feed.length_toList]
      exact Nat.lt_of_lt_of_le before passed.within
    rw [Feed.toList_foldl_push, List.getElem?_append_left old] at there
    rw [Feed.capacity_foldl_push, Feed.position_foldl_push]
    exact Nat.lt_add_right _ (passed.missed going i later before there)

/-- **A step of a watch**: it ends with a loss that it reads, and what it skips is not kept. -/
theorem Passed.read? (passed : w.Passed since feed) (read : w.read? feed = some w') :
    w.position < w'.position ∧ w'.Passed since feed := by
  obtain ⟨going, reading, position, next, rfl⟩ := read?_eq_some read
  cases reading with
  | item event =>
    obtain ⟨there, rfl⟩ := Feed.getElem?_of_next?_eq_item next
    obtain ⟨stands, -, ends⟩ := take_item { w with position := w.position + 1 } event
    refine ⟨by rw [stands]; exact Nat.lt_succ_self _, ?_, ?_⟩
    · rw [stands]
      exact (Feed.next?_eq_item next).1
    · intro goes i later before lost
      rw [stands] at before
      rcases Nat.lt_succ_iff_lt_or_eq.mp before with earlier | rfl
      · exact passed.missed going i later earlier lost
      · -- the loss has just been read
        obtain rfl := Option.some.inj (there.symm.trans lost)
        simp [ends] at goes
  | missed count =>
    obtain ⟨behind, rfl⟩ := Feed.next?_eq_missed next
    refine ⟨behind, Nat.sub_le _ _, fun _ i _ before _ => ?_⟩
    exact Nat.add_lt_of_lt_sub before

/-- A watch that goes on has nothing to read just if it has read everything. -/
theorem read?_eq_none_iff (going : w.ended = false) : w.read? feed = none ↔ feed.position ≤ w.position := by
  rw [Watch.read?, if_neg (by simp [going]), Option.map_eq_none_iff, Feed.next?_eq_none_iff]

/-- **A watch that is run makes all steps that can be made.** -/
theorem Passed.run (passed : w.Passed since feed) :
    (w.run feed).Passed since feed ∧ (w.run feed).read? feed = none := by
  have enough : feed.position < w.position + (feed.position + 1) := by omega
  rw [Watch.run]
  -- a step reads further, so the fuel is enough as long as it is more than what is left to read
  generalize feed.position + 1 = fuel at enough
  induction fuel generalizing w with
  | zero => exact absurd passed.within (Nat.not_le_of_lt enough)
  | succ fuel ih =>
    rw [exhaust]
    cases read : w.read? feed with
    | none => exact ⟨passed, read⟩
    | some next =>
      obtain ⟨further, passed⟩ := passed.read? read
      exact ih passed (by omega)

end Watch

/-! ## A session that is watched -/

namespace Lookout

variable {τ : Type} [Transport τ]

/-- What holds since a watch was started on a connected session. -/
structure Sound (most since : Nat) (l : Lookout τ) : Prop where
  orderly : l.tardy.Orderly most
  course : l.tardy.Course most since
  passed : l.watch.Passed since l.tardy.session.feed
  /-- More announcements are kept than there can be behind the loss. -/
  room : most < l.tardy.session.feed.capacity

variable {l l' : Lookout τ} {most since : Nat}

/-- **Every act keeps a lookout sound**, if a ticker is held up only where there may be two batches behind the
loss. -/
theorem Sound.step? (sound : l.Sound most since) (positive : 1 ≤ most) {act : Act τ}
    (allowed : act = .move .take → 2 ≤ most) (done : l.step? act = some l') : l'.Sound most since := by
  cases act with
  | move move =>
    obtain ⟨other, done⟩ := Option.ite_none_right_eq_some.mp done
    obtain ⟨tardy, made, rfl⟩ := Option.map_eq_some_iff.mp done
    obtain ⟨events, feed⟩ := Tardy.feed_of_move? made
    refine ⟨?_, sound.course.move? sound.orderly other made, ?_, ?_⟩
    · exact sound.orderly.move? positive (fun takes => allowed (congrArg _ takes)) made
    · change l.watch.Passed since tardy.session.feed
      rw [feed]
      exact sound.passed.announced events
    · change most < tardy.session.feed.capacity
      rw [feed, Feed.capacity_foldl_push]
      exact sound.room
  | read =>
    obtain ⟨watch, read, rfl⟩ := Option.map_eq_some_iff.mp done
    exact ⟨sound.orderly, sound.course, (sound.passed.read? read).2, sound.room⟩

/-- **Every run keeps a lookout sound.** -/
theorem Sound.run? {acts : List (Act τ)} (sound : l.Sound most since) (positive : 1 ≤ most)
    (allowed : .move .take ∈ acts → 2 ≤ most) (went : l.run? acts = some l') : l'.Sound most since := by
  induction acts generalizing l with
  | nil => exact Option.some.inj went ▸ sound
  | cons act rest ih =>
    obtain ⟨next, done, remaining⟩ := Option.bind_eq_some_iff.mp went
    have first : act = .move .take → 2 ≤ most := fun same => allowed (same ▸ List.mem_cons_self)
    have others : .move .take ∈ rest → 2 ≤ most := fun mem => allowed (List.mem_cons_of_mem _ mem)
    exact ih (sound.step? positive first done) others remaining

/-- A session that is connected when a watch is started, and keeps more announcements than there can be behind
the loss. -/
theorem start_sound {profile : Profile} {transport : τ} {settings : SessionSettings}
    {before : List (Tardy.Move τ)} {t : Tardy τ}
    (run : (Tardy.create profile transport settings).run? before = some t)
    (connected : t.session.state = .connected) (positive : 1 ≤ most) (allowed : .take ∈ before → 2 ≤ most)
    (room : most < settings.eventCapacity) : (start t).Sound most t.session.feed.position where
  orderly := Tardy.orderly_of_run? positive allowed run
  course := .live connected (Nat.le_refl _)
  passed := Watch.passed_start t.session.feed
  room := Nat.lt_of_lt_of_le room (Tardy.le_capacity_of_run? run)

/-- A lookout stays sound on a feed of two or more, and of three or more if the ticker may be held up. -/
theorem sound_of_run? {profile : Profile} {transport : τ} {settings : SessionSettings}
    {before : List (Tardy.Move τ)} {t : Tardy τ} {acts : List (Act τ)}
    (run : (Tardy.create profile transport settings).run? before = some t)
    (connected : t.session.state = .connected) (went : (start t).run? acts = some l)
    (two : 2 ≤ settings.eventCapacity)
    (three : .take ∈ before ∨ .move .take ∈ acts → 3 ≤ settings.eventCapacity) :
    ∃ most, l.Sound most t.session.feed.position := by
  -- there may be two batches behind the loss, or only one if nobody ever holds one up
  by_cases held : .take ∈ before ∨ .move .take ∈ acts
  · have allowed {p : Prop} : p → 2 ≤ 2 := fun _ => Nat.le_refl 2
    have sound := start_sound run connected (Nat.le_succ 1) allowed (three held)
    exact ⟨2, sound.run? (Nat.le_succ 1) allowed went⟩
  · obtain ⟨early, late⟩ := not_or.mp held
    have sound := start_sound run connected (Nat.le_refl 1) (absurd · early) two
    exact ⟨1, sound.run? (Nat.le_refl 1) (absurd · late) went⟩

omit [Transport τ] in
/-- **A watch that has nothing to read has ended if the connection has been lost**: a watch that has passed the
loss has missed it, but what is behind it is less than what is kept. -/
theorem Sound.ended (sound : l.Sound most since) (lost : l.tardy.session.state = .disconnected)
    (drained : l.watch.read? l.tardy.session.feed = none) : l.watch.ended = true := by
  by_contra going
  replace going : l.watch.ended = false := by simpa using going
  cases sound.course with
  | live connected => exact nomatch connected.symm.trans lost
  | @ended news behind ended =>
    have all := (Watch.read?_eq_none_iff going).mp drained
    have length := Feed.length_toList l.tardy.session.feed
    have there : l.tardy.session.feed.toList[news.length]? = some .lost := by simp [ended.feed]
    rw [ended.feed, List.length_append, List.length_cons] at length
    -- a watch that is past the loss and goes on has not read it, so it has missed it
    have missed := sound.passed.missed going news.length ended.later (by omega) there
    have bound := ended.bound
    have room := sound.room
    omega

omit [Transport τ] in
/-- If the connection has been lost a watch that reads on ends. -/
theorem Sound.run_ended (sound : l.Sound most since) (lost : l.tardy.session.state = .disconnected) :
    (l.watch.run l.tardy.session.feed).ended = true := by
  obtain ⟨passed, drained⟩ := sound.passed.run
  have later : Sound most since { l with watch := l.watch.run l.tardy.session.feed } :=
    { sound with passed }
  exact later.ended lost drained

/-- **A watch ends when the connection is lost.** A watch is started on a connected session, and nobody asks
for the connection to change. At least two announcements are kept, and three if the ticker is ever held up
between taking a batch and handing it over. When the session is disconnected the watch has ended if there is
nothing left for it to read, and in any case it ends if it reads on, however far it has fallen behind and
whatever the others are still to do. -/
theorem ends_after_loss {profile : Profile} {transport : τ} {settings : SessionSettings}
    {before : List (Tardy.Move τ)} {t : Tardy τ} {acts : List (Act τ)}
    (run : (Tardy.create profile transport settings).run? before = some t)
    (connected : t.session.state = .connected) (went : (start t).run? acts = some l)
    (lost : l.tardy.session.state = .disconnected) (two : 2 ≤ settings.eventCapacity)
    (three : .take ∈ before ∨ .move .take ∈ acts → 3 ≤ settings.eventCapacity) :
    (l.watch.read? l.tardy.session.feed = none → l.watch.ended = true) ∧
      (l.watch.run l.tardy.session.feed).ended = true := by
  obtain ⟨most, sound⟩ := sound_of_run? run connected went two three
  exact ⟨sound.ended lost, sound.run_ended lost⟩

/-! ## A watch that is outrun -/

/-- The ticker hands over what is buffered, and it is announced. -/
def telling : List (Act Rehearsal) := [.move (.whole .tick), .move (.whole .dispatch)]

/-- Messages come in faster than the watch reads. The ticker is held up while the connection is lost, and one
more message comes in meanwhile. -/
def outrun : List (Act Rehearsal) :=
  hearing (Vigil.reading [1]) ++ telling ++ hearing (Vigil.reading [2]) ++ telling ++
    hearing (Vigil.reading [3]) ++ [.move .take] ++ hearing (Vigil.reading [4]) ++
    hearing (.disconnected "gone") ++ [.move .hand] ++ telling ++
    [.move (.whole .dispatch), .move (.whole .dispatch), .read]

/-- A session over a rehearsal that keeps so many announcements. -/
def rehearsed (capacity : Nat) : Tardy Rehearsal :=
  .create (Profile.fresh 1 2 "local" "localhost" 1883) ⟨{}, [], []⟩ { eventCapacity := capacity }

/-- A watch that has fallen behind finds the loss where four announcements are kept. -/
theorem ends_after_loss_outrun :
    ∃ t l, (rehearsed 3).run? (Vigil.connecting.map .whole) = some t ∧ t.session.state = .connected ∧
      (start t).run? outrun = some l ∧ l.tardy.session.state = .disconnected ∧
      l.watch.lines = [.entry .warn Watch.target "Output fell behind" [("skipped", .natural 1)]] ∧
      (l.watch.run l.tardy.session.feed).ended = true := by
  obtain ⟨t, l, run, connected, went, lost, behind⟩ :
      ∃ t l, (rehearsed 3).run? (Vigil.connecting.map .whole) = some t ∧ t.session.state = .connected ∧
        (start t).run? outrun = some l ∧ l.tardy.session.state = .disconnected ∧
        l.watch.lines = [.entry .warn Watch.target "Output fell behind" [("skipped", .natural 1)]] :=
    ⟨_, _, rfl, rfl, rfl, rfl, rfl⟩
  have two : 2 ≤ 3 := by decide
  exact ⟨t, l, run, connected, went, lost, behind,
    (ends_after_loss run connected went lost two fun _ => Nat.le_refl 3).2⟩

/-! ## A watch that hangs -/

/-- A watch has read everything and waits for more, and the session is disconnected and has nothing left to
announce. -/
structure Hangs (l : Lookout τ) : Prop where
  waits : l.watch.ended = false
  drained : l.watch.read? l.tardy.session.feed = none
  disconnected : l.tardy.session.state = .disconnected
  idle : l.tardy.session.Holds .idle
  reported : l.tardy.session.reports = []
  handed : l.tardy.pending = []

/-- Nothing that can happen ends the wait. -/
theorem Hangs.step? (hangs : l.Hangs) {act : Act τ} (done : l.step? act = some l') :
    l'.Hangs ∧ l'.watch = l.watch := by
  obtain ⟨waits, drained, disconnected, idle, reported, handed⟩ := hangs
  cases act with
  | read =>
    obtain ⟨watch, read, -⟩ := Option.map_eq_some_iff.mp done
    exact nomatch drained.symm.trans read
  | move move =>
    obtain ⟨other, done⟩ := Option.ite_none_right_eq_some.mp done
    obtain ⟨tardy, made, rfl⟩ := Option.map_eq_some_iff.mp done
    have aside : move ≠ .whole .dispatch := by
      rintro rfl
      obtain ⟨-, s, moved, -⟩ := Tardy.whole_of_move? made
      obtain ⟨report, reports, -⟩ := Session.dispatch?_eq_some moved
      cases reported.symm.trans reports
    -- whoever else moves announces nothing, and a ticker without a batch has nothing to report
    obtain ⟨state, feed, batches, reports, pending⟩ := Tardy.quiet_of_move? disconnected idle other aside made
    obtain ⟨rfl, left⟩ := List.append_eq_nil_iff.mp (pending.symm.trans handed)
    rw [reported] at reports
    have still := Tardy.holds_of_move? idle other (Tardy.deaf_of_idle idle made) made
    exact ⟨⟨waits, feed ▸ drained, state.trans disconnected, still, reports, left⟩, rfl⟩

/-- **A watch that hangs hangs for good**, unless somebody asks for the connection to change. -/
theorem Hangs.run? {acts : List (Act τ)} (hangs : l.Hangs) (went : l.run? acts = some l') :
    l'.Hangs ∧ l'.watch = l.watch := by
  induction acts generalizing l with
  | nil => exact Option.some.inj went ▸ ⟨hangs, rfl⟩
  | cons act rest ih =>
    obtain ⟨next, done, remaining⟩ := Option.bind_eq_some_iff.mp went
    obtain ⟨still, same⟩ := hangs.step? done
    exact same ▸ ih still remaining

/-- A message comes in and the connection is lost before the next tick. The watch reads when all is over. -/
def overrun : List (Act Rehearsal) :=
  hearing (Vigil.reading [1]) ++ hearing (.disconnected "gone") ++ [.move (.whole .dispatch)] ++ telling ++
    [.read, .read]

/-- **A watch on a feed of one hangs.** The batch with the last message is announced behind the loss, which is
not kept any more when the watch comes to read: it is told that it has missed one announcement, prints the
message, and waits. Nobody has anything to do any more. -/
theorem hangs_after_loss :
    ∃ settings : Settings, settings.firstZero? = none ∧ settings.session.eventCapacity = 1 ∧
      ∃ t l, (Tardy.create (Profile.fresh 1 2 "local" "localhost" 1883) (⟨{}, [], []⟩ : Rehearsal)
          settings.session).run? (Vigil.connecting.map .whole) = some t ∧
        t.session.state = .connected ∧ (start t).run? overrun = some l ∧ l.Hangs ∧
        l.tardy.session.work? = none := by
  refine ⟨{ session := { eventCapacity := 1 } }, rfl, rfl, _, _, rfl, rfl, rfl, ?_, rfl⟩
  exact ⟨rfl, rfl, rfl, fun _ => ⟨rfl, rfl⟩, rfl, rfl⟩

/-- Two messages come in, and the ticker, that has taken the first one, is held up until the loss of the
connection has been announced. -/
def heldUp : List (Act Rehearsal) :=
  hearing (Vigil.reading [1]) ++ [.move .take] ++ hearing (Vigil.reading [2]) ++ hearing (.disconnected "gone") ++
    [.move (.whole .dispatch), .move .hand] ++ telling ++ [.move (.whole .dispatch)]

/-- On a feed of one or two a watch may hang: the batch that the ticker has been holding and the next one are
announced behind the loss. -/
theorem hangs_of_le_two {settings : SessionSettings} (period : settings.batchInterval ≠ 0)
    (positive : settings.eventCapacity ≠ 0) (few : settings.eventCapacity ≤ 2) :
    ∃ t l, ∃ acts : List (Act Rehearsal), (Tardy.create (Profile.fresh 1 2 "local" "localhost" 1883)
        (⟨{}, [], []⟩ : Rehearsal) settings).run? (Vigil.connecting.map .whole) = some t ∧
      t.session.state = .connected ∧ (start t).run? acts = some l ∧ l.Hangs := by
  -- of the other settings only the ticker's period matters, and only in that there is one
  have created : Tardy.create (Profile.fresh 1 2 "local" "localhost" 1883) (⟨{}, [], []⟩ : Rehearsal) settings =
      ⟨{ (rehearsed settings.eventCapacity).session with settings }, none⟩ := by
    simp [Tardy.create, rehearsed, Session.create, period]
  rw [created]
  obtain one | two : settings.eventCapacity = 1 ∨ settings.eventCapacity = 2 := by omega
  · rw [one]
    refine ⟨_, _, heldUp ++ [.read, .read], rfl, rfl, rfl, rfl, ?_, rfl, fun _ => ⟨rfl, rfl⟩, rfl, rfl⟩
    exact (Watch.read?_eq_none_iff rfl).mpr (Nat.le_of_eq rfl)
  · rw [two]
    refine ⟨_, _, heldUp ++ [.read, .read, .read], rfl, rfl, rfl, rfl, ?_, rfl, fun _ => ⟨rfl, rfl⟩, rfl, rfl⟩
    exact (Watch.read?_eq_none_iff rfl).mpr (Nat.le_of_eq rfl)

/-- **Which settings let a watch hang**: of those that are accepted, just those that want fewer than three
announcements kept. -/
theorem hangs_iff {settings : Settings} (valid : settings.firstZero? = none) :
    (∃ (σ : Type) (_ : Transport σ) (profile : Profile) (transport : σ) (before : List (Tardy.Move σ))
        (t : Tardy σ) (acts : List (Act σ)) (l : Lookout σ),
      (Tardy.create profile transport settings.session).run? before = some t ∧
        t.session.state = .connected ∧ (start t).run? acts = some l ∧ l.Hangs) ↔
      settings.session.eventCapacity ≤ 2 := by
  obtain ⟨period, -, positive, -⟩ := Settings.firstZero?_eq_none_iff.mp valid
  constructor
  · rintro ⟨σ, _, profile, transport, before, t, acts, l, run, connected, went, hangs⟩
    by_contra many
    have three : 3 ≤ settings.session.eventCapacity := Nat.lt_of_not_le many
    obtain ⟨most, sound⟩ := sound_of_run? run connected went (Nat.le_of_succ_le three) fun _ => three
    exact nomatch hangs.waits.symm.trans (sound.ended hangs.disconnected hangs.drained)
  · intro few
    obtain ⟨t, l, acts, run, connected, went, hangs⟩ := hangs_of_le_two period positive few
    exact ⟨_, _, _, _, _, t, acts, l, run, connected, went, hangs⟩

end Lookout

end MqttSessions
