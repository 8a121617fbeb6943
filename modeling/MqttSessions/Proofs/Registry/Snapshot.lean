import Mathlib.Data.List.Induction
import MqttSessions.Proofs.Registry.Faithful
import MqttSessions.Proofs.Session.Effects

/-! # The profile of a session

A session keeps the profile that it was created from. The list may be replaced under it: what is then
listed under the id of the session is what was read last (**`World.lastListed`**), and only a reading that
finds another profile under the id tells the two apart (**`World.Rewrites`**). The session is not closed
by that, and goes on connecting with the profile that it has: **`World.session_snapshot`**,
**`World.reread_profile_unheeded`** for a registry where this shows, and **`World.dialed_own`** for the call
that its session makes then. -/

namespace MqttSessions

/-- A list that a store holds is fetched from it as it is. -/
theorem Store.Holds.fetch {store : Store} {disk : Disk} {profiles : List Profile}
    (holds : store.Holds disk.tree profiles) (readable : disk.outage.atRead = none)
    (ids : Nat → String) : store.fetch disk ids = (disk, .ok ⟨⟨profiles, 0⟩, none⟩) := by
  rw [Store.fetch, show store.load disk ids = _ from holds disk.outage ids readable]
  rfl

namespace Registry

variable {τ : Type} {r : Registry τ} {id : String}

theorem profile?_eq_none_iff : r.profile? id = none ↔ id ∉ r.ids := by
  simp [profile?, ids]

/-- A listed id has a profile. -/
theorem profile?_of_mem (listed : id ∈ r.ids) : ∃ profile, r.profile? id = some profile := by
  cases found : r.profile? id with
  | none => exact absurd listed (profile?_eq_none_iff.mp found)
  | some profile => exact ⟨profile, rfl⟩

/-- Where no id is listed twice, a listed profile is the one of its id. -/
theorem profile?_of_distinct {profile : Profile} (distinct : r.ids.Nodup) (listed : profile ∈ r.profiles) :
    r.profile? profile.id = some profile := by
  obtain ⟨other, found⟩ := profile?_of_mem (List.mem_map_of_mem listed)
  have named : other.id = profile.id := by simpa using List.find?_some found
  rw [found, List.inj_on_of_nodup_map distinct (List.mem_of_find?_eq_some found) listed named]

/-- Another profile may be taken out of a list without changing what an id stands for. -/
theorem find?_filter_of_ne {profiles : List Profile} {other : String} (differ : other ≠ id) :
    ((profiles.filter fun p => p.id != other).find? fun p => p.id == id)
      = profiles.find? fun p => p.id == id := by
  rw [List.find?_filter]
  refine congrArg (List.find? · profiles) (funext fun p => ?_)
  by_cases hit : p.id = id
  · simp [hit, Ne.symm differ]
  · simp [hit]

/-- What is listed stays listed when another profile is added. -/
theorem Added.profile? {disk disk' : Disk} {added listed : Profile} {outcome : Outcome} {r' : Registry τ}
    (adds : Added r disk added outcome r' disk') (found : r.profile? id = some listed) :
    r'.profile? id = some listed := by
  cases adds with
  | known => exact found
  | unsaved => exact found
  | saved =>
    -- the new profile comes after the one that is listed
    change (r.profiles ++ [added]).find? (fun p => p.id == id) = some listed
    rw [List.find?_append, show r.profiles.find? _ = _ from found]
    rfl

section

variable [Transport τ]

/-- What is listed stays listed when another profile is deleted. -/
theorem Deleted.profile? {disk disk' : Disk} {other : String} {outcome : Outcome} {r' : Registry τ}
    (deleted : Deleted r disk other outcome r' disk') (distinct : r.ids.Nodup) (differ : other ≠ id) :
    r'.profile? id = r.profile? id := by
  cases deleted with
  | unknown => rfl
  | unsaved => exact congrArg (List.find? _) (r.evict_refreshed other).profiles
  | saved place =>
    change (r.profiles.eraseIdx _).find? (fun p => p.id == id) = r.profile? id
    rw [eraseIdx_index? distinct place, find?_filter_of_ne differ]
    rfl

/-- **What is listed after the document has been read again** is what it held, if it could be read. -/
theorem reload_profiles (r : Registry τ) (disk : Disk) (ids : Nat → String) :
    (r.reload disk ids).2.1.profiles =
      match (r.reload disk ids).2.2.2 with
      | .error _ => r.profiles
      | .ok fetched => fetched.loaded.profiles := by
  rw [reload]
  cases r.store.fetch disk fun k => ids (r.issued + k) with
  | mk after list => cases list <;> rfl

end

/-- A list that the store holds is what reading the document again finds. -/
theorem reload_of_holds [Transport τ] {disk : Disk} {profiles : List Profile}
    (holds : r.store.Holds disk.tree profiles) (readable : disk.outage.atRead = none)
    (ids : Nat → String) : (r.reload disk ids).2.2.2 = .ok ⟨⟨profiles, 0⟩, none⟩ := by
  rw [reload, holds.fetch readable]

/-- Reading the document again leaves the sessions alone, if the profiles of all that are cached are in it. -/
theorem reload_sessions [Transport τ] {disk : Disk} {ids : Nat → String} {fetched : Store.Fetched}
    (read : (r.reload disk ids).2.2.2 = .ok fetched)
    (listed : ∀ id ∈ r.cache.map Prod.fst, id ∈ fetched.loaded.profiles.map Profile.id) :
    (r.reload disk ids).2.1.sessions = r.sessions := by
  rw [reload] at read ⊢
  cases fetches : r.store.fetch disk fun k => ids (r.issued + k) with
  | mk after list =>
    rw [fetches] at read
    cases list with
    | error failure => cases read
    | ok list =>
      cases read
      have none : r.vanished fetched.loaded.profiles = [] := by
        refine List.eq_nil_iff_forall_not_mem.mpr fun id vanished => ?_
        obtain ⟨cached, unlisted⟩ := mem_vanished_iff.mp vanished
        exact unlisted (listed id cached)
      simp only [none]
      rfl

/-- A session after one of its moves. -/
theorem moved_session? [Transport τ] {number : Nat} {s s' : Session τ} {move : Session.Move τ}
    (found : r.session? number = some s) (made : s.move? move = some s') :
    (r.moved number move).session? number = some s' := by
  have within := (List.getElem?_eq_some_iff.mp found).1
  rw [moved, found, Option.bind_some, made]
  exact List.getElem?_set_self within

/-- The row of a profile shows the state of its session. -/
theorem row?_of_cached {number : Nat} {profile : Profile} {s : Session τ}
    (listed : r.profile? id = some profile) (cached : r.cached? id = some number)
    (found : r.session? number = some s) : r.row? id = some ⟨profile, s.state⟩ := by
  have named : profile.id = id := by simpa using List.find?_some listed
  rw [row?, listed, Option.map_some, rowOf, stateOf, named, cached, Option.bind_some, found]
  rfl

end Registry

namespace Session

variable {τ : Type} [Transport τ] {s s' s'' : Session τ}

omit [Transport τ] in
/-- A session that has been asked to connect has queued its own profile for that. -/
theorem requestConnect_commands (asks : s.requestConnect = (.ok (), s')) :
    s'.commands = s.commands ++ [.connect s.profile] ∧ s'.worker = s.worker := by
  rcases requestConnect_cases s with ⟨failure, same⟩ | ⟨-, -, same⟩ | ⟨-, -, same⟩
  · cases same.symm.trans asks
  · cases same.symm.trans asks
    exact ⟨rfl, rfl⟩
  · cases same.symm.trans asks

/-- **What a session hands to its transport is its own profile**, when its worker has no link and takes
the command. -/
theorem transport_of_requestConnect (asks : s.requestConnect = (.ok (), s')) (idle : s.worker.link = .idle)
    (empty : s.commands = []) (takes : s'.takeCommand? = some s'') :
    s''.worker.transport = (Transport.perform (.connect s.profile) s.worker.transport).2 := by
  obtain ⟨queued, worker⟩ := requestConnect_commands asks
  rw [empty, List.nil_append] at queued
  obtain ⟨-, command, rest, commands, rfl⟩ := takeCommand?_eq_some_iff.mp takes
  obtain ⟨rfl, -⟩ := List.cons_eq_cons.mp (commands.symm.trans queued)
  -- over no link a connection is heard
  have heard : (Command.connect s.profile).isHeard s.worker.link = true := by
    rw [idle]
    rfl
  change (s'.worker.take (.connect s.profile)).1.transport = _
  rw [worker, Worker.take_transport, if_pos heard]
  rfl

end Session

namespace World

variable {τ φ : Type} [Transport τ] {w : World τ φ} {make : Profile → φ → τ × φ} {id : String}

/-! ## What is listed -/

/-- The profile that is listed under the id of a session after a deed that does not evict it, if it was
`profile` before: reading the document again may find another one. -/
def relisted (w : World τ φ) (id : String) (profile : Profile) : Deed τ → Profile
  | .reload ids =>
    match (w.registry.reload w.disk ids).2.2.2 with
    | .ok fetched => (fetched.loaded.profiles.find? fun p => p.id == id).getD profile
    | .error _ => profile
  | _ => profile

/-- The profile that is listed under the id of a session after some deeds that do not evict it. -/
def lastListed (make : Profile → φ → τ × φ) (id : String) :
    World τ φ → Profile → List (Deed τ) → Profile
  | _, profile, [] => profile
  | w, profile, deed :: rest => (w.after make deed).lastListed make id (w.relisted id profile deed) rest

/-- Whether a deed reads the document and finds another profile under an id. -/
def Rewrites (w : World τ φ) (id : String) (profile : Profile) : Deed τ → Prop
  | .reload ids =>
    match (w.registry.reload w.disk ids).2.2.2 with
    | .ok fetched => ∃ other ∈ fetched.loaded.profiles, other.id = id ∧ other ≠ profile
    | .error _ => False
  | _ => False

/-- Whether none of some deeds, done one after the other, finds another profile under an id. -/
def Retains (make : Profile → φ → τ × φ) (id : String) (profile : Profile) :
    World τ φ → List (Deed τ) → Prop
  | _, [] => True
  | w, deed :: rest =>
    ¬w.Rewrites id profile deed ∧ (w.after make deed).Retains make id profile rest

/-- A profile that no deed finds rewritten stays listed. -/
theorem relisted_of_not_rewrites {profile : Profile} {deed : Deed τ}
    (kept : ¬w.Rewrites id profile deed) : w.relisted id profile deed = profile := by
  cases deed with
  | reload ids =>
    rw [Rewrites] at kept
    rw [relisted]
    split
    · rename_i fetched read
      rw [read] at kept
      cases found : fetched.loaded.profiles.find? fun p => p.id == id with
      | none => rfl
      | some other =>
        have named : other.id = id := by simpa using List.find?_some found
        by_contra differ
        exact kept ⟨other, List.mem_of_find?_eq_some found, named, differ⟩
    · rfl
  | _ => rfl

/-- What is listed under an id after the document has been read again is what it held. -/
theorem relisted_of_read {ids : Nat → String} {fetched : Store.Fetched} {listed : Profile}
    (profile : Profile) (read : (w.registry.reload w.disk ids).2.2.2 = .ok fetched)
    (found : fetched.loaded.profiles.find? (fun p => p.id == id) = some listed) :
    w.relisted id profile (.reload ids) = listed := by
  simp only [relisted, read, found, Option.getD_some]

theorem lastListed_of_retains {profile : Profile} {deeds : List (Deed τ)}
    (kept : w.Retains make id profile deeds) : w.lastListed make id profile deeds = profile := by
  induction deeds generalizing w with
  | nil => rfl
  | cons deed rest ih =>
    obtain ⟨first, later⟩ := kept
    rw [lastListed, relisted_of_not_rewrites first]
    exact ih later

/-- **What is listed under the id of a session after a deed**, if the deed does not evict it. -/
theorem listed_after {profile : Profile} {deed : Deed τ} (make : Profile → φ → τ × φ)
    (sound : w.registry.Sound) (listed : w.registry.profile? id = some profile)
    (spared : ¬w.Evicts id deed) :
    (w.after make deed).registry.profile? id = some (w.relisted id profile deed) := by
  have unmoved {r' : Registry τ} (profiles : r'.profiles = w.registry.profiles) :
      r'.profile? id = some profile := by
    rw [Registry.profile?, profiles]
    exact listed
  cases deed with
  | add other =>
    have added : Registry.Added w.registry w.disk other _ (w.after make (.add other)).registry _ :=
      Registry.added_of_add rfl
    exact added.profile? listed
  | delete other =>
    have deleted : Registry.Deleted w.registry w.disk other _ (w.after make (.delete other)).registry _ :=
      Registry.deleted_of_delete rfl
    exact (deleted.profile? sound.distinct spared).trans listed
  | reload ids =>
    have profiles := w.registry.reload_profiles w.disk ids
    change (w.registry.reload w.disk ids).2.1.profile? id = _
    rw [relisted]
    rw [Evicts] at spared
    cases read : (w.registry.reload w.disk ids).2.2.2 with
    | error failure =>
      rw [read] at profiles
      exact unmoved profiles
    | ok fetched =>
      rw [read] at profiles spared
      have held : id ∈ (w.registry.reload w.disk ids).2.1.ids := by
        rw [Registry.ids, profiles]
        exact not_not.mp spared
      obtain ⟨found, there⟩ := Registry.profile?_of_mem held
      rw [there]
      rw [Registry.profile?, profiles] at there
      change fetched.loaded.profiles.find? _ = some found at there
      simp only [there, Option.getD_some]
  | client other =>
    change (w.client make other).2.registry.profile? id = some profile
    rcases client_cases w make other with ⟨unchanged, -⟩ | ⟨_, -, -, -, created⟩
    · rw [unchanged]
      exact listed
    · rw [created]
      exact listed
  | shutdown => exact absurd trivial spared
  | close number => exact unmoved (Registry.inSession_refreshed _ _ _).profiles
  | move number move => exact unmoved (Registry.moved_aged _ number move).profiles
  | elapse ms => exact unmoved (Registry.advance_refreshed _ ms).profiles
  | edit change => exact listed

/-- What is listed under the id of a session, as long as no deed evicts it. -/
theorem listed_run {profile : Profile} {deeds : List (Deed τ)} (sound : w.registry.Sound)
    (listed : w.registry.profile? id = some profile) (spared : w.Spares make id deeds) :
    (w.run make deeds).registry.profile? id = some (w.lastListed make id profile deeds) := by
  induction deeds generalizing w profile with
  | nil => exact listed
  | cons deed rest ih =>
    obtain ⟨first, later⟩ := spared
    exact ih (continued_after sound make deed).sound (listed_after make sound listed first) later

/-! ## Where a session comes from -/

omit [Transport τ] in
/-- Asking for the session of a profile creates it, from the profile that is listed. -/
structure Creates (w : World τ φ) (make : Profile → φ → τ × φ) (id : String) (number : Nat)
    (profile : Profile) : Prop where
  uncached : w.registry.cached? id = none
  listed : w.registry.profile? id = some profile
  answered : (w.client make id).1 = .ok number

/-- A session that is created has the profile that is listed. -/
theorem Creates.session {number : Nat} {profile : Profile} (sound : w.registry.Sound)
    (creates : w.Creates make id number profile) :
    (w.after make (.client id)).registry.profile? id = some profile ∧
      ∃ s, (w.after make (.client id)).registry.session? number = some s ∧ s.profile = profile := by
  obtain ⟨uncached, listed, answered⟩ := creates
  change (w.client make id).2.registry.profile? id = _ ∧
    ∃ s, (w.client make id).2.registry.session? number = some s ∧ _
  rcases client_cases w make id with ⟨-, cached⟩ | ⟨other, mem, rfl, -, created⟩
  · exact nomatch uncached.symm.trans (cached number answered)
  · obtain rfl := Option.some.inj (listed.symm.trans (Registry.profile?_of_distinct sound.distinct mem))
    rw [created] at answered ⊢
    obtain rfl := Except.ok.inj answered
    refine ⟨listed, (Session.create profile (make profile w.factory).1 w.registry.settings).startFollower,
      ?_, rfl⟩
    rw [Registry.enrol_session?, if_pos rfl]

/-- **A session that is cached after a deed was cached before, or it has been created.** -/
theorem cached_after {number : Nat} {deed : Deed τ} (sound : w.registry.Sound)
    (cached : (w.after make deed).registry.cached? id = some number) :
    w.registry.cached? id = some number ∧ ¬w.Evicts id deed ∨
      deed = .client id ∧ ∃ profile, w.Creates make id number profile := by
  have spared : ¬w.Evicts id deed := fun evicts => by
    rw [evicted_after sound evicts] at cached
    cases cached
  have before {r' : Registry τ} (same : r'.cached? id = w.registry.cached? id)
      (cached : r'.cached? id = some number) : w.registry.cached? id = some number :=
    same.symm.trans cached
  cases deed with
  | add profile =>
    have added : Registry.Added w.registry w.disk profile _ (w.after make (.add profile)).registry _ :=
      Registry.added_of_add rfl
    exact .inl ⟨before (added.cached? id) cached, spared⟩
  | delete other =>
    have deleted : Registry.Deleted w.registry w.disk other _ (w.after make (.delete other)).registry _ :=
      Registry.deleted_of_delete rfl
    rw [deleted.cached?, if_neg fun gone => spared gone.1.symm] at cached
    exact .inl ⟨cached, spared⟩
  | reload ids =>
    change (w.registry.reload w.disk ids).2.1.cached? id = some number at cached
    rw [Registry.reload_cached?] at cached
    refine .inl ⟨?_, spared⟩
    split at cached
    · exact cached
    · split at cached
      · exact cached
      · cases cached
  | client other =>
    change (w.client make other).2.registry.cached? id = some number at cached
    rcases client_cases w make other with ⟨unchanged, -⟩ | ⟨profile, mem, named, uncached, created⟩
    · rw [unchanged] at cached
      exact .inl ⟨cached, spared⟩
    · rw [created, Registry.enrol_cached?] at cached
      cases earlier : w.registry.cached? id with
      | some number' =>
        rw [earlier] at cached
        exact .inl ⟨cached, spared⟩
      | none =>
        -- it is the session that has been created
        rw [earlier, Option.none_or] at cached
        split at cached
        · rename_i same
          obtain rfl : other = id := named.symm.trans same
          obtain rfl := Option.some.inj cached
          refine .inr ⟨rfl, profile, uncached, ?_, by rw [created]⟩
          rw [← same]
          exact Registry.profile?_of_distinct sound.distinct mem
        · cases cached
  | shutdown => exact absurd trivial spared
  | close number' =>
    exact .inl ⟨before ((Registry.inSession_refreshed _ _ _).cached? id) cached, spared⟩
  | move number' move =>
    exact .inl ⟨before ((Registry.moved_aged _ number' move).cached? id) cached, spared⟩
  | elapse ms => exact .inl ⟨before ((Registry.advance_refreshed _ ms).cached? id) cached, spared⟩
  | edit change => exact .inl ⟨cached, spared⟩

theorem run_cons (w : World τ φ) (make : Profile → φ → τ × φ) (deed : Deed τ) (rest : List (Deed τ)) :
    w.run make (deed :: rest) = (w.after make deed).run make rest := rfl

theorem after_reload_registry (w : World τ φ) (make : Profile → φ → τ × φ) (ids : Nat → String) :
    (w.after make (.reload ids)).registry = (w.registry.reload w.disk ids).2.1 := rfl

theorem after_edit_registry (w : World τ φ) (make : Profile → φ → τ × φ) (change : Disk → Disk) :
    (w.after make (.edit change)).registry = w.registry := rfl

theorem run_append (w : World τ φ) (make : Profile → φ → τ × φ) (first second : List (Deed τ)) :
    w.run make (first ++ second) = (w.run make first).run make second := List.foldl_append

/-- Deeds that spare a session, and one more. -/
theorem Spares.concat {deeds : List (Deed τ)} {deed : Deed τ} (spared : w.Spares make id deeds)
    (last : ¬(w.run make deeds).Evicts id deed) : w.Spares make id (deeds ++ [deed]) := by
  induction deeds generalizing w with
  | nil => exact ⟨last, trivial⟩
  | cons first rest ih => exact ⟨spared.1, ih spared.2 last⟩

/-- **Every cached session was created by one of the deeds**, and none since has evicted it. -/
theorem created_of_cached {number : Nat} {deeds : List (Deed τ)} (sound : w.registry.Sound)
    (uncached : w.registry.cached? id = none)
    (cached : (w.run make deeds).registry.cached? id = some number) :
    ∃ before since profile, deeds = before ++ .client id :: since ∧
      (w.run make before).Creates make id number profile ∧
      ((w.run make before).after make (.client id)).Spares make id since := by
  induction deeds using List.reverseRecOn with
  | nil => exact nomatch uncached.symm.trans cached
  | append_singleton deeds deed ih =>
    have sound' := (continued_run sound make deeds).sound
    rw [run_append] at cached
    rcases cached_after sound' cached with ⟨earlier, spared⟩ | ⟨rfl, profile, creates⟩
    · obtain ⟨before, since, profile, rfl, creates, spares⟩ := ih earlier
      refine ⟨before, since ++ [deed], profile, by simp, creates, spares.concat ?_⟩
      rw [run_append] at spared
      exact spared
    · exact ⟨deeds, [], profile, rfl, creates, trivial⟩

/-- **A session keeps the profile that it was created from**, and its row shows the one that was listed
last, until it is evicted. -/
theorem Creates.session_run {number : Nat} {profile : Profile} {since : List (Deed τ)}
    (sound : w.registry.Sound) (creates : w.Creates make id number profile)
    (spared : (w.after make (.client id)).Spares make id since) :
    ((w.after make (.client id)).run make since).registry.cached? id = some number ∧
      ∃ s, ((w.after make (.client id)).run make since).registry.session? number = some s ∧
        s.profile = profile ∧
        ((w.after make (.client id)).run make since).registry.row? id
          = some ⟨(w.after make (.client id)).lastListed make id profile since, s.state⟩ := by
  obtain ⟨listed, s₀, created, named⟩ := creates.session sound
  have sound' := (continued_after sound make (.client id)).sound
  obtain ⟨-, cached, -⟩ := client_creates creates.uncached (Prod.ext creates.answered rfl)
  obtain ⟨kept, -⟩ := kept_run cached spared
  obtain ⟨s, found, later⟩ := (continued_run sound' make since).later created
  have shown := Registry.row?_of_cached (listed_run sound' listed spared) kept found
  exact ⟨kept, s, found, later.profile.trans named, shown⟩

/-! ## The profile of a session -/

/-- **A session has the profile that it was created from.** Whatever the document was when the registry
was opened, whatever is done in its world and whatever goes wrong at the disk: a cached session was
created by a call, from the profile that was listed under its id then, and that is the profile that it
has. Its row shows the profile that was listed last, which is the same one as long as no deed since has
read another one under the id. A session that is asked to connect hands the profile that it has to its
transport. Of all sessions, cached or not, no other profile is ever in a connection that is queued, nor in a
connect call that has been made to the transport, if something tells the calls that have been made to it. -/
theorem session_snapshot {settings : Settings} (valid : settings.firstZero? = none)
    (make : Profile → φ → τ × φ) (store : Store) (disk : Disk) (ids : Nat → String) (factory : φ)
    (deeds : List (Deed τ)) :
    let start : World τ φ := opened store settings.session disk ids factory
    let w := start.run make deeds
    (∀ id number, w.registry.cached? id = some number →
      ∃ before since s, deeds = before ++ .client id :: since ∧
        w.registry.session? number = some s ∧
        (start.run make before).Creates make id number s.profile ∧
        ((start.run make before).after make (.client id)).Spares make id since ∧
        w.registry.row? id = some
          ⟨((start.run make before).after make (.client id)).lastListed make id s.profile since, s.state⟩ ∧
        (((start.run make before).after make (.client id)).Retains make id s.profile since →
          w.registry.row? id = some ⟨s.profile, s.state⟩) ∧
        ∀ s' s'', s.requestConnect = (.ok (), s') → s.worker.link = .idle → s.commands = [] →
          s'.takeCommand? = some s'' →
          s''.worker.transport = (Transport.perform (.connect s.profile) s.worker.transport).2) ∧
    ∀ number s, w.registry.session? number = some s →
      (∀ profile, .connect profile ∈ s.commands → profile = s.profile) ∧
        ∀ calls, Notes make deeds calls →
          ∀ profile, .connect profile ∈ calls s.worker.transport → profile = s.profile := by
  intro start w
  refine ⟨fun id number cached => ?_, fun number s found => ?_⟩
  case refine_2 => exact connects_own make store _ disk ids factory deeds found
  have sound : start.registry.Sound := Registry.sound_of_create valid store disk ids
  obtain ⟨before, since, profile, split, creates, spared⟩ := created_of_cached sound rfl cached
  have after : w = ((start.run make before).after make (.client id)).run make since := by
    change start.run make deeds = _
    rw [split, run_append]
    rfl
  obtain ⟨-, s, found, rfl, row⟩ := creates.session_run (continued_run sound make before).sound spared
  rw [← after] at found row
  refine ⟨before, since, s, split, found, creates, spared, row, fun kept => ?_, ?_⟩
  · rw [row, lastListed_of_retains kept]
  · intro s' s'' asks idle empty takes
    exact Session.transport_of_requestConnect asks idle empty takes

/-! ## A document that somebody else writes -/

/-- `home`, when its broker has moved. -/
def moved : Profile :=
  { home with clientId := "moved", host := "broker.example", port := 8883, useTls := true }

/-- Somebody else saves other profiles. -/
def overwrite (profiles : List Profile) : Deed Rehearsal :=
  .edit fun disk => (Store.save housed.registry.store disk profiles).1

/-- The world of `home` when somebody else has saved other profiles, and its session is there. -/
def overwritten (profiles : List Profile) : World Rehearsal Unit :=
  (housed.after rehearse (.client home.id)).after rehearse (overwrite profiles)

theorem creates_home : housed.Creates rehearse home.id 0 home := ⟨rfl, rfl, rfl⟩

theorem sound_housed : housed.registry.Sound := by
  have valid : ({} : Settings).firstZero? = none := by decide
  exact (continued_run (Registry.sound_of_create valid ⟨["connections.json"], "connections.json"⟩ {}
    fun _ => "") rehearse [.add home]).sound

/-- What somebody else has saved is what is read. -/
theorem overwritten_reload (profiles : List Profile) {disk : Disk} (inRange : ∀ p ∈ profiles, p.InRange)
    (distinct : (profiles.map Profile.id).Nodup) (described : profiles.map Profile.described = profiles)
    (saves : Store.save housed.registry.store housed.disk profiles = (disk, .ok ()))
    (readable : disk.outage.atRead = none) :
    ((overwritten profiles).registry.reload (overwritten profiles).disk fun _ => "").2.2.2
      = .ok ⟨⟨profiles, 0⟩, none⟩ := by
  have holds := Store.holds_of_save inRange distinct saves
  rw [described] at holds
  rw [show (overwritten profiles).disk = disk from congrArg Prod.fst saves]
  exact Registry.reload_of_holds (r := (overwritten profiles).registry) holds readable _

/-- Somebody else saves other profiles, and the document is read again. -/
def rereading (profiles : List Profile) : List (Deed Rehearsal) :=
  [overwrite profiles, .reload fun _ => ""]

theorem lastListed_rereading (profiles : List Profile) :
    (housed.after rehearse (.client home.id)).lastListed rehearse home.id home (rereading profiles)
      = (overwritten profiles).relisted home.id home (.reload fun _ => "") := rfl

/-- Reading a document with `home` in it does not evict the session. -/
theorem rereading_spares {profiles : List Profile} (listed : home.id ∈ profiles.map Profile.id)
    (read : ((overwritten profiles).registry.reload (overwritten profiles).disk fun _ => "").2.2.2
      = .ok ⟨⟨profiles, 0⟩, none⟩) :
    (housed.after rehearse (.client home.id)).Spares rehearse home.id (rereading profiles) := by
  refine ⟨id, ?_, trivial⟩
  change ¬(overwritten profiles).Evicts home.id (.reload fun _ => "")
  rw [Evicts, read]
  exact not_not.mpr listed

/-- The world of `home` when the profiles of somebody else have been read. -/
def reread (profiles : List Profile) : World Rehearsal Unit :=
  (housed.after rehearse (.client home.id)).run rehearse (rereading profiles)

/-- What is done after `home` has been added is done in its world. -/
theorem run_housed (deeds : List (Deed Rehearsal)) :
    (opened ⟨["connections.json"], "connections.json"⟩ {} {} (fun _ => "") ()).run
      rehearse (.add home :: deeds) = housed.run rehearse deeds := rfl

/-- `home`, and another profile before it. -/
def joined : List Profile := [.fresh 3 3 "abroad" "broker.example" 8883, home]

/-- Another profile that comes into the document changes nothing for the session of `home`. -/
theorem session_snapshot_joined :
    ∃ s, (reread joined).registry.session? 0 = some s ∧ s.profile = home ∧
      (reread joined).registry.row? home.id = some ⟨home, s.state⟩ ∧
      ∀ profile, .connect profile ∈ s.worker.transport.calls → profile = home := by
  have valid : ({} : Settings).firstZero? = none := by decide
  have read := overwritten_reload joined (by decide) (by decide) (by decide) rfl rfl
  have spared := rereading_spares (by decide) read
  obtain ⟨cached, -⟩ := creates_home.session_run sound_housed spared
  have snapshot := session_snapshot (τ := Rehearsal) valid rehearse
    ⟨["connections.json"], "connections.json"⟩ {} (fun _ => "") ()
    (.add home :: .client home.id :: rereading joined)
  simp only [run_cons] at snapshot
  obtain ⟨before, since, s, split, found, creates, spared, row, kept, -⟩ := snapshot.1 home.id 0 cached
  obtain ⟨rfl, rfl⟩ : before = [.add home] ∧ since = rereading joined := by
    match before with
    | [] => cases split
    | [_] => cases split; exact ⟨rfl, rfl⟩
    | [_, _] => cases split
    | [_, _, _] => cases split
    | _ :: _ :: _ :: _ :: rest => cases rest <;> cases split
  have same : s.profile = home := by
    obtain ⟨-, listed, -⟩ := creates
    rw [run_housed] at listed
    exact (Option.some.inj listed).symm
  rw [run_housed, same] at kept
  have retained : (housed.after rehearse (.client home.id)).Retains rehearse home.id home
      (rereading joined) := by
    refine ⟨id, ?_, trivial⟩
    change ¬(overwritten joined).Rewrites home.id home (.reload fun _ => "")
    rw [Rewrites, read]
    decide
  have notes : Notes rehearse (.add home :: .client home.id :: rereading joined) Rehearsal.calls :=
    notes_rehearse (by simp [rereading, overwrite])
  have own := (snapshot.2 0 s found).2 Rehearsal.calls notes
  rw [same] at own
  exact ⟨s, found, same, kept retained, own⟩

/-- **A session goes on with a profile that has been rewritten.** The document is read again and lists the
profile of the session with another client id and broker: the row shows them, and the session has those
that it was created with. -/
theorem reread_profile_unheeded :
    ∃ s, (reread [moved]).registry.cached? home.id = some 0 ∧
      (reread [moved]).registry.session? 0 = some s ∧
      (reread [moved]).registry.row? home.id = some ⟨moved, s.state⟩ ∧
      s.profile = home ∧ s.profile ≠ moved := by
  have read := overwritten_reload [moved] (by decide) (by decide) (by decide) rfl rfl
  obtain ⟨cached, s, there, same, row⟩ :=
    creates_home.session_run sound_housed (rereading_spares (by decide) read)
  have found : [moved].find? (fun p => p.id == home.id) = some moved :=
    List.find?_cons_of_pos (beq_self_eq_true home.id)
  rw [lastListed_rereading, relisted_of_read home read found] at row
  have differ : home ≠ moved := fun same => absurd (congrArg Profile.port same) (by decide)
  exact ⟨s, cached, there, row, same, fun unmoved => differ (same.symm.trans unmoved)⟩

/-! ## What the session connects with then -/

/-- Rereading only takes over what somebody else has saved. -/
theorem reread_registry (profiles : List Profile) :
    (reread profiles).registry =
      ((overwritten profiles).registry.reload (overwritten profiles).disk fun _ => "").2.1 := by
  rw [reread, rereading, run_cons, run_cons, run, List.foldl_nil, after_reload_registry, overwritten]

theorem overwritten_registry (profiles : List Profile) :
    (overwritten profiles).registry = (housed.after rehearse (.client home.id)).registry := by
  rw [overwritten, overwrite, after_edit_registry]

/-- When the profiles of somebody else have been read, the session of `home` is as it was. -/
theorem reread_session {profiles : List Profile} (listed : home.id ∈ profiles.map Profile.id)
    (read : ((overwritten profiles).registry.reload (overwritten profiles).disk fun _ => "").2.2.2
      = .ok ⟨⟨profiles, 0⟩, none⟩) :
    (reread profiles).registry.session? 0 = some (Session.create home { plan := {} } {}).startFollower := by
  have cached : (overwritten profiles).registry.cache.map Prod.fst = [home.id] := rfl
  rw [Registry.session?, reread_registry, Registry.reload_sessions read (by simpa [cached] using listed),
    overwritten_registry]
  rfl

/-- The session of `home` is asked to connect. -/
def dialing : List (Deed Rehearsal) := [.move 0 (.ask .connect), .move 0 .takeCommand]

theorem run_dialing (w : World Rehearsal Unit) :
    (w.run rehearse dialing).registry = (w.registry.moved 0 (.ask .connect)).moved 0 .takeCommand := rfl

/-- A new session that is asked to connect makes one call. -/
theorem dials (profile : Profile) :
    ∃ s' s'' : Session Rehearsal,
      (Session.create profile { plan := {} } {}).startFollower.move? (.ask .connect) = some s' ∧
      s'.move? .takeCommand = some s'' ∧ s''.worker.transport.calls = [.connect profile] :=
  ⟨_, _, rfl, rfl, rfl⟩

/-- **A session whose profile has been rewritten connects with its own.** The row shows another client id and
broker, and the only call that has been made to the transport is the connection with those that the session
was created with. -/
theorem dialed_own :
    ∃ s, ((reread [moved]).run rehearse dialing).registry.session? 0 = some s ∧
      ((reread [moved]).run rehearse dialing).registry.row? home.id = some ⟨moved, s.state⟩ ∧
      s.worker.transport.calls = [.connect home] := by
  have read := overwritten_reload [moved] (by decide) (by decide) (by decide) rfl rfl
  have found := reread_session (by decide) read
  have listed : (reread [moved]).registry.profile? home.id = some moved := by
    have profiles := (overwritten [moved]).registry.reload_profiles (overwritten [moved]).disk fun _ => ""
    rw [read] at profiles
    rw [reread_registry, Registry.profile?, profiles]
    exact List.find?_cons_of_pos (beq_self_eq_true home.id)
  obtain ⟨cached, -⟩ := creates_home.session_run sound_housed (rereading_spares (by decide) read)
  obtain ⟨s', s'', asks, takes, calls⟩ := dials home
  have taken := Registry.moved_session? (Registry.moved_session? found asks) takes
  -- neither move changes what is listed or cached
  have moves := (Registry.moved_aged (reread [moved]).registry 0 (.ask .connect)).toRefreshed.trans
    (Registry.moved_aged _ 0 .takeCommand).toRefreshed
  rw [← run_dialing] at taken moves
  have shown : ((reread [moved]).run rehearse dialing).registry.profile? home.id = some moved := by
    rw [Registry.profile?, moves.profiles]
    exact listed
  exact ⟨s'', taken, Registry.row?_of_cached shown ((moves.cached? home.id).trans cached) taken, calls⟩

end World

end MqttSessions
