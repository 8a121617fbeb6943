import MqttSessions.Profile.Identity
import MqttSessions.Proofs.Mqtt.Pump

/-! # What an endpoint passes on

The pump of a link works on its own: it may be ahead of whoever reads the events, and go on for a while
when the link has been dropped. A **`Mqtt.Chronicle`** is an endpoint with a record of every link that it
has had: the turns of its pump, and what has been returned of it.

Of every link, a beginning of its script is returned, and all of it once the end has been read; when a link
is over, nothing of it is ever returned again, also when there is a new one:
**`Mqtt.Chronicle.contract`**. -/

namespace MqttSessions

namespace Mqtt

/-! ## Records of links -/

/-- A record of a link: the turns of its pump, and what has been returned of it. -/
structure Trace where
  turns : List Turn := []
  returned : List LinkEvent := []
  deriving DecidableEq, Repr

/-- An endpoint with the records of all the links that it has had, oldest first. -/
structure Chronicle where
  endpoint : Endpoint
  links : List Trace := []
  deriving DecidableEq, Repr

namespace Chronicle

/-- What happens to an endpoint: a call, or a turn of the pump of one of its links. Only the pump of the
link that is there does anything to it. -/
inductive Step where
  | connect (profile : Profile)
  | disconnect
  | submit (request : Call)
  | next
  | turn (number : Nat) (turn : Turn)

/-- The number of the latest link. -/
def latest (c : Chronicle) : Nat := c.links.length - 1

/-- The chronicle after a step. Asking for an event when there is none changes nothing. -/
def step (c : Chronicle) : Step → Chronicle
  | .connect profile =>
    match c.endpoint.connect profile with
    | (.ok (), endpoint) => ⟨endpoint, c.links ++ [{}]⟩
    | (.error _, endpoint) => { c with endpoint }
  | .disconnect => { c with endpoint := c.endpoint.disconnect.2 }
  | .submit request => { c with endpoint := (c.endpoint.submit? request).elim c.endpoint Prod.snd }
  | .next =>
    match c.endpoint.next? with
    | none => c
    | some (event, endpoint) =>
      ⟨endpoint, c.links.modify c.latest fun trace => { trace with returned := trace.returned ++ [event] }⟩
  | .turn number turn =>
    { endpoint :=
        if number = c.latest then
          { c.endpoint with link := c.endpoint.link.map fun link => link.turn turn }
        else c.endpoint
      links := c.links.modify number fun trace => { trace with turns := trace.turns ++ [turn] } }

/-- The chronicle after one step after the other. -/
def run (c : Chronicle) (steps : List Step) : Chronicle := steps.foldl step c

/-- An endpoint that has had no link yet. -/
def start (settings : MqttSettings) : Chronicle := ⟨{ settings }, []⟩

end Chronicle

namespace Endpoint

/-- Without a link no request is taken. -/
theorem submit?_of_unlinked {e : Endpoint} (gone : e.link = none) (request : Call) :
    e.submit? request = some (.error .notConnected, e) := by
  rw [submit?, gone]

/-- Without a link there is no event. -/
theorem next?_of_unlinked {e : Endpoint} (gone : e.link = none) : e.next? = none := by
  rw [next?, gone]

/-- What a request may change: one more may wait for the pump. -/
theorem submit?_cases (e : Endpoint) (request : Call) :
    (e.submit? request).elim e Prod.snd = e ∨ ∃ link requests, e.link = some link ∧
      (e.submit? request).elim e Prod.snd = { e with link := some { link with requests } } := by
  rw [submit?]
  cases there : e.link with
  | none => exact .inl rfl
  | some link =>
    simp only [Link.submit?]
    split
    · rename_i waits
      exact .inl rfl
    · exact .inl rfl
    · rename_i link' submitted
      right
      split at submitted
      · cases submitted
      · split at submitted
        · cases submitted
          exact ⟨link, _, rfl, rfl⟩
        · cases submitted

/-- **What is returned of a link is next in what is left to be read of it.** The link is dropped with its
last event. -/
theorem next?_cases {e e' : Endpoint} {event : LinkEvent} (asked : e.next? = some (event, e')) :
    ∃ link events, e.link = some link ∧ link.rest = event :: events ∧
      (isLast event = true ∧ e' = e.unlink ∨
        isLast event = false ∧ ∃ events, link.events = event :: events ∧
          e' = { e with link := some { link with events } }) := by
  rw [next?] at asked
  cases there : e.link with
  | none => simp [there] at asked
  | some link =>
    simp only [there] at asked
    refine ⟨link, ?_⟩
    cases waiting : link.events with
    | nil =>
      rw [waiting] at asked
      cases pumping : link.pumping with
      | true => simp [pumping] at asked
      | false =>
        simp only [pumping] at asked
        cases asked
        exact ⟨[], rfl, by simp [Link.rest, pumping, waiting], .inl ⟨rfl, rfl⟩⟩
    | cons first more =>
      simp only [waiting] at asked
      obtain ⟨rfl, become⟩ := Prod.mk.inj (Option.some.inj asked)
      have rest : ∃ events, link.rest = first :: events := by
        rw [Link.rest, waiting]
        split <;> exact ⟨_, rfl⟩
      obtain ⟨events, rest⟩ := rest
      refine ⟨events, rfl, rest, ?_⟩
      cases last : isLast first with
      | true => exact .inl ⟨rfl, become.symm.trans (if_pos last)⟩
      | false => exact .inr ⟨rfl, more, rfl, become.symm.trans (if_neg (by simp [last]))⟩

/-- When there is no event, nothing is left to be read of the link. -/
theorem rest_of_next? {e : Endpoint} {link : Link} (there : e.link = some link) (asked : e.next? = none) :
    link.rest = [] := by
  rw [next?, there] at asked
  cases waiting : link.events with
  | cons first more => simp [waiting] at asked
  | nil =>
    cases pumping : link.pumping with
    | true => rw [Link.rest_of_pumping pumping, waiting]
    | false => simp [waiting, pumping] at asked

end Endpoint

/-! ## What is returned -/

/-- The record of the link that is there tells all that has become of it: what has been returned and what
is left to be read are its script, and nothing that is last has been returned. -/
structure Trace.Tells (trace : Trace) (link : Link) : Prop where
  read : trace.returned ++ link.rest = script trace.turns
  going : link.pumping = true ↔ ∀ turn ∈ trace.turns, turn.ends = false
  unfinished : ∀ event ∈ trace.returned, isLast event = false
  clear : link.pumping = true → ∀ event ∈ link.events, isLast event = false
  acknowledged : link.acknowledged = true →
    ∃ code, .polled (.report (.acknowledged true code)) ∈ trace.turns

namespace Trace.Tells

/-- A link starts with nothing to tell. -/
theorem fresh (options : Options) : ({} : Trace).Tells { options } where
  read := rfl
  going := by simp
  unfinished := nofun
  clear := nofun
  acknowledged := nofun

/-- A turn of the pump is told. -/
theorem turn {trace : Trace} {link : Link} (tells : trace.Tells link) (turn : Turn) :
    { trace with turns := trace.turns ++ [turn] : Trace }.Tells (link.turn turn) := by
  have acknowledged (there : (link.turn turn).acknowledged = true) :
      ∃ code, .polled (.report (.acknowledged true code)) ∈ trace.turns ++ [turn] := by
    rcases Link.turn_acknowledged there with before | ⟨code, rfl⟩
    · obtain ⟨code, mem⟩ := tells.acknowledged before
      exact ⟨code, List.mem_append_left _ mem⟩
    · exact ⟨code, by simp⟩
  cases pumping : link.pumping with
  | false =>
    have ended : ∃ turn ∈ trace.turns, turn.ends = true := by simpa [pumping] using tells.going
    rw [Link.turn_of_ended pumping] at acknowledged ⊢
    refine ⟨?_, ?_, tells.unfinished, tells.clear, acknowledged⟩
    · exact tells.read.trans (script_append_of_ended _ ended).symm
    · obtain ⟨last, mem, ends⟩ := ended
      rw [pumping]
      exact ⟨nofun, fun all => nomatch ends.symm.trans (all last (List.mem_append_left _ mem))⟩
  | true =>
    have going := tells.going.mp pumping
    have clear := tells.clear pumping
    have rest := Link.turn_rest pumping clear turn
    refine ⟨?_, ?_, tells.unfinished, fun still event mem => ?_, acknowledged⟩
    · change trace.returned ++ (link.turn turn).rest = script (trace.turns ++ [turn])
      rw [rest, ← List.append_assoc, tells.read, script_append _ going, script_singleton]
    · rw [Link.turn_pumping pumping, Bool.not_eq_true']
      refine ⟨fun more => ?_, fun all => all turn (by simp)⟩
      exact List.forall_mem_append.mpr ⟨going, List.forall_mem_singleton.mpr more⟩
    · rw [← Link.rest_of_pumping still, rest, Link.rest_of_pumping pumping] at mem
      have more : turn.ends = false := by simpa [Link.turn_pumping pumping] using still
      rcases List.mem_append.mp mem with earlier | yielded
      · exact clear event earlier
      · exact Turn.isLast_of_mem_yields more yielded

/-- Reading an event that is not the last one is told. -/
theorem next {trace : Trace} {link : Link} {event : LinkEvent} {events : List LinkEvent}
    (tells : trace.Tells link) (waiting : link.events = event :: events) (more : isLast event = false) :
    { trace with returned := trace.returned ++ [event] : Trace }.Tells { link with events } where
  read := by
    have rest : link.rest = event :: Link.rest { link with events } := by
      simp only [Link.rest, waiting, List.any_cons, more, Bool.false_or]
      split <;> rfl
    rw [← tells.read, rest, List.append_assoc]
    rfl
  going := tells.going
  unfinished := List.forall_mem_append.mpr ⟨tells.unfinished, List.forall_mem_singleton.mpr more⟩
  clear pumping other mem := tells.clear pumping other (waiting ▸ List.mem_cons_of_mem _ mem)
  acknowledged := tells.acknowledged

/-- What comes next is the next event of the script. -/
theorem prefix_next {trace : Trace} {link : Link} {event : LinkEvent} {events : List LinkEvent}
    (tells : trace.Tells link) (waiting : link.rest = event :: events) :
    trace.returned ++ [event] <+: script trace.turns := by
  rw [← tells.read, waiting]
  exact ⟨events, by simp⟩

end Trace.Tells

namespace Chronicle

/-- What is returned of each link is a beginning of its script, and the record of the link that is there
tells all that has become of it. -/
structure Sound (c : Chronicle) : Prop where
  told : ∀ trace ∈ c.links, trace.returned <+: script trace.turns
  tells : ∀ link, c.endpoint.link = some link →
    ∃ trace, c.links[c.latest]? = some trace ∧ trace.Tells link

theorem sound_start (settings : MqttSettings) : (start settings).Sound := ⟨nofun, nofun⟩

/-- Without a link there is nothing to tell but what has been returned. -/
theorem Sound.unlinked {c : Chronicle} {endpoint : Endpoint} (sound : c.Sound)
    (gone : endpoint.link = none) :
    { c with endpoint : Chronicle }.Sound :=
  ⟨sound.told, fun _ there => nomatch gone.symm.trans there⟩

/-- The latest link stays the latest one when a record changes. -/
theorem latest_modify (c : Chronicle) (endpoint : Endpoint) (number : Nat) (change : Trace → Trace) :
    (⟨endpoint, c.links.modify number change⟩ : Chronicle).latest = c.latest := by
  simp [latest]

/-- A change of one record keeps what holds of all of them. -/
theorem forall_mem_modify {traces : List Trace} {number : Nat} {change : Trace → Trace}
    (told : ∀ trace ∈ traces, trace.returned <+: script trace.turns)
    (changed : ∀ trace, traces[number]? = some trace →
      (change trace).returned <+: script (change trace).turns) :
    ∀ trace ∈ traces.modify number change, trace.returned <+: script trace.turns := by
  intro trace mem
  obtain ⟨place, found⟩ := List.mem_iff_getElem?.mp mem
  rw [List.getElem?_modify] at found
  obtain ⟨before, there, rfl⟩ := Option.map_eq_some_iff.mp found
  split
  · rename_i same
    exact changed before (same ▸ there)
  · exact told before (List.mem_of_getElem? there)

/-- **Every step keeps a chronicle sound.** -/
theorem Sound.step {c : Chronicle} (sound : c.Sound) (step : Step) : (c.step step).Sound := by
  cases step with
  | connect profile =>
    rw [Chronicle.step, Endpoint.connect]
    cases Options.ofProfile profile c.endpoint.settings with
    | error fault => exact sound.unlinked rfl
    | ok options =>
      refine ⟨?_, fun link there => ⟨{}, ?_, ?_⟩⟩
      · exact List.forall_mem_append.mpr ⟨sound.told, List.forall_mem_singleton.mpr List.nil_prefix⟩
      · simp [latest]
      · obtain rfl := Option.some.inj there
        exact .fresh options
  | disconnect => exact sound.unlinked rfl
  | submit request =>
    rw [Chronicle.step]
    rcases c.endpoint.submit?_cases request with same | ⟨link, requests, there, same⟩
    · rw [same]
      exact sound
    · rw [same]
      refine ⟨sound.told, fun link' there' => ?_⟩
      obtain rfl := Option.some.inj there'
      obtain ⟨trace, found, tells⟩ := sound.tells link there
      exact ⟨trace, found, tells.read, tells.going, tells.unfinished, tells.clear, tells.acknowledged⟩
  | next =>
    rw [Chronicle.step]
    cases asked : c.endpoint.next? with
    | none => exact sound
    | some answer =>
      obtain ⟨event, endpoint⟩ := answer
      obtain ⟨link, events, there, waiting, become⟩ := Endpoint.next?_cases asked
      obtain ⟨trace, found, tells⟩ := sound.tells link there
      refine ⟨forall_mem_modify sound.told fun trace' found' => ?_, fun link' there' => ?_⟩
      · obtain rfl := Option.some.inj (found.symm.trans found')
        exact tells.prefix_next waiting
      · rcases become with ⟨-, rfl⟩ | ⟨more, events, waiting, rfl⟩
        · cases there'
        · obtain rfl := Option.some.inj there'
          refine ⟨_, ?_, tells.next waiting more⟩
          rw [latest_modify, List.getElem?_modify, found]
          simp
  | turn number turn =>
    rw [Chronicle.step]
    refine ⟨forall_mem_modify sound.told fun trace found => ?_, fun link' there' => ?_⟩
    · have told := sound.told trace (List.mem_of_getElem? found)
      exact told.trans (script_prefix_append _ _)
    · simp only [latest_modify, List.getElem?_modify]
      by_cases current : number = c.latest
      · simp only [if_pos current] at there' ⊢
        obtain ⟨link, there, rfl⟩ := Option.map_eq_some_iff.mp there'
        obtain ⟨trace, found, tells⟩ := sound.tells link there
        exact ⟨_, by rw [found]; rfl, tells.turn turn⟩
      · simp only [if_neg current] at there' ⊢
        obtain ⟨trace, found, tells⟩ := sound.tells link' there'
        exact ⟨trace, by rw [found]; rfl, tells⟩

theorem Sound.run {c : Chronicle} (sound : c.Sound) (steps : List Step) : (c.run steps).Sound := by
  induction steps generalizing c with
  | nil => exact sound
  | cons step rest ih => exact ih (sound.step step)

/-! ## Links that are over -/

/-- A link is over when it has been dropped: there is none, or another one. -/
def Over (c : Chronicle) (number : Nat) : Prop :=
  number < c.links.length ∧ (number = c.latest → c.endpoint.link = none)

/-- What has been returned of a link. -/
def returned? (c : Chronicle) (number : Nat) : Option (List LinkEvent) :=
  c.links[number]?.map Trace.returned

/-- A link that is over stays over, and nothing of it is returned. -/
theorem Over.step {c : Chronicle} {number : Nat} (done : c.Over number) (step : Step) :
    (c.step step).Over number ∧ (c.step step).returned? number = c.returned? number := by
  obtain ⟨within, gone⟩ := done
  cases step with
  | connect profile =>
    rw [Chronicle.step, Endpoint.connect]
    cases Options.ofProfile profile c.endpoint.settings with
    | error fault => exact ⟨⟨within, fun _ => rfl⟩, rfl⟩
    | ok options =>
      refine ⟨⟨by simp; omega, fun same => ?_⟩, ?_⟩
      · simp [latest] at same
        omega
      · simp [returned?, List.getElem?_append_left within]
  | disconnect => exact ⟨⟨within, fun _ => rfl⟩, rfl⟩
  | submit request =>
    refine ⟨⟨within, fun same => ?_⟩, rfl⟩
    rw [Chronicle.step, Endpoint.submit?_of_unlinked (gone same)]
    exact gone same
  | next =>
    rw [Chronicle.step]
    cases asked : c.endpoint.next? with
    | none => exact ⟨⟨within, gone⟩, rfl⟩
    | some answer =>
      -- what is returned is not of this link, which is gone if it is the latest one
      have other : c.latest ≠ number := fun same => by
        rw [Endpoint.next?_of_unlinked (gone same.symm)] at asked
        cases asked
      refine ⟨⟨by simpa using within, fun same => ?_⟩, ?_⟩
      · exact absurd (latest_modify _ _ _ _ ▸ same).symm other
      · simp [returned?, other]
  | turn other turn =>
    rw [Chronicle.step]
    refine ⟨⟨by simpa using within, fun same => ?_⟩, ?_⟩
    · rw [latest_modify] at same
      by_cases current : other = c.latest <;> simp [current, gone same]
    · rw [returned?, returned?, List.getElem?_modify]
      cases c.links[number]? with
      | none => rfl
      | some trace => by_cases same : other = number <;> simp [same]

/-- **Nothing is ever returned of a link that is over.** -/
theorem Over.run {c : Chronicle} {number : Nat} (done : c.Over number) (steps : List Step) :
    (c.run steps).returned? number = c.returned? number := by
  induction steps generalizing c with
  | nil => rfl
  | cons step rest ih =>
    obtain ⟨still, same⟩ := done.step step
    exact (ih still).trans same

/-! ## The contract -/

/-- Whether a step ends the connection: it disconnects, it fails to connect, or it returns a last event. -/
def Ends (c : Chronicle) : Step → Prop
  | .disconnect => True
  | .connect profile => ∃ error, (c.endpoint.connect profile).1 = .error error
  | .next => ∃ event endpoint, c.endpoint.next? = some (event, endpoint) ∧ isLast event = true
  | _ => False

/-- A step that ends the connection leaves no link behind. -/
theorem Ends.unlinked {c : Chronicle} {step : Step} (ends : c.Ends step) :
    (c.step step).endpoint.link = none := by
  cases step with
  | connect profile =>
    obtain ⟨error, fails⟩ := ends
    rw [Endpoint.connect] at fails
    rw [Chronicle.step, Endpoint.connect]
    cases made : Options.ofProfile profile c.endpoint.settings with
    | error fault => rfl
    | ok options =>
      rw [made] at fails
      cases fails
  | disconnect => rfl
  | submit request => exact ends.elim
  | next =>
    obtain ⟨event, endpoint, asked, last⟩ := ends
    rw [Chronicle.step, asked]
    obtain ⟨link, events, -, -, ⟨-, rfl⟩ | ⟨more, -⟩⟩ := Endpoint.next?_cases asked
    · rfl
    · exact nomatch last.symm.trans more
  | turn number turn => exact ends.elim

/-- **What a session may rely on.** Whatever is asked of an endpoint and whatever its pumps go through, in
any order: of each of its links a beginning of the link's script is returned, nothing after an event that is
last, and with that event all of the script; and all of it when the link is there and has no more to read.
A farewell is only asked for if the broker has acknowledged the connection of that very link. Nothing is
ever returned again of a link that another one has replaced. A step that ends the connection leaves an
endpoint that is not active and takes no request, and nothing is ever returned again of any link that it has
had until then. -/
theorem contract (settings : MqttSettings) (steps : List Step) :
    let c := (start settings).run steps
    (∀ trace ∈ c.links, trace.returned <+: script trace.turns ∧
      ∀ before event after, trace.returned = before ++ event :: after → isLast event = true →
        after = [] ∧ trace.returned = script trace.turns) ∧
    (c.endpoint.isActive = true → c.endpoint.next? = none →
      ∃ trace, c.links[c.latest]? = some trace ∧ trace.returned = script trace.turns) ∧
    (c.endpoint.disconnect.1 = true → ∃ trace, c.links[c.latest]? = some trace ∧
      ∃ code, .polled (.report (.acknowledged true code)) ∈ trace.turns) ∧
    (∀ number < c.latest, ∀ later, (c.run later).returned? number = c.returned? number) ∧
    (∀ step, c.Ends step → (c.step step).endpoint.isActive = false ∧
      (∀ request, (c.step step).endpoint.submit? request
        = some (.error .notConnected, (c.step step).endpoint)) ∧
      ∀ number < (c.step step).links.length, ∀ later,
        ((c.step step).run later).returned? number = (c.step step).returned? number) := by
  intro c
  have sound : c.Sound := (sound_start settings).run steps
  refine ⟨fun trace mem => ?_, fun active asked => ?_, fun asks => ?_, fun number older later => ?_,
    fun step ends => ?_⟩
  · have told := sound.told trace mem
    refine ⟨told, fun before event after split last => ?_⟩
    obtain ⟨more, whole⟩ := told
    have told : script trace.turns = before ++ event :: (after ++ more) := by
      rw [← whole, split]
      simp
    have nothing := eq_nil_of_isLast told last
    obtain ⟨rfl, rfl⟩ := List.append_eq_nil_iff.mp nothing
    exact ⟨rfl, by rw [← whole, List.append_nil]⟩
  · obtain ⟨link, there⟩ := Option.isSome_iff_exists.mp active
    obtain ⟨trace, found, tells⟩ := sound.tells link there
    refine ⟨trace, found, ?_⟩
    rw [← tells.read, Endpoint.rest_of_next? there asked, List.append_nil]
  · cases there : c.endpoint.link with
    | none => simp [Endpoint.disconnect, there] at asks
    | some link =>
      obtain ⟨trace, found, tells⟩ := sound.tells link there
      have acknowledged : link.acknowledged = true := by simpa [Endpoint.disconnect, there] using asks
      exact ⟨trace, found, tells.acknowledged acknowledged⟩
  · have within : number < c.links.length := by rw [latest] at older; omega
    exact Over.run ⟨within, fun same => absurd same (Nat.ne_of_lt older)⟩ later
  · have gone := ends.unlinked
    refine ⟨by rw [Endpoint.isActive, gone]; rfl, fun request => Endpoint.submit?_of_unlinked gone request,
      fun number within later => ?_⟩
    exact Over.run ⟨within, fun _ => gone⟩ later

/-- A connection is acknowledged and lost before the end of it is read. -/
def losing : List Step :=
  [.connect (.fresh 2 2 "home" "localhost" 1883), .turn 0 (.polled (.report (.acknowledged true 0))),
    .turn 0 (.polled (.report .outgoing)), .next, .turn 0 (.polled (.failed "reset by peer"))]

/-- The endpoint connects again, and hears of both links. -/
def renewing : List Step :=
  [.connect (.fresh 2 2 "home" "localhost" 1883),
    .turn 0 (.polled (.report (.message "t" [] .atMostOnce false))),
    .turn 1 (.polled (.report (.acknowledged true 0))), .next, .turn 1 (.polled .farewell), .next, .next]

/-- The end of the first connection is returned, and nothing of it later on. -/
theorem contract_renewed :
    ((start {}).run losing).Ends .next ∧
      ((((start {}).run losing).step .next).run renewing).returned? 0
        = some [.connected, .disconnected "reset by peer"] ∧
      ((((start {}).run losing).step .next).run renewing).returned? 1
        = some [.connected, Endpoint.stopped] := by
  have lost : (((start {}).run losing).endpoint.next?).map Prod.fst
      = some (.disconnected "reset by peer") := by decide +kernel
  obtain ⟨⟨event, endpoint⟩, asked, rfl⟩ := Option.map_eq_some_iff.mp lost
  have ends : ((start {}).run losing).Ends .next := ⟨_, _, asked, rfl⟩
  obtain ⟨-, -, -, -, ended⟩ := contract {} losing
  obtain ⟨-, -, silent⟩ := ended .next ends
  refine ⟨ends, (silent 0 (by decide +kernel) renewing).trans ?_, ?_⟩ <;> decide +kernel

end Chronicle

end Mqtt

end MqttSessions
