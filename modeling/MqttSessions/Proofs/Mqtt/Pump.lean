import Mathlib.Data.List.Infix
import MqttSessions.Mqtt.Endpoint

/-! # The turns of a pump

The pump of a link goes through **`Mqtt.Turn`**s, and what there is to read of the link is their
**`Mqtt.script`**: what each of them yields, in their order, up to the first event that is the last one. A
pump that ends without such an event is reported as stopped.

**`Mqtt.Link.turn_rest`**: what is left to be read of a link grows by just what its turns yield. -/

namespace MqttSessions

namespace Mqtt

/-! ## Turns and what they yield -/

/-- A turn of a pump: the network yields something, or the pump is brought down. -/
inductive Turn where
  | polled (polled : Polled)
  | broken
  deriving DecidableEq, Repr

namespace Turn

/-- Whether a pump has ended with a turn: it has passed on a last event, the farewell has gone out, or it
has been brought down. -/
def ends : Turn → Bool
  | .broken => true
  | .polled .farewell => true
  | .polled sent => sent.event?.any isLast

/-- What there is to read of a turn. A pump that ends without a last event is reported as stopped. -/
def yields : Turn → List LinkEvent
  | .broken => [Endpoint.stopped]
  | .polled .farewell => [Endpoint.stopped]
  | .polled sent => sent.event?.toList

/-- A turn that is not the end yields nothing that is last. -/
theorem isLast_of_mem_yields {turn : Turn} (going : turn.ends = false) {event : LinkEvent}
    (mem : event ∈ turn.yields) : isLast event = false := by
  cases turn with
  | broken => cases going
  | polled sent =>
    cases sent with
    | farewell => cases going
    | failed reason => cases going
    | report route =>
      have seen : route.event? = some event := Option.mem_toList.mp mem
      simpa [ends, Polled.event?, seen] using going

/-- A turn that is the end yields one thing, and that is last. -/
theorem yields_of_ends {turn : Turn} (ended : turn.ends = true) :
    ∃ event, turn.yields = [event] ∧ isLast event = true := by
  cases turn with
  | broken => exact ⟨_, rfl, rfl⟩
  | polled sent =>
    cases sent with
    | farewell => exact ⟨_, rfl, rfl⟩
    | failed reason => exact ⟨_, rfl, rfl⟩
    | report route =>
      have last : route.event?.any isLast = true := ended
      cases seen : route.event? with
      | none => simp [seen] at last
      | some event => exact ⟨event, congrArg Option.toList seen, by simpa [seen] using last⟩

end Turn

/-- A session sees something of a route just if the route is meaningful. -/
theorem Route.event?_isSome (route : Route) : route.event?.isSome = route.isMeaningful := by
  cases route with
  | acknowledged success code => cases success <;> rfl
  | _ => rfl

/-- What there is to read of a link: what its turns say, up to the end of its pump. -/
def script : List Turn → List LinkEvent
  | [] => []
  | turn :: rest => if turn.ends then turn.yields else turn.yields ++ script rest

/-- What comes after the end of a pump changes nothing. -/
theorem script_append_of_ended {turns : List Turn} (more : List Turn)
    (ended : ∃ turn ∈ turns, turn.ends = true) : script (turns ++ more) = script turns := by
  induction turns with
  | nil => simp at ended
  | cons turn rest ih =>
    rw [List.cons_append, script, script]
    cases ends : turn.ends with
    | true => rfl
    | false =>
      have later : ∃ turn ∈ rest, turn.ends = true := by simpa [ends] using ended
      rw [ih later]

/-- As long as a pump goes on, what its turns say is added up. -/
theorem script_append {turns : List Turn} (more : List Turn)
    (going : ∀ turn ∈ turns, turn.ends = false) : script (turns ++ more) = script turns ++ script more := by
  induction turns with
  | nil => rfl
  | cons turn rest ih =>
    obtain ⟨first, later⟩ := List.forall_mem_cons.mp going
    simp [script, first, ih later]

/-- The script of one turn is what it says. -/
theorem script_singleton (turn : Turn) : script [turn] = turn.yields := by simp [script]

/-- A beginning of a script stays one. -/
theorem script_prefix_append (turns more : List Turn) : script turns <+: script (turns ++ more) := by
  by_cases ended : ∃ turn ∈ turns, turn.ends = true
  · rw [script_append_of_ended more ended]
  · rw [script_append more (by simpa using ended)]
    exact List.prefix_append _ _

/-- **Nothing comes after a last event.** -/
theorem eq_nil_of_isLast {turns : List Turn} {before after : List LinkEvent} {event : LinkEvent}
    (split : script turns = before ++ event :: after) (last : isLast event = true) : after = [] := by
  induction turns generalizing before with
  | nil => simp [script] at split
  | cons turn rest ih =>
    rw [script] at split
    cases ends : turn.ends with
    | true =>
      obtain ⟨only, single, -⟩ := Turn.yields_of_ends ends
      rw [if_pos ends, single] at split
      cases before with
      | nil => exact (List.cons.inj split).2.symm
      | cons first more => simp at split
    | false =>
      rw [if_neg (by simp [ends])] at split
      -- the event is not one of those that the first turn says
      rcases List.append_eq_append_iff.mp split with ⟨more, -, rest_eq⟩ | ⟨more, said, same⟩
      · exact ih rest_eq
      · cases more with
        | nil =>
          have first : script rest = [] ++ event :: after := same.symm
          exact ih first
        | cons first more =>
          obtain rfl := (List.cons.inj same).1
          have mem : event ∈ turn.yields := by simp [said]
          exact nomatch last.symm.trans (Turn.isLast_of_mem_yields ends mem)

/-! ## What is left to be read -/

namespace Link

/-- A link after a turn of its pump. -/
def turn (link : Link) : Turn → Link
  | .polled sent => link.receive sent
  | .broken => { link with pumping := false }

/-- What is left to be read of a link if its pump gets no further. -/
def rest (link : Link) : List LinkEvent :=
  if link.pumping || link.events.any isLast then link.events else link.events ++ [Endpoint.stopped]

/-- A pump that has ended does nothing any more. -/
theorem turn_of_ended {link : Link} (ended : link.pumping = false) (turn : Turn) :
    link.turn turn = link := by
  cases turn with
  | broken => rw [Link.turn, ← ended]
  | polled sent => simp [Link.turn, receive, ended]

/-- A pump that is at work goes on unless the turn is its end. -/
theorem turn_pumping {link : Link} (pumping : link.pumping = true) (turn : Turn) :
    (link.turn turn).pumping = !turn.ends := by
  cases turn with
  | broken => rfl
  | polled sent =>
    cases sent with
    | farewell => simp [Link.turn, receive, pumping, Turn.ends]
    | failed reason => simp [Link.turn, receive, pumping, Turn.ends, Polled.event?]
    | report route =>
      cases seen : route.event? <;> simp [Link.turn, receive, pumping, Turn.ends, Polled.event?, seen]

theorem rest_of_pumping {link : Link} (pumping : link.pumping = true) : link.rest = link.events := by
  simp [rest, pumping]

/-- **What is left to be read grows by what the turns yield**, as long as the pump is at work. -/
theorem turn_rest {link : Link} (pumping : link.pumping = true)
    (clear : ∀ event ∈ link.events, isLast event = false) (turn : Turn) :
    (link.turn turn).rest = link.rest ++ turn.yields := by
  have unfinished : link.events.any isLast = false := by simpa using clear
  rw [rest_of_pumping pumping]
  cases turn with
  | broken => simp [rest, Link.turn, unfinished, Turn.yields]
  | polled sent =>
    cases sent with
    | farewell => simp [rest, Link.turn, receive, pumping, unfinished, Turn.yields]
    | failed reason =>
      simp [rest, Link.turn, receive, pumping, Turn.yields, Polled.event?, isLast]
    | report route =>
      cases seen : route.event? with
      | none => simp [rest, Link.turn, receive, pumping, Turn.yields, Polled.event?, seen]
      | some event =>
        cases last : isLast event <;>
          simp [rest, Link.turn, receive, pumping, Turn.yields, Polled.event?, seen, last]

/-- A link takes the connection to be acknowledged only if its broker has acknowledged it. -/
theorem turn_acknowledged {link : Link} {turn : Turn}
    (acknowledged : (link.turn turn).acknowledged = true) :
    link.acknowledged = true ∨ ∃ code, turn = .polled (.report (.acknowledged true code)) := by
  cases pumping : link.pumping with
  | false =>
    rw [turn_of_ended pumping] at acknowledged
    exact .inl acknowledged
  | true =>
    cases turn with
    | broken => exact .inl acknowledged
    | polled sent =>
      cases sent with
      | farewell => exact .inl (by simpa [Link.turn, receive, pumping] using acknowledged)
      | failed reason =>
        exact .inl (by simpa [Link.turn, receive, pumping, Polled.event?] using acknowledged)
      | report route =>
        have noted : link.acknowledged = true ∨ route.isAcknowledgement = true := by
          cases seen : route.event? <;>
            simpa [Link.turn, receive, pumping, Polled.event?, seen] using acknowledged
        refine noted.imp_right fun acknowledges => ?_
        cases route with
        | acknowledged success code =>
          obtain rfl : success = true := acknowledges
          exact ⟨code, rfl⟩
        | _ => cases acknowledges

end Link

end Mqtt

end MqttSessions
