import MqttSessions.Proofs.Closing.Finality
import MqttSessions.Proofs.Closing.Stranded

/-! # Several calls that close one session

A session has several holders, and each of them may close it, at any time and as often as it likes.
The parties that work for the session can only be taken once: the call that finds them closes the
session, every other one finds them gone and returns at once. A **`Contested`** is a session with the
call that closes it, and it notes what each call finds when it returns (**`Closing.Return`**).

* **`Contested.return_of_run?`**: whatever a call finds is a moment of a run of the call that closes
  the session, so that what is known of those runs is known of it;
* **`Contested.over_once_returned`**: the call that has taken the parties finds the session over, and
  so does every call that is made after that one has returned;
* **`Contested.returns_at_once`**: a call that is made before finds the session as it is, even over a
  link that is up. -/

namespace MqttSessions

open Session

/-- What a call that closes a session finds when it returns. -/
structure Closing.Return (τ : Type) where
  caller : Nat
  /-- Whether it is the call that has taken the parties. -/
  took : Bool
  found : Closing τ

/-- A session that several callers close. -/
structure Contested (τ : Type) where
  closing : Closing τ
  /-- Who has taken the parties, and closes the session. -/
  taker : Option Nat
  /-- What the calls that have returned have found, first to last. -/
  returns : List (Closing.Return τ)

namespace Contested

open Closing

variable {τ : Type}

/-- Somebody closes the session, or one act of one party is made. -/
inductive Step (τ : Type) where
  | close (caller : Nat)
  | other (act : Act τ)

/-- The act of a step; a call that closes the session is none. -/
def Step.act? : Step τ → Option (Act τ)
  | .close _ => none
  | .other act => some act

/-- A session that nobody has closed. -/
def unclaimed (s : Session τ) : Contested τ := ⟨start s, none, []⟩

/-- Whether an act can be made: the closing call does not begin before the parties have been taken. -/
def mayAct (x : Contested τ) : Act τ → Bool
  | .proceed => x.taker.isSome
  | _ => true

/-- The session at another point. The closing call is noted when it has returned. -/
def advance (x : Contested τ) (closing : Closing τ) : Contested τ where
  closing := closing
  taker := x.taker
  returns :=
    if closing.phase = .returned ∧ x.closing.phase ≠ .returned then
      x.returns ++ (x.taker.map (⟨·, true, closing⟩)).toList
    else x.returns

variable [Transport τ]

/-- One step of somebody, `none` if it cannot be made. -/
def step? (x : Contested τ) : Step τ → Option (Contested τ)
  | .close caller =>
    match x.taker with
    | none => some { x with taker := some caller }
    | some _ => some { x with returns := x.returns ++ [⟨caller, false, x.closing⟩] }
  | .other act => if x.mayAct act then (x.closing.act? act).map x.advance else none

/-- Steps made one after the other; `none` if one of them cannot be made. -/
def run? : Contested τ → List (Step τ) → Option (Contested τ)
  | x, [] => some x
  | x, step :: rest => (x.step? step).bind (run? · rest)

theorem run?_append (x : Contested τ) (first second : List (Step τ)) :
    x.run? (first ++ second) = (x.run? first).bind (run? · second) := by
  induction first generalizing x with
  | nil => rfl
  | cons step rest ih =>
      rw [List.cons_append, run?, run?]
      cases x.step? step with
      | none => rfl
      | some next => exact ih next

/-- Steps in which deadlines are only over when everybody waits. -/
def Patient (x : Contested τ) (steps : List (Step τ)) : Prop :=
  x.closing.Patient (steps.filterMap Step.act?)

/-! ## What a call finds -/

/-- The closing call has made its last step. -/
theorem disconnected_of_acted {c c' : Closing τ} {act : Act τ} (acted : c.Acted act c')
    (returned : c'.phase = .returned) (before : c.phase ≠ .returned) :
    c'.session.state = .disconnected := by
  cases acted with
  | began =>
    rcases firstPhase_cases c.session.state with first | first <;> simp [first] at returned
  | asked | ended | told | signalled | lapsed => cases returned
  | joined party | missed party => cases party <;> cases returned
  | left => exact forceDisconnected_state _
  | moved | fainted | ousted | unhinged | lateTicked | followed => exact absurd returned before

/-- A step makes the acts it stands for. -/
theorem act_of_step? {x x' : Contested τ} {step : Step τ} (made : x.step? step = some x') :
    x.closing.run? step.act?.toList = some x'.closing := by
  cases step with
  | close caller =>
    simp only [step?] at made
    split at made <;> obtain rfl := Option.some.inj made <;> rfl
  | other act =>
    obtain ⟨-, made⟩ := Option.ite_none_right_eq_some.mp made
    obtain ⟨closing, acted, rfl⟩ := Option.map_eq_some_iff.mp made
    exact Option.bind_eq_some_iff.mpr ⟨closing, acted, rfl⟩

/-- What a call finds that returns in a step is the session after it. The call that has taken the
parties has made its last step. -/
theorem return_of_step? {x x' : Contested τ} {step : Step τ} (made : x.step? step = some x')
    {back : Return τ} (mem : back ∈ x'.returns) :
    back ∈ x.returns ∨ back.found = x'.closing ∧ (back.took = true →
      back.found.phase = .returned ∧ back.found.session.state = .disconnected) := by
  cases step with
  | close caller =>
    simp only [step?] at made
    split at made <;> obtain rfl := Option.some.inj made
    · exact .inl mem
    · rcases List.mem_append.mp mem with before | last
      · exact .inl before
      · obtain rfl := List.mem_singleton.mp last
        exact .inr ⟨rfl, by simp⟩
  | other act =>
    obtain ⟨-, made⟩ := Option.ite_none_right_eq_some.mp made
    obtain ⟨closing, acted, rfl⟩ := Option.map_eq_some_iff.mp made
    simp only [advance] at mem
    split at mem
    · rename_i last
      rcases List.mem_append.mp mem with before | now
      · exact .inl before
      · obtain ⟨caller, -, rfl⟩ := Option.map_eq_some_iff.mp (Option.mem_toList.mp now)
        exact .inr ⟨rfl, fun _ => ⟨last.1, disconnected_of_acted (acted_of_act? acted) last.1 last.2⟩⟩
    · exact .inl mem

/-- **What a call finds when it returns is a moment of the run.** -/
theorem return_of_run? {x x' : Contested τ} {steps : List (Step τ)} (run : x.run? steps = some x')
    {back : Return τ} (mem : back ∈ x'.returns) :
    back ∈ x.returns ∨ ∃ before after, steps.filterMap Step.act? = before ++ after ∧
      x.closing.run? before = some back.found ∧ (back.took = true →
        back.found.phase = .returned ∧ back.found.session.state = .disconnected) := by
  induction steps generalizing x with
  | nil =>
      obtain rfl := Option.some.inj run
      exact .inl mem
  | cons step rest ih =>
      obtain ⟨next, made, remaining⟩ := Option.bind_eq_some_iff.mp run
      have acted := act_of_step? made
      have steps : (step :: rest).filterMap Step.act? =
          step.act?.toList ++ rest.filterMap Step.act? := by
        cases step <;> rfl
      rcases ih remaining with now | ⟨before, after, split, ran, last⟩
      · -- it returns in this step, if it has not returned before
        rcases return_of_step? made now with before | ⟨found, last⟩
        · exact .inl before
        · exact .inr ⟨_, _, steps, by rw [acted, found], last⟩
      · refine .inr ⟨step.act?.toList ++ before, after, ?_, ?_, last⟩
        · rw [steps, split, List.append_assoc]
        · rw [Closing.run?_append, acted, Option.bind_some, ran]

/-! ## A session that is over -/

/-- **A call that closes a session finds it over once the call that has taken the parties has
returned.** Take any run of any session that any number of callers close, in any order with the acts
of callers and parties, and a call that has returned. If it is the call that has taken the parties,
it finds the session disconnected, and the worker has stopped or was aborted. If no deadline is over
before everybody waits, that call and every call that is made after it has returned find the session
over: it is disconnected, and its worker, ticker and dispatcher have stopped. -/
theorem over_once_returned {s : Session τ} {steps : List (Step τ)} {x : Contested τ}
    (run : (unclaimed s).run? steps = some x) {back : Return τ} (mem : back ∈ x.returns) :
    (back.took = true → back.found.phase = .returned ∧ back.found.session.state = .disconnected ∧
      (back.found.session.worker.footing = .stopped ∨ .worker ∈ back.found.aborted)) ∧
    ((unclaimed s).Patient steps → back.found.phase = .returned → back.found.session.Over) := by
  rcases return_of_run? run mem with earlier | ⟨before, after, acts, ran, last⟩
  · exact absurd earlier List.not_mem_nil
  constructor
  · intro took
    obtain ⟨returned, state⟩ := last took
    refine ⟨returned, state, ?_⟩
    have orderly : back.found.Orderly := run?_induct Orderly orderly_of_act? (start_orderly s) ran
    rw [← hasStopped_worker_iff]
    exact orderly.joined .worker (by rw [returned]; rfl)
  · intro patient returned
    have patient : (start s).Patient (before ++ after) := acts ▸ patient
    have unhurried : back.found.Unhurried :=
      run?_induct_patient Unhurried unhurried_of_act? patient.of_append (start_unhurried s) ran
    exact unhurried.ended returned

/-! One call closes a session that is connected, the next one finds it connected still, and a third one
is made when the first one has returned. -/

/-- The closing call asks for the end of the connection, and waits for it. -/
def partingSteps : List (Act Rehearsal) :=
  [.proceed, .other .takeCommand, .other .dispatch, .proceed]

/-- The closing call stops the parties, one after the other, and returns. -/
def stoppingSteps : List (Act Rehearsal) :=
  [.proceed, .proceed, .other .takeCommand, .proceed, .other .finishTicker, .proceed, .proceed, .proceed]

/-- Three callers close a session. -/
def threeClosers : List (Step Rehearsal) :=
  connecting.map .other ++ [.close 0, .other .proceed, .close 1] ++
    (partingSteps ++ stoppingSteps).map .other ++ [.close 2]

/-- The first call finds the session over when it returns, and so does the third one. -/
theorem over_once_returned_three :
    ∃ x early own late, (unclaimed (rehearsed {})).run? threeClosers = some x ∧
      (unclaimed (rehearsed {})).Patient threeClosers ∧ x.returns = [early, own, late] ∧
      early.found.session.state = .connected ∧ own.took = true ∧ own.found.session.Over ∧
      late.took = false ∧ late.found.session.Over := by
  obtain ⟨x, early, own, late, run, returns, state, took, returned, other, returned'⟩ :
      ∃ x early own late, (unclaimed (rehearsed {})).run? threeClosers = some x ∧
        x.returns = [early, own, late] ∧ early.found.session.state = .connected ∧ own.took = true ∧
        own.found.phase = .returned ∧ late.took = false ∧ late.found.phase = .returned :=
    ⟨_, _, _, _, rfl, rfl, rfl, rfl, rfl, rfl, rfl⟩
  have patient : (unclaimed (rehearsed {})).Patient threeClosers := by
    refine patient_of_forall_ne fun act mem => ?_
    rintro rfl
    simp [threeClosers, connecting, partingSteps, stoppingSteps, Step.act?] at mem
  have found : own ∈ x.returns ∧ late ∈ x.returns := by simp [returns]
  refine ⟨x, early, own, late, run, patient, returns, state, took, ?_, other, ?_⟩
  · exact (over_once_returned run found.1).2 patient returned
  · exact (over_once_returned run found.2).2 patient returned'

/-! ## A call that is made before -/

/-- Once the parties are taken, the acts of a run can be made. -/
theorem run?_others {x : Contested τ} {caller : Nat} (taken : x.taker = some caller)
    {acts : List (Act τ)} {c : Closing τ} (run : x.closing.run? acts = some c) :
    ∃ x', x.run? (acts.map .other) = some x' ∧ x'.closing = c ∧ x'.taker = some caller := by
  induction acts generalizing x with
  | nil =>
      obtain rfl := Option.some.inj run
      exact ⟨x, rfl, rfl, taken⟩
  | cons act rest ih =>
      obtain ⟨next, made, remaining⟩ := Option.bind_eq_some_iff.mp run
      -- the closing call may begin, and everybody else always may
      have may : x.mayAct act = true := by cases act <;> simp [mayAct, taken]
      have moved : x.step? (.other act) = some (x.advance next) := by
        simp only [step?, may, made, if_true, Option.map_some]
      obtain ⟨x', ran, closing, taker⟩ := ih (x := x.advance next) taken remaining
      exact ⟨x', by rw [List.map_cons, run?, moved, Option.bind_some, ran], closing, taker⟩

/-- **A call that is made while another one closes the session finds it wherever it is.** Whatever the
closing call and the others have done so far, a call that is made now returns, and nothing else has
happened. -/
theorem returns_at_once {s : Session τ} {acts : List (Act τ)} {c : Closing τ}
    (run : (start s).run? acts = some c) :
    ∃ x, (unclaimed s).run? ([.close 0] ++ acts.map .other ++ [.close 1]) = some x ∧
      x.closing = c ∧ ⟨1, false, c⟩ ∈ x.returns := by
  obtain ⟨x, ran, rfl, taker⟩ := run?_others (x := ⟨start s, some 0, []⟩) rfl run
  refine ⟨{ x with returns := x.returns ++ [⟨1, false, x.closing⟩] }, ?_, rfl, ?_⟩
  · have called : (unclaimed s).run? [.close 0] = some ⟨start s, some 0, []⟩ := rfl
    have back : x.run? [.close 1] = some { x with returns := x.returns ++ [⟨1, false, x.closing⟩] } := by
      simp only [run?, step?, taker, Option.bind_some]
    rw [run?_append, run?_append, called, Option.bind_some, ran, Option.bind_some, back]
  · exact List.mem_append_right _ List.mem_cons_self

/-- Of two callers that close a connected session the second one finds it connected, over a link that is
up and with a worker that goes on, while the first one is about to ask for the end of the connection. -/
theorem connected_when_back :
    ∃ x back, (unclaimed (rehearsed {})).run?
        (connecting.map .other ++ [.close 0, .other .proceed, .close 1]) = some x ∧
      x.returns = [back] ∧ back.caller = 1 ∧ back.found.session.state = .connected ∧
      back.found.session.worker.footing = .waiting ∧ back.found.session.worker.link = .up :=
  ⟨_, _, rfl, rfl, rfl, rfl, rfl, rfl⟩

end Contested

end MqttSessions
