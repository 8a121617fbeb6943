import MqttSessions.Json.Record
import MqttSessions.Proofs.Json.Scalars

/-! # What is known of a record that was read

A record under construction goes through its fields one after another, in the order of the text or of
the fields. Whatever its empty form has and each single field keeps, the finished record has
(**`Json.readRecord_keeps`**); a field that fills a slot says what came into it (**`Json.slot_enter`**).
Of a list, every value has what each value has that is read (**`Json.readList_forall`**). -/

namespace MqttSessions

namespace Json

variable {Cause α σ : Type}

/-! ## Single values -/

@[simp] theorem readText_string (s : String) :
    (readText (.string (pieces s)) : Reading Cause String) = .ok s := by
  rw [readText, text?_pieces]

theorem readNatural_natural {bound n : Nat} (within : n ≤ bound) :
    (readNatural bound (.natural n) : Reading Cause Nat) = .ok n := if_pos within

theorem le_of_readNatural {bound n : Nat} {tree : Tree}
    (reads : (readNatural bound tree : Reading Cause Nat) = .ok n) : n ≤ bound := by
  cases tree with
  | natural m =>
    rw [readNatural] at reads
    split at reads
    · cases reads
      assumption
    · cases reads
  | _ => cases reads

/-- A value that is not null is there. -/
theorem readOptional_of_ne {read : Tree → Reading Cause α} {tree : Tree} (there : tree ≠ .null) :
    readOptional read tree = (read tree).map some := by
  cases tree <;> first | rfl | exact absurd rfl there

/-- The values of a list have what each value that is read has. -/
theorem readList_forall {P : α → Prop} {read : Tree → Reading Cause α}
    (each : ∀ tree value, read tree = .ok value → P value)
    {tree : Tree} {values : List α} (reads : readList read tree = .ok values) :
    ∀ value ∈ values, P value := by
  cases tree with
  | array items =>
    rw [readList] at reads
    induction items using readItemsWith.induct read generalizing values with
    | case1 =>
      cases reads
      exact nofun
    | case5 item rest value first others list ih =>
      simp only [readItemsWith, first, list] at reads
      cases reads
      exact List.forall_mem_cons.mpr ⟨each item value first, ih list⟩
    -- otherwise the list was broken off, or one of its values could not be read
    | _ => simp_all [readItemsWith]
  | _ => cases reads

/-! ## Records -/

/-- A slot that is filled holds what was read for it. -/
theorem slot_enter {key : String} {get : σ → Option α} {set : α → σ → σ}
    {read : Tree → Reading Cause α} {tree : Tree} {record record' : σ}
    (enters : (Field.slot key get set read).enter tree record = .ok record') :
    ∃ value, read tree = .ok value ∧ record' = set value record := by
  simp only [Field.slot] at enters
  split at enters
  · cases enters
  · cases reads : read tree with
    | error fault => rw [reads] at enters; cases enters
    | ok value => rw [reads] at enters; cases enters; exact ⟨value, rfl, rfl⟩

/-- A field keeps a property of the record that it enters. -/
def Field.Keeps (P : σ → Prop) (field : Field Cause σ) : Prop :=
  ∀ tree record record', field.enter tree record = .ok record' → P record → P record'

variable {P : σ → Prop} {fields : List (Field Cause σ)}

theorem readMembersWith_keeps (keeps : ∀ field ∈ fields, field.Keeps P) {members : Members}
    {record record' : σ} (start : P record)
    (reads : readMembersWith fields members record = .ok record') : P record' := by
  induction members, record using readMembersWith.induct fields with
  | case1 record =>
    cases reads
    exact start
  | case5 key value rest record name text field found entered enters ih =>
    simp only [readMembersWith, text, found, enters] at reads
    exact ih (keeps field (List.mem_of_find?_eq_some found) _ _ _ enters start) reads
  | case6 key value rest record name text found sound ih =>
    simp only [readMembersWith, text, found, sound, if_true] at reads
    exact ih start reads
  | case7 key value rest record name text found broken =>
    simp only [readMembersWith, text, found, broken] at reads
    cases reads
  | _ => simp_all [readMembersWith]

theorem readPositions_keeps (keeps : ∀ field ∈ fields, field.Keeps P) {items : Items}
    {record record' : σ} (start : P record)
    (reads : readPositions fields items record = .ok record') : P record' := by
  induction fields, items, record using readPositions.induct with
  | case1 fields record =>
    simp only [readPositions] at reads
    cases reads
    exact start
  | case5 field fields item rest record entered enters ih =>
    simp only [readPositions, enters] at reads
    obtain ⟨first, others⟩ := List.forall_mem_cons.mp keeps
    exact ih others (first _ _ _ enters start) reads
  | _ => simp_all [readPositions]

/-- **A record has what its empty form has and each of its fields keeps.** -/
theorem readRecord_keeps (keeps : ∀ field ∈ fields, field.Keeps P) {empty record : σ}
    (start : P empty) {tree : Tree} (reads : readRecord fields empty tree = .ok record) :
    P record := by
  cases tree with
  | object members => exact readMembersWith_keeps keeps start reads
  | array items => exact readPositions_keeps keeps start reads
  | _ => cases reads

end Json

end MqttSessions
