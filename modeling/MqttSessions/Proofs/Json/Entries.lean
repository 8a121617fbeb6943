import Mathlib.Data.List.Forall2
import MqttSessions.Proofs.Json.Record

/-! # When a record is read

A list of values is read if it is closed and each of its values is read
(**`Json.readItemsWith_eq_ok_iff`**). The members of an object are read if the object is closed and its
keys are texts, so that it has **`Json.Members.entries?`**, and if they can be entered one after another
(**`Json.Entered`**, **`Json.readMembersWith_eq_ok_iff`**). A field that fills an empty slot is entered at
most once; what it leaves in the slot, of all the values that stand under its key, is said by
**`Json.Filled`**. -/

namespace MqttSessions

namespace Json

variable {Cause α σ : Type}

/-! ## Lists -/

/-- The values of a list, if it is closed. -/
def Items.trees? : Items → Option (List Tree)
  | .closed => some []
  | .broken => none
  | .cons item rest => rest.trees?.map (item :: ·)

/-- **A list is read if it is closed and each of its values is read.** -/
theorem readItemsWith_eq_ok_iff {read : Tree → Reading Cause α} {items : Items} {values : List α} :
    readItemsWith read items = .ok values ↔
      ∃ trees, items.trees? = some trees ∧
        List.Forall₂ (fun tree value => read tree = .ok value) trees values := by
  induction items using readItemsWith.induct read generalizing values with
  | case1 => simp [readItemsWith, Items.trees?, eq_comm]
  | case2 => simp [readItemsWith, Items.trees?]
  | case3 item rest fault fails =>
    -- nothing is read for the first value
    simp only [readItemsWith, fails, Items.trees?, Option.map_eq_some_iff]
    constructor
    · rintro ⟨⟩
    · rintro ⟨_, ⟨trees, -, rfl⟩, each⟩
      cases each with
      | cons first others => cases fails.symm.trans first
  | case4 item rest value first fault fails ih =>
    simp only [readItemsWith, first, fails, Items.trees?, Option.map_eq_some_iff]
    constructor
    · rintro ⟨⟩
    · rintro ⟨_, ⟨trees, closed, rfl⟩, each⟩
      cases each with
      | cons _ others => cases fails.symm.trans (ih.mpr ⟨trees, closed, others⟩)
  | case5 item rest value first others reads ih =>
    simp only [readItemsWith, first, reads, Items.trees?, Option.map_eq_some_iff, Except.ok.injEq]
    constructor
    · rintro rfl
      obtain ⟨trees, closed, each⟩ := ih.mp reads
      exact ⟨item :: trees, ⟨trees, closed, rfl⟩, .cons first each⟩
    · rintro ⟨_, ⟨trees, closed, rfl⟩, each⟩
      cases each with
      | cons again later =>
        obtain rfl := Except.ok.inj (first.symm.trans again)
        obtain rfl := Except.ok.inj (reads.symm.trans (ih.mpr ⟨trees, closed, later⟩))
        rfl

theorem readList_eq_ok_iff {read : Tree → Reading Cause α} {tree : Tree} {values : List α} :
    readList read tree = .ok values ↔
      ∃ items trees, tree = .array items ∧ items.trees? = some trees ∧
        List.Forall₂ (fun tree value => read tree = .ok value) trees values := by
  cases tree with
  | array items => simp [readList, readItemsWith_eq_ok_iff]
  | _ => simp [readList]

/-- A whole text is read if its value is, and nothing follows it. -/
theorem readWhole_eq_ok_iff {read : Tree → Reading Cause α} {tree : Tree} {ended : Bool} {value : α} :
    readWhole read (tree, ended) = .ok value ↔ read tree = .ok value ∧ ended = true := by
  rw [readWhole]
  cases read tree <;> cases ended <;> simp

/-! ## Objects -/

/-- The members of an object, if it is closed and its keys are texts. -/
def Members.entries? : Members → Option (List (String × Tree))
  | .closed => some []
  | .broken => none
  | .cons key value rest =>
    match text? key with
    | none => none
    | some key => rest.entries?.map ((key, value) :: ·)

/-- The values that stand under a key. -/
def under (key : String) (entries : List (String × Tree)) : List Tree :=
  (entries.filter (·.1 == key)).map (·.2)

@[simp] theorem under_nil (key : String) : under key [] = [] := rfl

theorem under_cons_self (key : String) (value : Tree) (rest : List (String × Tree)) :
    under key ((key, value) :: rest) = value :: under key rest := by
  simp [under]

theorem under_cons_of_ne {key other : String} (differ : other ≠ key) (value : Tree)
    (rest : List (String × Tree)) : under key ((other, value) :: rest) = under key rest := by
  simp [under, differ]

/-- What comes of entering members into a record one after another: a known key enters its value, and the
value of an unknown one must be sound. -/
def Entered (fields : List (Field Cause σ)) : List (String × Tree) → σ → σ → Prop
  | [], record, last => last = record
  | (key, value) :: rest, record, last =>
    match fields.find? (·.key == key) with
    | some field => ∃ next, field.enter value record = .ok next ∧ Entered fields rest next last
    | none => value.isSound = true ∧ Entered fields rest record last

/-- **An object is read if it is closed, its keys are texts and its members can be entered.** -/
theorem readMembersWith_eq_ok_iff {fields : List (Field Cause σ)} {members : Members} {record last : σ} :
    readMembersWith fields members record = .ok last ↔
      ∃ entries, members.entries? = some entries ∧ Entered fields entries record last := by
  induction members, record using readMembersWith.induct fields with
  | case1 record => simp [readMembersWith, Members.entries?, Entered, eq_comm]
  | case2 record => simp [readMembersWith, Members.entries?]
  | case3 key value rest record noText => simp [readMembersWith, Members.entries?, noText]
  | case4 key value rest record name text field found fault fails =>
    simp [readMembersWith, Members.entries?, text, found, fails, Entered]
  | case5 key value rest record name text field found next enters ih =>
    simp [readMembersWith, Members.entries?, text, found, enters, Entered, ih]
  | case6 key value rest record name text found sound ih =>
    simp [readMembersWith, Members.entries?, text, found, sound, Entered, ih]
  | case7 key value rest record name text found broken =>
    simp [readMembersWith, Members.entries?, text, found, broken, Entered]

/-! ## Slots -/

/-- What a slot holds after some values have been read for it: what it held before if there are none, and
the one value if it was empty. -/
inductive Filled (read : Tree → Reading Cause α) : Option α → List Tree → Option α → Prop
  | untouched (held : Option α) : Filled read held [] held
  | filled {tree : Tree} {value : α} (reads : read tree = .ok value) :
      Filled read none [tree] (some value)

variable {read : Tree → Reading Cause α}

theorem filled_nil_iff {before after : Option α} : Filled read before [] after ↔ after = before := by
  constructor
  · rintro ⟨⟩
    rfl
  · rintro rfl
    exact .untouched _

/-- A slot is filled by the first value for it if it is empty, and then there is no other one. -/
theorem filled_cons_iff {before after : Option α} {tree : Tree} {rest : List Tree} :
    Filled read before (tree :: rest) after ↔
      before = none ∧ ∃ value, read tree = .ok value ∧ Filled read (some value) rest after := by
  constructor
  · rintro (_ | reads)
    exact ⟨rfl, _, reads, .untouched _⟩
  · rintro ⟨rfl, value, reads, _ | _⟩
    exact .filled reads

/-- What an empty slot holds afterwards. -/
theorem filled_none_iff {trees : List Tree} {after : Option α} :
    Filled read none trees after ↔
      trees = [] ∧ after = none ∨
        ∃ tree value, trees = [tree] ∧ read tree = .ok value ∧ after = some value := by
  constructor
  · rintro (_ | reads)
    · exact .inl ⟨rfl, rfl⟩
    · exact .inr ⟨_, _, rfl, reads, rfl⟩
  · rintro (⟨rfl, rfl⟩ | ⟨tree, value, rfl, reads, rfl⟩)
    · exact .untouched _
    · exact .filled reads

/-- A slot is entered if it is empty and its value is read. -/
theorem slot_enter_iff {key : String} {get : σ → Option α} {set : α → σ → σ} {tree : Tree}
    {record next : σ} :
    (Field.slot key get set read).enter tree record = .ok next ↔
      get record = none ∧ ∃ value, read tree = .ok value ∧ next = set value record := by
  constructor
  · intro enters
    refine ⟨?_, slot_enter enters⟩
    cases held : get record with
    | none => rfl
    | some value => simp [Field.slot, held] at enters
  · rintro ⟨empty, value, reads, rfl⟩
    simp only [Field.slot, empty, reads]
    rfl

/-- A known key enters its value into its slot. -/
theorem entered_slot_iff {fields : List (Field Cause σ)} {key : String} {get : σ → Option α}
    {set : α → σ → σ} {value : Tree} {rest : List (String × Tree)} {record last : σ}
    (found : fields.find? (·.key == key) = some (.slot key get set read)) :
    Entered fields ((key, value) :: rest) record last ↔
      get record = none ∧ ∃ content, read value = .ok content ∧
        Entered fields rest (set content record) last := by
  simp only [Entered, found, slot_enter_iff]
  constructor
  · rintro ⟨next, ⟨empty, content, reads, rfl⟩, later⟩
    exact ⟨empty, content, reads, later⟩
  · rintro ⟨empty, content, reads, later⟩
    exact ⟨_, ⟨empty, content, reads, rfl⟩, later⟩

/-- The value of an unknown key is skipped if it is sound. -/
theorem entered_unknown_iff {fields : List (Field Cause σ)} {key : String} {value : Tree}
    {rest : List (String × Tree)} {record last : σ}
    (unknown : fields.find? (·.key == key) = none) :
    Entered fields ((key, value) :: rest) record last ↔
      value.isSound = true ∧ Entered fields rest record last := by
  rw [Entered, unknown]

/-! ## Positions -/

/-- The first element of a list is read for the first field. -/
theorem readPositions_slot_iff {fields : List (Field Cause σ)} {key : String} {get : σ → Option α}
    {set : α → σ → σ} {item : Tree} {rest : Items} {record last : σ} :
    readPositions (.slot key get set read :: fields) (.cons item rest) record = .ok last ↔
      get record = none ∧ ∃ content, read item = .ok content ∧
        readPositions fields rest (set content record) = .ok last := by
  rw [readPositions]
  constructor
  · intro reads
    cases enters : (Field.slot key get set read).enter item record with
    | error fault => simp [enters] at reads
    | ok next =>
      obtain ⟨empty, content, first, rfl⟩ := slot_enter_iff.mp enters
      simp only [enters] at reads
      exact ⟨empty, content, first, reads⟩
  · rintro ⟨empty, content, first, later⟩
    simp only [slot_enter_iff.mpr ⟨empty, content, first, rfl⟩, later]

/-- Where no fields are left, no elements may be. -/
theorem readPositions_nil_iff {items : Items} {record last : σ} :
    readPositions ([] : List (Field Cause σ)) items record = .ok last ↔
      items = .closed ∧ last = record := by
  cases items <;> simp [readPositions, eq_comm]

end Json

end MqttSessions
