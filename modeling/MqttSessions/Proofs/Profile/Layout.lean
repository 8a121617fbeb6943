import MqttSessions.Proofs.Json.Entries
import MqttSessions.Proofs.Profile.Document

/-! # What a document lays out

A document is read twice: once for its version, which skips all else, and once for its items. Either
reading is told here by what it accepts. A tree **`Document.Claims`** a version, which is then what
**`Document.readVersion`** reads; it has **`Document.Laid`** out items for one, which are then what
**`Document.readItems`** reads, if each of them can be read. The two forms are not the same: an object
without a version claims 0 but lays out nothing, and a list of a version and items claims nothing. But
where a tree does both it is for the same version (**`Document.Laid.version_eq`**).

For octets, **`Document.ClaimedBy`** and **`Document.Decodes`** say the same. -/

namespace MqttSessions

namespace Document

open Json

variable {entries : List (String × Tree)} {tree : Tree}

/-! ## The version that is claimed -/

/-- The members whose keys are not among the given ones have sound values. -/
def Skips (keys : List String) (entries : List (String × Tree)) : Prop :=
  ∀ entry ∈ entries, entry.1 ∉ keys → entry.2.isSound = true

theorem skips_cons_iff {keys : List String} {key : String} {value : Tree} :
    Skips keys ((key, value) :: entries) ↔ (key ∉ keys → value.isSound = true) ∧ Skips keys entries :=
  List.forall_mem_cons

/-- A tree claims a version: it is an object with a version under its key, or with none there, which
counts as 0; or it is a list of the version alone, or an empty one. All else is skipped. -/
inductive Claims : Tree → Nat → Prop
  | keyed {members : Members} {entries : List (String × Tree)} {v : Nat}
      (closed : members.entries? = some entries) (skips : Skips ["version"] entries)
      (once : under "version" entries = [.natural v]) (small : v ≤ maxWord) : Claims (.object members) v
  | unsaid {members : Members} {entries : List (String × Tree)}
      (closed : members.entries? = some entries) (skips : Skips ["version"] entries)
      (absent : under "version" entries = []) : Claims (.object members) 0
  | alone {v : Nat} (small : v ≤ maxWord) : Claims (.array (.cons (.natural v) .closed)) v
  | empty : Claims (.array .closed) 0

/-- The field of the version. -/
def versionField : Field InvalidQos (Option Nat) :=
  .slot "version" id (fun v _ => some v) (readNatural maxWord)

theorem readNatural_eq_ok_iff {bound n : Nat} :
    (readNatural bound tree : Reading Nat) = .ok n ↔ tree = .natural n ∧ n ≤ bound := by
  constructor
  · intro reads
    refine ⟨?_, le_of_readNatural reads⟩
    cases tree with
    | natural m =>
      rw [readNatural] at reads
      split at reads
      · cases reads
        rfl
      · cases reads
    | _ => cases reads
  · rintro ⟨rfl, within⟩
    exact readNatural_natural within

theorem entered_versionField_iff {claimed last : Option Nat} :
    Entered [versionField] entries claimed last ↔
      Skips ["version"] entries ∧
        Filled (readNatural maxWord : Tree → Reading Nat) claimed (under "version" entries) last := by
  induction entries generalizing claimed with
  | nil => simp [Entered, Skips, filled_nil_iff]
  | cons entry rest ih =>
    obtain ⟨key, value⟩ := entry
    rw [skips_cons_iff]
    by_cases known : key = "version"
    · subst known
      have found : [versionField].find? (·.key == "version")
        = some (.slot "version" id (fun v _ => some v) (readNatural maxWord)) := rfl
      rw [entered_slot_iff found, under_cons_self, filled_cons_iff]
      simp only [ih]
      grind
    · have unknown : [versionField].find? (·.key == key) = none := by
        simp [versionField, Field.slot, Ne.symm known]
      rw [entered_unknown_iff unknown, under_cons_of_ne known, ih]
      grind

/-- **The version of a text is the one that it claims.** -/
theorem readVersion_eq_ok_iff {ended : Bool} {v : Nat} :
    readVersion (tree, ended) = .ok v ↔ Claims tree v ∧ ended = true := by
  rw [readVersion, readWhole_eq_ok_iff]
  refine and_congr_left fun _ => ?_
  have filled : (readRecord [versionField] none tree).map (·.getD 0) = .ok v ↔
      ∃ claimed, readRecord [versionField] none tree = .ok claimed ∧ claimed.getD 0 = v := by
    cases readRecord [versionField] none tree <;> simp [Except.map]
  refine filled.trans ?_
  cases tree with
  | object members =>
    simp only [readRecord, readMembersWith_eq_ok_iff, entered_versionField_iff, filled_none_iff,
      readNatural_eq_ok_iff]
    constructor
    · rintro ⟨_, ⟨entries, closed, skips, ⟨absent, rfl⟩ | ⟨_, v, once, ⟨rfl, small⟩, rfl⟩⟩, rfl⟩
      · exact .unsaid closed skips absent
      · exact .keyed closed skips once small
    · rintro (⟨closed, skips, once, small⟩ | ⟨closed, skips, absent⟩)
      · exact ⟨_, ⟨_, closed, skips, .inr ⟨_, _, once, ⟨rfl, small⟩, rfl⟩⟩, rfl⟩
      · exact ⟨_, ⟨_, closed, skips, .inl ⟨absent, rfl⟩⟩, rfl⟩
  | array items =>
    cases items with
    | closed =>
      constructor
      · rintro ⟨_, ⟨⟩, rfl⟩
        exact .empty
      · rintro ⟨⟩
        exact ⟨none, rfl, rfl⟩
    | broken =>
      constructor
      · rintro ⟨_, ⟨⟩, -⟩
      · rintro ⟨⟩
    | cons item rest =>
      simp only [readRecord, versionField, readPositions_slot_iff, readPositions_nil_iff,
        readNatural_eq_ok_iff]
      constructor
      · rintro ⟨_, ⟨-, v, ⟨rfl, small⟩, rfl, rfl⟩, rfl⟩
        exact .alone small
      · rintro ⟨small⟩
        exact ⟨_, ⟨rfl, _, ⟨rfl, ‹_›⟩, rfl, rfl⟩, rfl⟩
  | _ =>
    constructor
    · rintro ⟨_, ⟨⟩, -⟩
    · rintro ⟨⟩

/-! ## The items that are laid out -/

/-- The elements of the list that stands under the key of the items, if there is one. -/
inductive Listed : List Tree → List Tree → Prop
  | absent : Listed [] []
  | listed {items : Items} {trees : List Tree} (closed : items.trees? = some trees) :
      Listed [.array items] trees

/-- A tree lays out items for a version: it is an object with the version under its key and perhaps a
list of the items under theirs, or a list of the version and perhaps a list of the items. All else is
skipped. -/
inductive Laid : Tree → Nat → List Tree → Prop
  | keyed {members : Members} {entries : List (String × Tree)} {v : Nat} {trees : List Tree}
      (closed : members.entries? = some entries) (skips : Skips ["version", "items"] entries)
      (once : under "version" entries = [.natural v]) (small : v ≤ maxWord)
      (listed : Listed (under "items" entries) trees) : Laid (.object members) v trees
  | alone {v : Nat} (small : v ≤ maxWord) : Laid (.array (.cons (.natural v) .closed)) v []
  | both {v : Nat} {items : Items} {trees : List Tree} (small : v ≤ maxWord)
      (closed : items.trees? = some trees) :
      Laid (.array (.cons (.natural v) (.cons (.array items) .closed))) v trees

theorem entered_fields_iff {draft last : Draft} :
    Entered fields entries draft last ↔
      Skips ["version", "items"] entries ∧
        Filled (readNatural maxWord : Tree → Reading Nat) draft.version (under "version" entries)
          last.version ∧
        Filled (readList readItem) draft.items (under "items" entries) last.items := by
  induction entries generalizing draft with
  | nil =>
    obtain ⟨version, items⟩ := draft
    obtain ⟨version', items'⟩ := last
    simp [Entered, Skips, filled_nil_iff]
  | cons entry rest ih =>
    obtain ⟨key, value⟩ := entry
    rw [skips_cons_iff]
    by_cases version : key = "version"
    · subst version
      have found : fields.find? (·.key == "version") = some (.slot "version" (·.version)
        (fun v d => { d with version := some v }) (readNatural maxWord)) := rfl
      have other : "version" ≠ "items" := by decide
      rw [entered_slot_iff found, under_cons_self, under_cons_of_ne other, filled_cons_iff]
      simp only [ih]
      grind
    · by_cases items : key = "items"
      · subst items
        have found : fields.find? (·.key == "items") = some (.slot "items" (·.items)
          (fun v d => { d with items := some v }) (readList readItem)) := rfl
        rw [entered_slot_iff found, under_cons_self, under_cons_of_ne version, filled_cons_iff]
        simp only [ih]
        grind
      · have unknown : fields.find? (·.key == key) = none := by
          simp [fields, Field.slot, Ne.symm version, Ne.symm items]
        rw [entered_unknown_iff unknown, under_cons_of_ne version, under_cons_of_ne items, ih]
        grind

/-- The record of a document, of which the version must be there. -/
theorem readItems_eq_ok_iff_record {ended : Bool} {v : Nat} {items : List Item} :
    readItems (tree, ended) = .ok (v, items) ↔
      (∃ found, readRecord fields {} tree = .ok ⟨some v, found⟩ ∧ found.getD [] = items) ∧
        ended = true := by
  rw [readItems, readWhole_eq_ok_iff]
  refine and_congr_left fun _ => ?_
  cases readRecord fields {} tree with
  | error fault => simp
  | ok draft =>
    obtain ⟨version, found⟩ := draft
    cases version <;> simp [Draft.finish]

/-- The items that come into their slot are those of the list that stands there. -/
theorem filled_items_iff {values : List Tree} {items : List Item} :
    (∃ found, Filled (readList readItem) none values found ∧ found.getD [] = items) ↔
      ∃ trees, Listed values trees ∧
        List.Forall₂ (fun tree item => readItem tree = .ok item) trees items := by
  constructor
  · rintro ⟨_, _ | reads, rfl⟩
    · exact ⟨[], .absent, .nil⟩
    · obtain ⟨list, trees, rfl, closed, each⟩ := readList_eq_ok_iff.mp reads
      exact ⟨trees, .listed closed, each⟩
  · rintro ⟨trees, _ | closed, each⟩
    · cases each
      exact ⟨none, .untouched _, rfl⟩
    · exact ⟨some items, .filled (readList_eq_ok_iff.mpr ⟨_, trees, rfl, closed, each⟩), rfl⟩

/-- **The items of a text are those that it lays out**, if each of them is read. -/
theorem readItems_eq_ok_iff {ended : Bool} {v : Nat} {items : List Item} :
    readItems (tree, ended) = .ok (v, items) ↔
      (∃ trees, Laid tree v trees ∧
        List.Forall₂ (fun tree item => readItem tree = .ok item) trees items) ∧ ended = true := by
  rw [readItems_eq_ok_iff_record]
  refine and_congr_left fun _ => ?_
  cases tree with
  | object members =>
    simp only [readRecord, readMembersWith_eq_ok_iff, entered_fields_iff]
    constructor
    · rintro ⟨found, ⟨entries, closed, skips, version, list⟩, whole⟩
      obtain ⟨trees, listed, each⟩ := filled_items_iff.mp ⟨found, list, whole⟩
      obtain ⟨-, ⟨⟩⟩ | ⟨_, _, once, said, ⟨⟩⟩ := filled_none_iff.mp version
      obtain ⟨rfl, small⟩ := readNatural_eq_ok_iff.mp said
      exact ⟨trees, .keyed closed skips once small listed, each⟩
    · rintro ⟨trees, ⟨closed, skips, once, small, listed⟩, each⟩
      obtain ⟨found, list, whole⟩ := filled_items_iff.mpr ⟨trees, listed, each⟩
      have said := readNatural_eq_ok_iff.mpr ⟨rfl, small⟩
      exact ⟨found, ⟨_, closed, skips, once ▸ .filled said, list⟩, whole⟩
  | array elements =>
    cases elements with
    | closed =>
      constructor
      · rintro ⟨_, ⟨⟩, -⟩
      · rintro ⟨_, ⟨⟩, -⟩
    | broken =>
      constructor
      · rintro ⟨_, ⟨⟩, -⟩
      · rintro ⟨_, ⟨⟩, -⟩
    | cons first rest =>
      simp only [readRecord, fields, readPositions_slot_iff, readNatural_eq_ok_iff, true_and]
      cases rest with
      | closed =>
        constructor
        · rintro ⟨_, ⟨_, ⟨rfl, small⟩, ⟨⟩⟩, rfl⟩
          exact ⟨[], .alone small, .nil⟩
        · rintro ⟨_, laid, each⟩
          cases laid with
          | alone small =>
            cases each
            exact ⟨none, ⟨v, ⟨rfl, small⟩, rfl⟩, rfl⟩
      | broken =>
        constructor
        · rintro ⟨_, ⟨_, -, ⟨⟩⟩, -⟩
        · rintro ⟨_, ⟨⟩, -⟩
      | cons second rest =>
        simp only [readPositions_slot_iff, readPositions_nil_iff, readList_eq_ok_iff, true_and]
        constructor
        · rintro ⟨_, ⟨_, ⟨rfl, small⟩, _, ⟨list, trees, rfl, closed, each⟩, rfl, ⟨⟩⟩, rfl⟩
          exact ⟨trees, .both small closed, each⟩
        · rintro ⟨trees, laid, each⟩
          cases laid with
          | both small closed =>
            exact ⟨some items, ⟨v, ⟨rfl, small⟩, items, ⟨_, trees, rfl, closed, each⟩, rfl, rfl⟩, rfl⟩
  | _ =>
    constructor
    · rintro ⟨_, ⟨⟩, -⟩
    · rintro ⟨_, ⟨⟩, -⟩

/-- **A document has the version that it claims.** A list of a version and items claims none. -/
theorem Laid.version_eq {v w : Nat} {trees : List Tree} (laid : Laid tree w trees)
    (claims : Claims tree v) : w = v := by
  cases laid with
  | keyed closed _ said _ _ =>
    cases claims with
    | keyed closed' _ said' _ =>
      obtain rfl := Option.some.inj (closed.symm.trans closed')
      exact Tree.natural.inj (List.singleton_inj.mp (said.symm.trans said'))
    | unsaid closed' _ absent =>
      obtain rfl := Option.some.inj (closed.symm.trans closed')
      cases said.symm.trans absent
  | alone =>
    cases claims
    rfl
  | both => cases claims

/-! ## Texts -/

/-- The octets are one value that claims a version. -/
def ClaimedBy (octets : List UInt8) (v : Nat) : Prop :=
  ∃ tree, Json.read octets = (tree, true) ∧ Claims tree v

/-- The octets are one value that lays out items for a version, and each of them is read. -/
def Decodes (octets : List UInt8) (v : Nat) (items : List Item) : Prop :=
  ∃ tree trees, Json.read octets = (tree, true) ∧ Laid tree v trees ∧
    List.Forall₂ (fun tree item => readItem tree = .ok item) trees items

variable {octets : List UInt8} {v w : Nat} {items : List Item}

theorem readVersion_read_iff : readVersion (Json.read octets) = .ok v ↔ ClaimedBy octets v := by
  rw [ClaimedBy]
  obtain ⟨tree, ended⟩ := Json.read octets
  rw [readVersion_eq_ok_iff]
  simp [and_comm]

theorem readItems_read_iff : readItems (Json.read octets) = .ok (v, items) ↔ Decodes octets v items := by
  rw [Decodes]
  obtain ⟨tree, ended⟩ := Json.read octets
  rw [readItems_eq_ok_iff]
  constructor
  · rintro ⟨⟨trees, laid, each⟩, rfl⟩
    exact ⟨tree, trees, rfl, laid, each⟩
  · rintro ⟨_, trees, ⟨⟩, laid, each⟩
    exact ⟨⟨trees, laid, each⟩, rfl⟩

theorem Decodes.unique {items' : List Item} (decodes : Decodes octets v items)
    (again : Decodes octets w items') : w = v ∧ items' = items :=
  Prod.mk.inj
    (Except.ok.inj ((readItems_read_iff.mpr again).symm.trans (readItems_read_iff.mpr decodes)))

theorem Decodes.version_eq (decodes : Decodes octets w items) (claimed : ClaimedBy octets v) :
    w = v := by
  obtain ⟨tree, trees, text, laid, -⟩ := decodes
  obtain ⟨tree', text', claims⟩ := claimed
  obtain rfl := (Prod.mk.inj (text.symm.trans text')).1
  exact laid.version_eq claims

end Document

end MqttSessions
