import Mathlib.Data.List.Nodup
import MqttSessions.Profile.Document
import MqttSessions.Proofs.Json.Record
import MqttSessions.Proofs.Json.Written

/-! # Profile documents that were written

A profile list that is stored comes back when it is read: all profiles in their order, every field as
it was (**`Document.stored_list_returns`**). The one exception is an empty description, which counts as
none, so that the profile comes back with the description of its connection (**`Profile.described`**).
Whoever has been described stays as he is, so storing a list that was read changes nothing.

* **`Document.readItem_itemValue`**: an item is read back field by field;
* **`Document.read_octets`**: what reading a stored list comes to;
* **`Document.repeated?_eq_none_iff`** and **`Document.repeated?_eq_some`**: which id is named if one
  occurs twice;
* **`Document.read_distinct`**, **`Document.read_inRange`** and **`Document.read_generated_zero`**: what
  is known of any list that was read. -/

namespace MqttSessions

namespace Profile

/-- The numbers of a profile fit into two bytes each. -/
structure InRange (p : Profile) : Prop where
  port : p.port ≤ Document.maxShort
  keepAlive : p.keepAliveSecs ≤ Document.maxShort
  timeout : p.connectTimeoutSecs ≤ Document.maxShort

/-- A profile with the description of its connection, if it has none of its own. -/
def described (p : Profile) : Profile :=
  { p with description := if p.description.isEmpty then p.defaultDescription else p.description }

@[simp] theorem described_id (p : Profile) : p.described.id = p.id := rfl

/-- The description of a connection is not empty. -/
theorem describe_isEmpty (name host : String) (port : Nat) :
    (describe name host port).isEmpty = false := by
  simp [describe]

/-- A profile that has a description keeps it. -/
theorem described_of_description {p : Profile} (there : p.description.isEmpty = false) :
    p.described = p := by
  rw [described, there]
  rfl

/-- A profile that has been described has a description. -/
theorem described_isEmpty (p : Profile) : p.described.description.isEmpty = false := by
  simp only [described]
  split
  · exact describe_isEmpty _ _ _
  · rename_i there
    exact Bool.eq_false_iff.mpr there

/-- Describing a profile twice is the same as once. -/
@[simp] theorem described_described (p : Profile) : p.described.described = p.described :=
  described_of_description p.described_isEmpty

instance (p : Profile) : Decidable p.InRange :=
  decidable_of_iff
    (p.port ≤ Document.maxShort ∧ p.keepAliveSecs ≤ Document.maxShort ∧
      p.connectTimeoutSecs ≤ Document.maxShort)
    ⟨fun ⟨port, keepAlive, timeout⟩ => ⟨port, keepAlive, timeout⟩,
      fun ⟨port, keepAlive, timeout⟩ => ⟨port, keepAlive, timeout⟩⟩

theorem InRange.described {p : Profile} (inRange : p.InRange) : p.described.InRange :=
  ⟨inRange.port, inRange.keepAlive, inRange.timeout⟩

end Profile

namespace Document

open Json

/-! ## Reading values that were written -/

@[simp] theorem readQos_natural (qos : Qos) : readQos (.natural qos.level) = .ok qos := by
  cases qos <;> rfl

@[simp] theorem readProtocol_string (protocol : Protocol) :
    readProtocol (.string (pieces protocol.text)) = .ok protocol := by
  rw [readProtocol, readProtocolName, text?_pieces]
  cases protocol <;> rfl

/-! ## Reading items that were written -/

/-- A last will is read back. -/
theorem readWill_willValue (will : LastWill) :
    readOptional readWill (treeOf (willValue will)) = .ok (some will) := by
  rw [readOptional_of_ne (by simp [willValue, treeOf])]
  simp [readWill, willValue, treeOf, membersOf, readRecord, readMembersWith, willFields, Field.slot,
    readBool, WillDraft.finish, Except.map]

/-- The item that a profile is written as. -/
def itemOf (p : Profile) : Item where
  id := some p.id
  name := p.name
  clientId := p.clientId
  protocol := p.protocol
  host := p.host
  port := p.port
  qos := p.qos
  username := p.username
  password := p.password
  tls := p.useTls
  cleanSession := p.cleanSession
  description := some p.description
  keepAlive := p.keepAliveSecs
  timeout := p.connectTimeoutSecs
  lastWill := p.lastWill

/-- **An item is read back**, field by field. -/
theorem readItem_itemValue {p : Profile} (inRange : p.InRange) :
    readItem (treeOf (itemValue p)) = .ok (itemOf p) := by
  obtain ⟨port, keepAlive, timeout⟩ := inRange
  obtain ⟨id, name, clientId, protocol, host, _, username, password, useTls, cleanSession, qos,
    description, _, _, lastWill⟩ := p
  have text (s : String) : (readOptional readText (.string (pieces s)) : Reading _) = .ok (some s) := by
    simp [readOptional, Except.map]
  cases lastWill with
  | none =>
    simp [readItem, itemValue, itemOf, treeOf, membersOf, readRecord, readMembersWith, itemFields,
      Field.slot, ItemDraft.finish, readBool, Except.map, text, readNatural_natural, port, keepAlive,
      timeout]
  | some will =>
    simp [readItem, itemValue, itemOf, treeOf, membersOf, readRecord, readMembersWith, itemFields,
      Field.slot, ItemDraft.finish, readBool, Except.map, text, readNatural_natural, port, keepAlive,
      timeout, readWill_willValue]

/-- The items of a list are read back in their order. -/
theorem readItemsWith_itemsOf {profiles : List Profile} (inRange : ∀ p ∈ profiles, p.InRange) :
    readItemsWith readItem (itemsOf (profiles.map itemValue)) = .ok (profiles.map itemOf) := by
  induction profiles with
  | nil => rfl
  | cons p rest ih =>
      have first := readItem_itemValue (inRange p List.mem_cons_self)
      have others := ih fun other mem => inRange other (List.mem_cons_of_mem p mem)
      simp only [List.map_cons, itemsOf, readItemsWith, first, others]

/-- The version of a stored list, whatever its profiles. -/
theorem readVersion_value (profiles : List Profile) :
    readVersion (treeOf (value profiles), true) = .ok version := by
  simp [readVersion, readWhole, value, treeOf, membersOf, readRecord, readMembersWith, Field.slot,
    readNatural_natural, version, maxWord, isSound_itemsOf, Tree.isSound, Except.map]

/-- The items of a stored list. -/
theorem readItems_value {profiles : List Profile} (inRange : ∀ p ∈ profiles, p.InRange) :
    readItems (treeOf (value profiles), true) = .ok (version, profiles.map itemOf) := by
  simp [readItems, readWhole, value, treeOf, membersOf, readRecord, readMembersWith, fields,
    Field.slot, readNatural_natural, version, maxWord, readList, readItemsWith_itemsOf inRange,
    Draft.finish, Except.map]

/-! ## Profiles of items -/

/-- The profile of an item that a profile was written as. -/
theorem profile_itemOf (p : Profile) (generated : String) : (itemOf p).profile generated = p.described :=
  rfl

/-- An item that has an id keeps it, whatever is given out. -/
theorem profilesFrom_of_ids {items : List Item} (named : items.countP (·.id.isNone) = 0)
    (ids ids' : Nat → String) (next next' : Nat) :
    profilesFrom ids next items = profilesFrom ids' next' items := by
  induction items generalizing next next' with
  | nil => rfl
  | cons item rest ih =>
      rw [List.countP_cons] at named
      cases id : item.id with
      | none => simp [id] at named
      | some given =>
        have first : item.profile (ids next) = item.profile (ids' next') := by
          simp [Item.profile, id]
        rw [profilesFrom, profilesFrom, first, ih (by omega) _ _]

/-- The profiles of items that profiles were written as. -/
theorem profilesFrom_itemOf (profiles : List Profile) (ids : Nat → String) (next : Nat) :
    profilesFrom ids next (profiles.map itemOf) = profiles.map Profile.described := by
  induction profiles generalizing next with
  | nil => rfl
  | cons p rest ih => rw [List.map_cons, profilesFrom, ih, profile_itemOf, List.map_cons]

/-! ## Ids that occur twice -/

/-- No id is repeated if none occurs twice or was seen before. -/
theorem repeated?_eq_none_iff {seen ids : List String} :
    repeated? seen ids = none ↔ ids.Nodup ∧ ∀ id ∈ ids, id ∉ seen := by
  induction ids generalizing seen with
  | nil => simp [repeated?]
  | cons id rest ih =>
      rw [repeated?, List.nodup_cons]
      split
      · rename_i before
        simp_all
      · rename_i fresh
        rw [ih]
        simp_all only [List.contains_iff_mem, List.mem_cons, not_or, forall_eq_or_imp]
        constructor
        · rintro ⟨distinct, others⟩
          exact ⟨⟨fun mem => (others id mem).1 rfl, distinct⟩, not_false, fun other mem => (others other mem).2⟩
        · rintro ⟨⟨once, distinct⟩, -, others⟩
          exact ⟨distinct, fun other mem => ⟨fun eq => once (eq ▸ mem), others other mem⟩⟩

/-- The id that is named is the first one that has occurred before it. -/
theorem repeated?_eq_some {seen ids : List String} {id : String}
    (repeats : repeated? seen ids = some id) :
    ∃ before after, ids = before ++ id :: after ∧ before.Nodup ∧ (∀ other ∈ before, other ∉ seen) ∧
      (id ∈ before ∨ id ∈ seen) := by
  -- the induction goes along the scan, which adds each id to those that it has seen
  induction ids generalizing seen with
  | nil => cases repeats
  | cons first rest ih =>
      rw [repeated?] at repeats
      split at repeats
      · rename_i known
        obtain rfl := Option.some.inj repeats
        exact ⟨[], rest, rfl, List.nodup_nil, nofun, .inr (List.contains_iff_mem.mp known)⟩
      · rename_i fresh
        obtain ⟨before, after, rfl, distinct, apart, occurs⟩ := ih repeats
        have once : first ∉ before := fun mem => apart first mem List.mem_cons_self
        refine ⟨first :: before, after, rfl, List.nodup_cons.mpr ⟨once, distinct⟩, ?_, ?_⟩
        · rintro other (_ | ⟨_, mem⟩)
          · simpa using fresh
          · exact fun known => apart other mem (List.mem_cons_of_mem first known)
        · rcases occurs with mem | mem
          · exact .inl (List.mem_cons_of_mem first mem)
          · rcases List.mem_cons.mp mem with rfl | mem
            · exact .inl List.mem_cons_self
            · exact .inr mem

/-! ## Lists that were written -/

theorem countP_itemOf (profiles : List Profile) :
    (profiles.map itemOf).countP (·.id.isNone) = 0 := by
  simp [List.countP_eq_zero, itemOf]

theorem map_id_described (profiles : List Profile) :
    (profiles.map Profile.described).map Profile.id = profiles.map Profile.id := by
  simp [Function.comp_def]

theorem map_described_described (profiles : List Profile) :
    (profiles.map Profile.described).map Profile.described = profiles.map Profile.described := by
  simp [Function.comp_def]

/-- **What reading a stored list comes to**: its profiles, each described, unless an id is repeated. -/
theorem read_octets {profiles : List Profile} (inRange : ∀ p ∈ profiles, p.InRange) (ids : Nat → String) :
    read ids (octets profiles) =
      match repeated? [] (profiles.map Profile.id) with
      | some id => .error (.duplicateId id)
      | none => .ok ⟨profiles.map Profile.described, 0⟩ := by
  have text : Json.read (octets profiles) = (treeOf (value profiles), true) := read_written _
  cases repeats : repeated? [] (profiles.map Profile.id) with
  | none =>
    simp only [read, text, readVersion_value, readItems_value inRange, profilesFrom_itemOf,
      map_id_described, repeats, countP_itemOf, ne_eq, not_true_eq_false, if_false]
  | some id =>
    simp only [read, text, readVersion_value, readItems_value inRange, profilesFrom_itemOf,
      map_id_described, repeats, ne_eq, not_true_eq_false, if_false]

/-- A stored list whose ids are distinct is read. -/
theorem read_octets_of_nodup {profiles : List Profile} (inRange : ∀ p ∈ profiles, p.InRange)
    (distinct : (profiles.map Profile.id).Nodup) (ids : Nat → String) :
    read ids (octets profiles) = .ok ⟨profiles.map Profile.described, 0⟩ := by
  rw [read_octets inRange, repeated?_eq_none_iff.mpr ⟨distinct, fun _ _ => List.not_mem_nil⟩]

/-- A stored list in which an id occurs twice is refused for the first id that has occurred before. -/
theorem read_octets_of_not_nodup {profiles : List Profile} (inRange : ∀ p ∈ profiles, p.InRange)
    (double : ¬(profiles.map Profile.id).Nodup) (ids : Nat → String) :
    ∃ before p after, profiles = before ++ p :: after ∧ (before.map Profile.id).Nodup ∧
      p.id ∈ before.map Profile.id ∧ read ids (octets profiles) = .error (.duplicateId p.id) := by
  rw [read_octets inRange]
  cases repeats : repeated? [] (profiles.map Profile.id) with
  | none => exact absurd (repeated?_eq_none_iff.mp repeats).1 double
  | some id =>
    obtain ⟨before, after, split, distinct, -, occurs⟩ := repeated?_eq_some repeats
    obtain ⟨first, others, rfl, rfl, rest⟩ := List.map_eq_append_iff.mp split
    obtain ⟨p, last, rfl, rfl, rfl⟩ := List.map_eq_cons_iff.mp rest
    exact ⟨first, p, last, rfl, distinct, occurs.resolve_right List.not_mem_nil, rfl⟩

/-! ## Any document that is read -/

/-- A list is read if the version is the right one, the items are of the right form, and no id occurs
twice. -/
theorem read_eq_ok_iff {ids : Nat → String} {octets : List UInt8} {loaded : Loaded} :
    read ids octets = .ok loaded ↔
      readVersion (Json.read octets) = .ok version ∧
      ∃ found items, readItems (Json.read octets) = .ok (found, items) ∧
        ((profilesFrom ids 0 items).map Profile.id).Nodup ∧
        loaded = ⟨profilesFrom ids 0 items, items.countP (·.id.isNone)⟩ := by
  simp only [read]
  cases claimed : readVersion (Json.read octets) with
  | error fault => simp
  | ok found =>
    by_cases right : found = version
    · cases content : readItems (Json.read octets) with
      | error fault => simp [right]
      | ok pair =>
        obtain ⟨again, items⟩ := pair
        subst right
        -- nothing was seen before the first id, so that no id is repeated if they are distinct
        have once : repeated? [] ((profilesFrom ids 0 items).map Profile.id) = none ↔ _ :=
          repeated?_eq_none_iff
        cases repeats : repeated? [] ((profilesFrom ids 0 items).map fun p => p.id) with
        | some id =>
          have double : ¬((profilesFrom ids 0 items).map Profile.id).Nodup := fun distinct =>
            nomatch repeats.symm.trans (once.mpr ⟨distinct, fun _ _ => List.not_mem_nil⟩)
          simp [double, repeats]
        | none =>
          have distinct : ((profilesFrom ids 0 items).map Profile.id).Nodup := (once.mp repeats).1
          simp [distinct, repeats, eq_comm]
    · simp [right]

/-- **The ids of a list that was read are distinct.** -/
theorem read_distinct {ids : Nat → String} {octets : List UInt8} {loaded : Loaded}
    (reads : read ids octets = .ok loaded) : (loaded.profiles.map Profile.id).Nodup := by
  obtain ⟨-, _, _, -, distinct, rfl⟩ := read_eq_ok_iff.mp reads
  exact distinct

/-- **A list that needed no new ids** is read the same whatever ids there are to be given out. -/
theorem read_generated_zero {ids : Nat → String} {octets : List UInt8} {loaded : Loaded}
    (reads : read ids octets = .ok loaded) (named : loaded.generated = 0) (ids' : Nat → String) :
    read ids' octets = .ok loaded := by
  obtain ⟨right, found, items, content, distinct, rfl⟩ := read_eq_ok_iff.mp reads
  have same := profilesFrom_of_ids named ids ids' 0 0
  refine read_eq_ok_iff.mpr ⟨right, found, items, content, same ▸ distinct, ?_⟩
  rw [same]

/-- Every profile of a list that was read is the profile of an item. -/
theorem mem_profilesFrom {ids : Nat → String} {next : Nat} {items : List Item} {p : Profile}
    (mem : p ∈ profilesFrom ids next items) : ∃ item ∈ items, ∃ given, p = item.profile given := by
  induction items generalizing next with
  | nil => cases mem
  | cons item rest ih =>
      rcases List.mem_cons.mp mem with rfl | mem
      · exact ⟨item, List.mem_cons_self, _, rfl⟩
      · obtain ⟨other, mem, made⟩ := ih mem
        exact ⟨other, List.mem_cons_of_mem item mem, made⟩

/-- The profile of an item has a description. -/
theorem profile_described (item : Item) (given : String) :
    (item.profile given).described = item.profile given := by
  refine Profile.described_of_description ?_
  cases description : item.description with
  | none => simp [Item.profile, description, Profile.describe_isEmpty]
  | some text =>
    simp only [Item.profile, description]
    split
    · exact Profile.describe_isEmpty _ _ _
    · rename_i there
      exact Bool.eq_false_iff.mpr there

/-- **Whoever was read has been described.** -/
theorem read_described {ids : Nat → String} {octets : List UInt8} {loaded : Loaded}
    (reads : read ids octets = .ok loaded) : loaded.profiles.map Profile.described = loaded.profiles := by
  obtain ⟨-, _, items, -, -, rfl⟩ := read_eq_ok_iff.mp reads
  refine (List.map_congr_left fun p mem => ?_).trans (List.map_id _)
  obtain ⟨item, -, given, rfl⟩ := mem_profilesFrom mem
  exact profile_described item given

/-! ## Numbers of items that were read -/

/-- The numbers that an item under construction has fit into two bytes each. -/
structure ItemDraft.InRange (d : ItemDraft) : Prop where
  port : ∀ n ∈ d.port, n ≤ maxShort
  keepAlive : ∀ n ∈ d.keepAlive, n ≤ maxShort
  timeout : ∀ n ∈ d.timeout, n ≤ maxShort

theorem ItemDraft.inRange_empty : ({} : ItemDraft).InRange where
  port _ there := nomatch there
  keepAlive _ there := nomatch there
  timeout _ there := nomatch there

/-- A slot that a number was read for holds one that fits. -/
theorem forall_mem_of_readNatural {bound value : Nat} {tree : Tree}
    (reads : (readNatural bound tree : Reading Nat) = .ok value) : ∀ n ∈ some value, n ≤ bound := by
  rintro n ⟨⟩
  exact le_of_readNatural reads

/-- No field lets a number in that does not fit. -/
theorem itemFields_inRange : ∀ field ∈ itemFields, field.Keeps ItemDraft.InRange := by
  intro field mem tree d d' enters inRange
  simp only [itemFields, List.mem_cons, List.not_mem_nil, or_false] at mem
  rcases mem with rfl | rfl | rfl | rfl | rfl | rfl | rfl | rfl | rfl | rfl | rfl | rfl | rfl | rfl | rfl
  all_goals obtain ⟨value, reads, rfl⟩ := slot_enter enters
  -- most fields leave the three numbers alone, and the others read one of them
  all_goals
    first
    | exact ⟨inRange.port, inRange.keepAlive, inRange.timeout⟩
    | exact { inRange with port := forall_mem_of_readNatural reads }
    | exact { inRange with keepAlive := forall_mem_of_readNatural reads }
    | exact { inRange with timeout := forall_mem_of_readNatural reads }

/-- The numbers of an item fit into two bytes each. -/
structure Item.InRange (item : Item) : Prop where
  port : item.port ≤ maxShort
  keepAlive : item.keepAlive ≤ maxShort
  timeout : item.timeout ≤ maxShort

theorem ItemDraft.InRange.finish {d : ItemDraft} (inRange : d.InRange) {item : Item}
    (finishes : d.finish = .ok item) : item.InRange := by
  have getD {slot : Option Nat} (fits : ∀ n ∈ slot, n ≤ maxShort) : slot.getD 0 ≤ maxShort := by
    cases slot with
    | none => exact Nat.zero_le _
    | some n => exact fits n rfl
  rw [ItemDraft.finish] at finishes
  split at finishes
  · rename_i port_
    cases finishes
    exact ⟨inRange.port _ port_, getD inRange.keepAlive, getD inRange.timeout⟩
  · cases finishes

theorem readItem_inRange {tree : Tree} {item : Item} (reads : readItem tree = .ok item) : item.InRange := by
  rw [readItem] at reads
  split at reads
  · cases reads
  · rename_i d record
    have inRange : d.InRange := readRecord_keeps itemFields_inRange ItemDraft.inRange_empty record
    exact inRange.finish reads

/-- The items that a document under construction has are in range. -/
def Draft.InRange (d : Draft) : Prop := ∀ items ∈ d.items, ∀ item ∈ items, item.InRange

theorem Draft.inRange_empty : ({} : Draft).InRange := fun _ there => nomatch there

theorem fields_inRange : ∀ field ∈ fields, field.Keeps Draft.InRange := by
  intro field mem tree d d' enters inRange
  simp only [fields, List.mem_cons, List.not_mem_nil, or_false] at mem
  rcases mem with rfl | rfl
  all_goals obtain ⟨value, reads, rfl⟩ := slot_enter enters
  · exact inRange
  · rintro items ⟨⟩
    exact readList_forall (fun _ _ => readItem_inRange) reads

/-- Every item of a document that is read is in range. -/
theorem readItems_inRange {text : Tree × Bool} {found : Nat} {items : List Item}
    (reads : readItems text = .ok (found, items)) : ∀ item ∈ items, item.InRange := by
  obtain ⟨tree, ended⟩ := text
  simp only [readItems, readWhole] at reads
  cases record : readRecord fields {} tree with
  | error fault => simp [record] at reads
  | ok d =>
    have inRange : d.InRange := readRecord_keeps fields_inRange Draft.inRange_empty record
    cases version : d.version with
    | none => simp [record, Draft.finish, version] at reads
    | some version =>
      simp only [record, Draft.finish, version] at reads
      split at reads
      · cases reads
        cases list : d.items with
        | none => exact fun _ mem => absurd mem List.not_mem_nil
        | some items => exact inRange items list
      · cases reads

/-- **The numbers of every profile that was read fit into two bytes each.** -/
theorem read_inRange {ids : Nat → String} {octets : List UInt8} {loaded : Loaded}
    (reads : read ids octets = .ok loaded) : ∀ p ∈ loaded.profiles, p.InRange := by
  obtain ⟨-, _, items, content, -, rfl⟩ := read_eq_ok_iff.mp reads
  intro p mem
  obtain ⟨item, there, given, rfl⟩ := mem_profilesFrom mem
  obtain ⟨port, keepAlive, timeout⟩ := readItems_inRange content item there
  exact ⟨port, keepAlive, timeout⟩

/-! ## Storing and reading -/

/-- **A stored list returns.** If its ids are distinct, it is read without new ids, all profiles in
their order and every field as it was, an empty description apart; and storing what was read changes
nothing. If an id occurs twice, the list is refused for the first profile whose id has occurred
before. -/
theorem stored_list_returns {profiles : List Profile} (inRange : ∀ p ∈ profiles, p.InRange)
    (ids : Nat → String) :
    ((profiles.map Profile.id).Nodup →
      read ids (octets profiles) = .ok ⟨profiles.map Profile.described, 0⟩ ∧
      ∀ ids', read ids' (octets (profiles.map Profile.described))
        = .ok ⟨profiles.map Profile.described, 0⟩) ∧
    (¬(profiles.map Profile.id).Nodup →
      ∃ before p after, profiles = before ++ p :: after ∧ (before.map Profile.id).Nodup ∧
        p.id ∈ before.map Profile.id ∧ read ids (octets profiles) = .error (.duplicateId p.id)) := by
  refine ⟨fun distinct => ⟨read_octets_of_nodup inRange distinct ids, fun ids' => ?_⟩,
    fun double => read_octets_of_not_nodup inRange double ids⟩
  have again : ∀ p ∈ profiles.map Profile.described, p.InRange :=
    List.forall_mem_map.mpr fun p mem => (inRange p mem).described
  have same : ((profiles.map Profile.described).map Profile.id).Nodup := by
    rwa [map_id_described]
  rw [read_octets_of_nodup again same, map_described_described]

/-- A profile without a description, with a quote, a backslash, controls and wide characters in its
texts and the greatest numbers there are. -/
def undescribed : Profile where
  id := "\u0000\"\\"
  name := "caf\u00e9 😀\n"
  clientId := ""
  protocol := .v5
  host := "::1"
  port := 65535
  username := "\t"
  password := "\u007f\u2028"
  useTls := true
  cleanSession := false
  qos := .exactlyOnce
  description := ""
  keepAliveSecs := 65535
  connectTimeoutSecs := 65535
  lastWill := some ⟨"", .atLeastOnce, true, "\u001f"⟩

/-- Such a profile returns beside another one, and not beside itself. -/
theorem stored_list_returns_undescribed :
    (∀ p ∈ [undescribed, .fresh 0 0 "local" "localhost" 1883], p.InRange) ∧
    read (fun _ => "new") (octets [undescribed, .fresh 0 0 "local" "localhost" 1883])
      = .ok ⟨[{ undescribed with description := "caf\u00e9 😀\n@::1:65535" },
          .fresh 0 0 "local" "localhost" 1883], 0⟩ ∧
    (∀ p ∈ [undescribed, undescribed], p.InRange) ∧
    ∃ before p after, [undescribed, undescribed] = before ++ p :: after ∧
      (before.map Profile.id).Nodup ∧ p.id ∈ before.map Profile.id ∧
      read (fun _ => "new") (octets [undescribed, undescribed]) = .error (.duplicateId p.id) := by
  have inRange : ∀ p ∈ [undescribed, .fresh 0 0 "local" "localhost" 1883], p.InRange := by decide
  have twice : ∀ p ∈ [undescribed, undescribed], p.InRange := by decide
  have own : undescribed.described
      = { undescribed with description := "caf\u00e9 😀\n@::1:65535" } := by decide
  have other : (Profile.fresh 0 0 "local" "localhost" 1883).described
      = .fresh 0 0 "local" "localhost" 1883 := Profile.described_of_description (by decide)
  have returned := ((stored_list_returns inRange fun _ => "new").1 (by decide)).1
  simp only [List.map_cons, List.map_nil, own, other] at returned
  exact ⟨inRange, returned, twice, (stored_list_returns twice _).2 (by decide)⟩

end Document

end MqttSessions
