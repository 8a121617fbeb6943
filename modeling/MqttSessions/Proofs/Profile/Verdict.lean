import MqttSessions.Proofs.Profile.Layout

/-! # What becomes of a document

Five things can become of a text (**`Document.Verdict`**). It claims no version, or another one than the
right one; or it does not lay out items that are all read; or an id occurs twice among them; or it is
loaded. New ids are of no account for that, as long as they are **`Document.Fresh`**: the scan for an id
that occurs twice goes over them (**`Document.repeated?_profilesFrom`**).

* **`Document.repeated?_eq_some_iff`**: the id that is named is the first one that an item before has;
* **`Document.profilesFrom_eq_mapIdx`**: which new id the profile of an item gets;
* **`Document.verdict_of_read`**: reading comes to the verdict;
* **`Document.read_verdict`**: when it comes to which. -/

namespace MqttSessions

namespace Document

open Json

variable {octets : List UInt8} {v : Nat} {items : List Item}

/-! ## New ids -/

/-- New ids are distinct from each other and from those that some items have. -/
structure Fresh (ids : Nat → String) (items : List Item) : Prop where
  distinct : Function.Injective ids
  unused : ∀ item ∈ items, ∀ k, item.id ≠ some (ids k)

/-- The scan for an id that occurs twice goes over new ids as if they were not there. -/
theorem repeated?_profilesFrom_of_seen {ids : Nat → String} {next : Nat} {seen seen' : List String}
    (fresh : Fresh ids items) (same : ∀ id, (∀ k, id ≠ ids k) → (id ∈ seen ↔ id ∈ seen'))
    (later : ∀ k, next ≤ k → ids k ∉ seen) :
    repeated? seen ((profilesFrom ids next items).map Profile.id)
      = repeated? seen' (items.filterMap (·.id)) := by
  obtain ⟨distinct, unused⟩ := fresh
  induction items generalizing next seen seen' with
  | nil => rfl
  | cons item rest ih =>
    obtain ⟨own, others⟩ := List.forall_mem_cons.mp unused
    cases named : item.id with
    | some id =>
      -- an id that the item has is not one of the new ones
      have foreign : ∀ k, id ≠ ids k := fun k eq => own k (named.trans (congrArg some eq))
      have kept : (item.profile (ids next)).id = id := by simp [Item.profile, named]
      have known : seen.contains id = seen'.contains id := by simp [same id foreign]
      rw [profilesFrom, List.map_cons, repeated?, kept, List.filterMap_cons_some named, repeated?, known]
      split
      · rfl
      · rw [named]
        refine ih (fun other apart => ?_) (fun k from_ => ?_) others
        · rw [List.mem_cons, List.mem_cons, same other apart]
        · exact List.not_mem_cons_of_ne_of_not_mem (foreign k).symm (later k from_)
    | none =>
      have given : (item.profile (ids next)).id = ids next := by simp [Item.profile, named]
      have new : seen.contains (ids next) = false := by simpa using later next (Nat.le_refl next)
      rw [profilesFrom, List.map_cons, repeated?, given, new, List.filterMap_cons_none named, named]
      change repeated? (ids next :: seen) ((profilesFrom ids (next + 1) rest).map Profile.id) = _
      refine ih (fun other apart => ?_) (fun k from_ => ?_) others
      · rw [← same other apart, List.mem_cons]
        exact or_iff_right (apart next)
      · have differ : ids k ≠ ids next := fun eq => Nat.ne_of_gt from_ (distinct eq)
        exact List.not_mem_cons_of_ne_of_not_mem differ (later k (Nat.le_of_succ_le from_))

theorem repeated?_profilesFrom {ids : Nat → String} (fresh : Fresh ids items) :
    repeated? [] ((profilesFrom ids 0 items).map Profile.id)
      = repeated? [] (items.filterMap (·.id)) :=
  repeated?_profilesFrom_of_seen fresh (fun _ _ => Iff.rfl) fun _ _ => List.not_mem_nil

/-- The profile of an item has a new id for each item before it that has none. -/
theorem profilesFrom_eq_mapIdx (ids : Nat → String) (next : Nat) (items : List Item) :
    profilesFrom ids next items
      = items.mapIdx fun k item => item.profile (ids (next + (items.take k).countP (·.id.isNone))) := by
  induction items generalizing next with
  | nil => rfl
  | cons item rest ih =>
    rw [profilesFrom, List.mapIdx_cons, ih]
    congr 1
    refine congrArg (List.mapIdx · rest) (funext fun k => ?_)
    cases named : item.id with
    | none => simp [named, Nat.add_assoc, Nat.add_comm]
    | some id => simp [named]

/-- Ids that are distinct and have not been seen are all scanned. -/
theorem repeated?_append {seen before : List String} (distinct : before.Nodup)
    (apart : ∀ id ∈ before, id ∉ seen) (after : List String) :
    repeated? seen (before ++ after) = repeated? (before.reverse ++ seen) after := by
  induction before generalizing seen with
  | nil => rfl
  | cons first rest ih =>
    obtain ⟨once, distinct⟩ := List.nodup_cons.mp distinct
    obtain ⟨fresh, apart⟩ := List.forall_mem_cons.mp apart
    have new : seen.contains first = false := by simpa using fresh
    have unseen : ∀ id ∈ rest, id ∉ first :: seen := fun id mem =>
      List.not_mem_cons_of_ne_of_not_mem (fun eq => once (eq ▸ mem)) (apart id mem)
    rw [List.cons_append, repeated?, new, List.reverse_cons, List.append_assoc]
    exact ih distinct unseen

/-- An id is the first one in a list of items that an item before it has already. -/
def FirstRepeat (items : List Item) (id : String) : Prop :=
  ∃ before item after, items = before ++ item :: after ∧ item.id = some id ∧
    (∃ other ∈ before, other.id = some id) ∧ (before.filterMap (·.id)).Nodup

/-- **The id that is named is the first one that has occurred before it.** -/
theorem repeated?_eq_some_iff {id : String} :
    repeated? [] (items.filterMap (·.id)) = some id ↔ FirstRepeat items id := by
  constructor
  · intro repeats
    obtain ⟨first, last, parts, distinct, -, occurs⟩ := repeated?_eq_some repeats
    obtain ⟨before, rest, rfl, rfl, others⟩ := List.filterMap_eq_append_iff.mp parts
    obtain ⟨unnamed, item, after, rfl, none, named, -⟩ := List.filterMap_eq_cons_iff.mp others
    have whole : (before ++ unnamed).filterMap (·.id) = before.filterMap (·.id) := by
      rw [List.filterMap_append, List.filterMap_eq_nil_iff.mpr none, List.append_nil]
    refine ⟨before ++ unnamed, item, after, by rw [List.append_assoc], named, ?_, whole ▸ distinct⟩
    obtain ⟨other, mem, same⟩ := List.mem_filterMap.mp (occurs.resolve_right List.not_mem_nil)
    exact ⟨other, List.mem_append_left unnamed mem, same⟩
  · rintro ⟨before, item, after, rfl, named, ⟨other, mem, same⟩, distinct⟩
    have occurs : id ∈ before.filterMap (·.id) := List.mem_filterMap.mpr ⟨other, mem, same⟩
    rw [List.filterMap_append, List.filterMap_cons_some named,
      repeated?_append distinct (fun _ _ => List.not_mem_nil), repeated?, if_pos (by simpa using occurs)]

/-! ## What becomes of a document -/

theorem read_of_unclaimed (ids : Nat → String) (unclaimed : ∀ v, ¬ClaimedBy octets v) :
    ∃ fault, read ids octets = .error (.malformed fault) := by
  cases claimed : readVersion (Json.read octets) with
  | error fault => exact ⟨fault, by simp only [read, claimed]⟩
  | ok v => exact absurd (readVersion_read_iff.mp claimed) (unclaimed v)

theorem read_of_other (ids : Nat → String) (claimed : ClaimedBy octets v) (other : v ≠ version) :
    read ids octets = .error (.unsupportedVersion v version) := by
  simp only [read, readVersion_read_iff.mpr claimed, if_pos other]

theorem read_of_unfit (ids : Nat → String) (claimed : ClaimedBy octets version)
    (unfit : ∀ items, ¬Decodes octets version items) :
    ∃ fault, read ids octets = .error (.malformed fault) := by
  cases content : readItems (Json.read octets) with
  | error fault =>
    refine ⟨fault, ?_⟩
    simp only [read, readVersion_read_iff.mpr claimed, content, ne_eq, not_true_eq_false, if_false]
  | ok pair =>
    have decodes : Decodes octets pair.1 pair.2 := readItems_read_iff.mp content
    exact absurd (decodes.version_eq claimed ▸ decodes) (unfit pair.2)

theorem read_of_decodes {ids : Nat → String} (fresh : Fresh ids items)
    (claimed : ClaimedBy octets version) (decodes : Decodes octets version items) :
    read ids octets =
      match repeated? [] (items.filterMap (·.id)) with
      | some id => .error (.duplicateId id)
      | none => .ok ⟨profilesFrom ids 0 items, items.countP (·.id.isNone)⟩ := by
  rw [← repeated?_profilesFrom fresh, read, readVersion_read_iff.mpr claimed,
    readItems_read_iff.mpr decodes]
  exact if_neg (not_not_intro rfl)

theorem repeated?_eq_none_of_nodup {ids : List String} (distinct : ids.Nodup) :
    repeated? [] ids = none :=
  repeated?_eq_none_iff.mpr ⟨distinct, fun _ _ => List.not_mem_nil⟩

/-- What there is to be said of a text: it claims no version, or another one; it claims the right one
and does not lay out items that are all read; or it does, and an id is repeated among them, or none. -/
inductive Verdict (ids : Nat → String) (octets : List UInt8) : Except Failure Loaded → Prop
  | unclaimed {fault : Fault InvalidQos} (unclaimed : ∀ v, ¬ClaimedBy octets v) :
      Verdict ids octets (.error (.malformed fault))
  | other {v : Nat} (claimed : ClaimedBy octets v) (other : v ≠ version) :
      Verdict ids octets (.error (.unsupportedVersion v version))
  | unfit {fault : Fault InvalidQos} (claimed : ClaimedBy octets version)
      (unfit : ∀ items, ¬Decodes octets version items) :
      Verdict ids octets (.error (.malformed fault))
  | duplicate {items : List Item} {id : String} (claimed : ClaimedBy octets version)
      (decodes : Decodes octets version items) (repeats : FirstRepeat items id) :
      Verdict ids octets (.error (.duplicateId id))
  | loaded {items : List Item} (claimed : ClaimedBy octets version)
      (decodes : Decodes octets version items) (distinct : (items.filterMap (·.id)).Nodup) :
      Verdict ids octets (.ok ⟨profilesFrom ids 0 items, items.countP (·.id.isNone)⟩)

/-- **Reading comes to the verdict.** -/
theorem verdict_of_read {ids : Nat → String}
    (fresh : ∀ items, Decodes octets version items → Fresh ids items) :
    Verdict ids octets (read ids octets) := by
  by_cases unclaimed : ∀ v, ¬ClaimedBy octets v
  · obtain ⟨fault, reads⟩ := read_of_unclaimed ids unclaimed
    exact reads ▸ .unclaimed unclaimed
  · obtain ⟨v, claimed⟩ := not_forall_not.mp unclaimed
    by_cases right : v = version
    · subst right
      by_cases unfit : ∀ items, ¬Decodes octets version items
      · obtain ⟨fault, reads⟩ := read_of_unfit ids claimed unfit
        exact reads ▸ .unfit claimed unfit
      · obtain ⟨items, decodes⟩ := not_forall_not.mp unfit
        rw [read_of_decodes (fresh items decodes) claimed decodes]
        split
        · rename_i id repeats
          exact .duplicate claimed decodes (repeated?_eq_some_iff.mp repeats)
        · rename_i once
          exact .loaded claimed decodes (repeated?_eq_none_iff.mp once).1
    · rw [read_of_other ids claimed right]
      exact .other claimed right

/-- A profile is one of an item, with the id of the item if it has one. -/
structure Item.Yields (item : Item) (p : Profile) : Prop where
  fields : p = item.profile p.id
  named : ∀ id ∈ item.id, p.id = id

/-- The profiles of items are one of each, in their order. -/
theorem profilesFrom_yields (ids : Nat → String) (next : Nat) (items : List Item) :
    List.Forall₂ Item.Yields items (profilesFrom ids next items) := by
  induction items generalizing next with
  | nil => exact .nil
  | cons item rest ih =>
    refine .cons ⟨?_, fun id named => ?_⟩ (ih _)
    · cases named : item.id <;> simp [Item.profile, named]
    · simp [Item.profile, Option.mem_def.mp named]

/-- **What becomes of a document.** The version that is checked and the one that is read with the items
are the same. A text is malformed if it claims no version, or claims the right one and does not lay out
items that are all read; any other version that is claimed is refused, whatever the items. Else the first
id that an item before has already is refused as a duplicate. If there is none the list is loaded: a
profile for each item in its place, with the id of the item if it has one and else the next new one. No
list is loaded in part, and no id is in it twice. -/
theorem read_verdict {ids : Nat → String}
    (fresh : ∀ items, Decodes octets version items → Fresh ids items) :
    (∀ v w items, ClaimedBy octets v → Decodes octets w items → w = v) ∧
    ((∃ fault, read ids octets = .error (.malformed fault)) ↔
      (∀ v, ¬ClaimedBy octets v) ∨
        ClaimedBy octets version ∧ ∀ items, ¬Decodes octets version items) ∧
    (∀ found supported, read ids octets = .error (.unsupportedVersion found supported) ↔
      ClaimedBy octets found ∧ found ≠ version ∧ supported = version) ∧
    (∀ id, read ids octets = .error (.duplicateId id) ↔
      ClaimedBy octets version ∧ ∃ items, Decodes octets version items ∧ FirstRepeat items id) ∧
    (∀ loaded, read ids octets = .ok loaded ↔
      ClaimedBy octets version ∧ ∃ items, Decodes octets version items ∧
        (items.filterMap (·.id)).Nodup ∧
        loaded.profiles = (items.mapIdx fun k item =>
          item.profile (ids ((items.take k).countP (·.id.isNone)))) ∧
        loaded.generated = items.countP (·.id.isNone)) ∧
    (∀ loaded, read ids octets = .ok loaded → (loaded.profiles.map Profile.id).Nodup ∧
      ∀ items, Decodes octets version items → List.Forall₂ Item.Yields items loaded.profiles) := by
  have verdict := verdict_of_read fresh
  have listed (items : List Item) := profilesFrom_eq_mapIdx ids 0 items
  simp only [Nat.zero_add] at listed
  refine ⟨fun v w items claimed decodes => decodes.version_eq claimed, ⟨?_, ?_⟩,
    fun found supported => ⟨fun reads => ?_, ?_⟩, fun id => ⟨fun reads => ?_, ?_⟩,
    fun loaded => ⟨fun reads => ?_, ?_⟩, fun loaded reads => ⟨read_distinct reads, ?_⟩⟩
  · -- a malformed text
    rintro ⟨fault, reads⟩
    rw [reads] at verdict
    cases verdict with
    | unclaimed unclaimed => exact .inl unclaimed
    | unfit claimed unfit => exact .inr ⟨claimed, unfit⟩
  · rintro (unclaimed | ⟨claimed, unfit⟩)
    · exact read_of_unclaimed ids unclaimed
    · exact read_of_unfit ids claimed unfit
  · -- another version
    rw [reads] at verdict
    cases verdict with
    | other claimed other => exact ⟨claimed, other, rfl⟩
  · rintro ⟨claimed, other, rfl⟩
    exact read_of_other ids claimed other
  · -- an id that occurs twice
    rw [reads] at verdict
    cases verdict with
    | duplicate claimed decodes repeats => exact ⟨claimed, _, decodes, repeats⟩
  · rintro ⟨claimed, items, decodes, repeats⟩
    rw [read_of_decodes (fresh items decodes) claimed decodes, repeated?_eq_some_iff.mpr repeats]
  · -- a list that is loaded
    rw [reads] at verdict
    cases verdict with
    | loaded claimed decodes distinct => exact ⟨claimed, _, decodes, distinct, listed _, rfl⟩
  · rintro ⟨claimed, items, decodes, distinct, profiles, generated⟩
    rw [read_of_decodes (fresh items decodes) claimed decodes, repeated?_eq_none_of_nodup distinct,
      listed, ← profiles, ← generated]
  · -- it is one profile for each item, whichever way the text is taken apart
    rw [reads] at verdict
    intro items decodes
    cases verdict with
    | loaded _ decodes' _ =>
      obtain ⟨-, rfl⟩ := decodes'.unique decodes
      exact profilesFrom_yields ids 0 items

/-- A document of a version with an item for each of some ids, of which a missing one is null. -/
def listing (version : Nat) (names : List (Option String)) : Json.Value :=
  .object [("items", .array (names.map fun name => .object [
      ("id", match name with | some name => .string name | none => .null),
      ("name", .string "local"), ("host", .string "localhost"), ("port", .natural 1883)])),
    ("version", .natural version)]

/-- Such a document as it is stored. -/
def listingOctets (version : Nat) (names : List (Option String)) : List UInt8 :=
  Utf8.encode (listing version names).pretty.toList

/-- The item of such a document. -/
def listingItem (name : Option String) : Item where
  id := name
  name := "local"
  clientId := ""
  protocol := .v311
  host := "localhost"
  port := 1883
  qos := .atMostOnce
  username := ""
  password := ""
  tls := false
  cleanSession := true
  description := none
  keepAlive := 0
  timeout := 0
  lastWill := none

/-- Such a document lays out such items. -/
theorem decodes_listing {v : Nat} {names : List (Option String)}
    (reads : readItems (treeOf (listing v names), true) = .ok (v, names.map listingItem)) :
    Decodes (listingOctets v names) v (names.map listingItem) := by
  refine readItems_read_iff.mp ?_
  rwa [listingOctets, read_written]

theorem claimedBy_listing {v : Nat} {names : List (Option String)}
    (reads : readVersion (treeOf (listing v names), true) = .ok v) :
    ClaimedBy (listingOctets v names) v := by
  refine readVersion_read_iff.mp ?_
  rwa [listingOctets, read_written]

/-- New ids of one letter only. -/
def strokes (k : Nat) : String := String.ofList (List.replicate (k + 1) 'x')

/-- They are new to items whose ids have another letter. -/
theorem fresh_strokes (v : Nat) (names : List (Option String))
    (reads : readItems (treeOf (listing v names), true) = .ok (v, names.map listingItem))
    (others : ∀ name ∈ names, ∀ id ∈ name, ∃ c ∈ id.toList, c ≠ 'x') :
    ∀ items, Decodes (listingOctets v names) version items → Fresh strokes items := by
  intro items decodes
  obtain ⟨-, rfl⟩ := (decodes_listing reads).unique decodes
  constructor
  · intro j k same
    simpa [strokes] using congrArg String.length same
  · intro item mem k named
    obtain ⟨name, listed, rfl⟩ := List.mem_map.mp mem
    obtain ⟨c, there, differ⟩ := others name listed _ named
    simp [strokes] at there
    exact differ there

/-- The ids of a document in which two are missing. -/
def partlyNew : List (Option String) := [none, some "p1", none]

/-- The ids of a document in which two occur twice. -/
def twiceTwice : List (Option String) := [some "p1", none, some "p2", some "p2", some "p1"]

/-- The first document gets two new ids, of the second one the first id that occurs again is named, and
of the third one the version, although an id occurs twice. -/
theorem read_verdict_listing :
    (∃ loaded, read strokes (listingOctets 1 partlyNew) = .ok loaded ∧
      loaded.profiles.map Profile.id = ["x", "p1", "xx"] ∧ loaded.generated = 2) ∧
    read strokes (listingOctets 1 twiceTwice) = .error (.duplicateId "p2") ∧
    read strokes (listingOctets 2 twiceTwice) = .error (.unsupportedVersion 2 1) := by
  refine ⟨?_, ?_, ?_⟩
  · have fresh := fresh_strokes 1 partlyNew rfl (by simp [partlyNew])
    obtain ⟨-, -, -, -, loads, -⟩ := read_verdict fresh
    have loaded := (loads ⟨_, _⟩).mpr
      ⟨claimedBy_listing rfl, _, decodes_listing rfl, by decide, rfl, rfl⟩
    exact ⟨_, loaded, by decide, rfl⟩
  · have fresh := fresh_strokes 1 twiceTwice rfl (by simp [twiceTwice])
    obtain ⟨-, -, -, duplicate, -⟩ := read_verdict fresh
    refine (duplicate _).mpr ⟨claimedBy_listing rfl, _, decodes_listing rfl, ?_⟩
    exact ⟨[some "p1", none, some "p2"].map listingItem, listingItem (some "p2"),
      [listingItem (some "p1")], rfl, rfl, ⟨listingItem (some "p2"), by simp, rfl⟩, by decide⟩
  · have fresh := fresh_strokes 2 twiceTwice rfl (by simp [twiceTwice])
    obtain ⟨-, -, other, -⟩ := read_verdict fresh
    exact (other _ _).mpr ⟨claimedBy_listing rfl, by decide, rfl⟩

end Document

end MqttSessions
