import Mathlib.Data.List.Induction
import MqttSessions.Proofs.Subscriptions

/-! # Subscriptions are told by their history

Subscriptions are changed by **`Subscriptions.Edit`**s, each of which is accepted or refused. What a
sequence of edits leaves can be told from the edits alone: an entry for each addition of a filter that
was not subscribed to, unless it has been removed since, with the flag that was set last.

* **`Subscriptions.edit`** and **`Subscriptions.replay`**: the answer to an edit and the subscriptions
  after it, and the subscriptions after some edits;
* **`Edit.stands`** and **`Edit.standing`**: the filters and the entries that a history leaves, told without
  subscriptions;
* **`Edit.standing_append`**: what one more edit does to each entry that is there
  (**`Edit.update`**), and the entry that it adds;
* **`Subscriptions.told_by_history`**: subscriptions are what their history leaves, and every answer and
  every lookup is as they are. -/

namespace MqttSessions

namespace Subscriptions

/-- What may be asked of subscriptions. -/
inductive Edit where
  | add (topic : String) (qos : Qos) (color : String)
  | remove (topic : String)
  | setEnabled (topic : String) (enabled : Bool)
  deriving DecidableEq, Repr

/-- The subscriptions after an edit, `none` if it is refused. -/
def edit? (subs : Subscriptions) : Edit → Option Subscriptions
  | .add topic qos color => subs.add? topic qos color
  | .remove topic => subs.remove? topic
  | .setEnabled topic enabled => subs.setEnabled? topic enabled

/-- The answer to an edit, and the subscriptions after it. -/
def edit (subs : Subscriptions) (e : Edit) : Bool × Subscriptions :=
  ((subs.edit? e).isSome, (subs.edit? e).getD subs)

/-- The subscriptions after some edits. -/
def replay (edits : List Edit) : Subscriptions := edits.foldl (fun subs e => (subs.edit e).2) empty

theorem replay_append (edits : List Edit) (last : Edit) :
    replay (edits ++ [last]) = ((replay edits).edit last).2 := by
  rw [replay, List.foldl_append]
  rfl

/-! ## What a history leaves -/

namespace Edit

/-- Whether a filter is subscribed to after an edit, given whether it was before. -/
def keeps (topic : String) (before : Bool) : Edit → Bool
  | .add other _ _ => before || other == topic
  | .remove other => before && other != topic
  | .setEnabled _ _ => before

/-- Whether a filter is subscribed to after some edits: it has been added, and has not been removed
since. -/
def stands (topic : String) (edits : List Edit) : Bool := edits.foldl (keeps topic) false

/-- The flag of a filter after an edit, given the flag before. -/
def flag (topic : String) (before : Bool) : Edit → Bool
  | .setEnabled other enabled => if other = topic then enabled else before
  | _ => before

/-- The entry that an edit leaves, given the edits before and after it. Only adding a filter that does
not stand leaves one, unless the filter is removed afterwards; its flag is the last one that is set
afterwards. -/
def leaves? (before : List Edit) (e : Edit) (after : List Edit) : Option Subscription :=
  match e with
  | .add topic qos color =>
    if stands topic before = true ∨ .remove topic ∈ after then none
    else some ⟨topic, qos, color, after.foldl (flag topic) true⟩
  | _ => none

/-- The entries that edits leave, in the order in which they were added, given the edits before. -/
def standing (before : List Edit) : List Edit → List Subscription
  | [] => []
  | e :: after => (leaves? before e after).toList ++ standing (before ++ [e]) after

theorem stands_append (topic : String) (edits : List Edit) (last : Edit) :
    stands topic (edits ++ [last]) = last.keeps topic (stands topic edits) := by
  rw [stands, List.foldl_append]
  rfl

/-- What an edit does to an entry that is there: `none` if it is removed. -/
def update : Edit → Subscription → Option Subscription
  | .add _ _ _, entry => some entry
  | .remove topic, entry => if entry.topic = topic then none else some entry
  | .setEnabled topic enabled, entry =>
    some (if entry.topic = topic then { entry with enabled } else entry)

/-- An entry that is updated keeps its filter. -/
theorem topic_of_update {e : Edit} {entry updated : Subscription} (updates : e.update entry = some updated) :
    updated.topic = entry.topic := by
  cases e with
  | add topic qos color => rw [Option.some.inj updates]
  | remove topic =>
    obtain ⟨-, kept⟩ := Option.ite_none_left_eq_some.mp updates
    rw [Option.some.inj kept]
  | setEnabled topic enabled =>
    rw [← Option.some.inj updates]
    split <;> rfl

/-- Only removing its filter takes an entry out. -/
theorem update_eq_none_iff {e : Edit} {entry : Subscription} :
    e.update entry = none ↔ e = .remove entry.topic := by
  cases e <;> simp [update, eq_comm]

/-- What an edit does to the entry that another one has left. -/
theorem leaves?_append (before : List Edit) (e : Edit) (after : List Edit) (last : Edit) :
    leaves? before e (after ++ [last]) = (leaves? before e after).bind last.update := by
  cases e with
  | remove | setEnabled => rfl
  | add topic qos color =>
    by_cases gone : stands topic before = true ∨ .remove topic ∈ after
    · have stays : stands topic before = true ∨ .remove topic ∈ after ++ [last] :=
        gone.imp_right fun removed => List.mem_append_left _ removed
      rw [leaves?, leaves?, if_pos gone, if_pos stays, Option.bind_none]
    · rw [leaves?, leaves?, if_neg gone, Option.bind_some]
      cases last with
      | add other _ _ =>
        rw [if_neg (by simpa using gone), List.foldl_append]
        rfl
      | remove other =>
        by_cases same : topic = other
        · rw [if_pos (.inr (by simp [same])), update, if_pos same]
        · rw [if_neg (by simpa [same] using gone), update, if_neg same, List.foldl_append]
          rfl
      | setEnabled other enabled =>
        rw [if_neg (by simpa using gone), List.foldl_append]
        by_cases same : topic = other
        · simp [update, flag, same]
        · simp [update, flag, same, Ne.symm same]

/-- **What one more edit does**: it updates each entry that is there, and may add one at the end. -/
theorem standing_append (before edits : List Edit) (last : Edit) :
    standing before (edits ++ [last]) =
      (standing before edits).filterMap last.update ++ (leaves? (before ++ edits) last []).toList := by
  induction edits generalizing before with
  | nil => simp [standing]
  | cons e after ih =>
    have first : ((leaves? before e after).bind last.update).toList =
        (leaves? before e after).toList.filterMap last.update := by
      cases leaves? before e after with
      | none => rfl
      | some entry => cases updated : last.update entry <;> simp [updated]
    rw [List.cons_append, standing, standing, leaves?_append, ih, first, List.filterMap_append,
      List.append_assoc, List.append_assoc, List.singleton_append]

end Edit

/-! ## What an edit does to subscriptions -/

/-- Removing a filter takes out its entries and leaves all others. -/
theorem filterMap_remove (topic : String) (entries : List Subscription) :
    entries.filterMap (Edit.update (.remove topic)) = entries.filter (·.topic != topic) := by
  rw [← List.filterMap_eq_filter]
  refine List.filterMap_congr fun entry _ => ?_
  by_cases same : entry.topic = topic <;> simp [Edit.update, Option.guard, same]

/-- Where no filter stands twice, setting a flag sets that of each entry with the filter. -/
theorem flagTopic_eq_map {topic : String} {enabled : Bool} {entries : List Subscription}
    (distinct : (entries.map (·.topic)).Nodup) :
    flagTopic topic enabled entries =
      entries.map fun entry => if entry.topic = topic then { entry with enabled } else entry := by
  induction entries with
  | nil => rfl
  | cons entry rest ih =>
    obtain ⟨fresh, restDistinct⟩ := List.nodup_cons.mp distinct
    by_cases same : entry.topic = topic
    · have others : ∀ other ∈ rest,
          (if other.topic = topic then { other with enabled } else other) = other := by
        intro other mem
        refine if_neg fun equal => fresh ?_
        exact List.mem_map.mpr ⟨other, mem, equal.trans same.symm⟩
      rw [flagTopic, if_pos (by simpa using same), List.map_cons, if_pos same,
        List.map_congr_left others, List.map_id']
    · rw [flagTopic, if_neg (by simpa using same), List.map_cons, if_neg same, ih restDistinct]

/-- An edit of a filter that is not there updates nothing. -/
theorem filterMap_update_of_absent {e : Edit} {topic : String} {entries : List Subscription}
    (about : e = .remove topic ∨ ∃ enabled, e = .setEnabled topic enabled)
    (absent : topic ∉ entries.map (·.topic)) : entries.filterMap e.update = entries := by
  have untouched : ∀ entry ∈ entries, e.update entry = some entry := by
    intro entry mem
    have other : entry.topic ≠ topic := fun same => absent (List.mem_map.mpr ⟨entry, mem, same⟩)
    rcases about with rfl | ⟨enabled, rfl⟩ <;> simp [Edit.update, other]
  rw [List.filterMap_congr untouched, List.filterMap_some]

/-- The entry that an edit adds to subscriptions. -/
def opened? (subs : Subscriptions) : Edit → Option Subscription
  | .add topic qos color => if subs.contains topic then none else some ⟨topic, qos, color, true⟩
  | _ => none

/-- **What an edit does to subscriptions**, whether it is accepted or not: it updates each entry that is
there, and may add one at the end. -/
theorem toList_edit {subs : Subscriptions} (distinct : subs.Distinct) (e : Edit) :
    (subs.edit e).2.toList = subs.toList.filterMap e.update ++ (subs.opened? e).toList := by
  cases e with
  | add topic qos color =>
    rw [show Edit.update (.add topic qos color) = some from rfl, List.filterMap_some]
    by_cases present : subs.contains topic = true
    · simp [edit, edit?, add?, opened?, present]
    · simp [edit, edit?, add?, opened?, present, toList]
  | remove topic =>
    by_cases present : subs.contains topic = true
    · simp only [edit, edit?, remove?, if_pos present, Option.getD_some, opened?, Option.toList_none,
        List.append_nil]
      rw [filterMap_remove]
      exact eraseTopic_eq_filter topic subs.entries distinct
    · rw [filterMap_update_of_absent (.inl rfl) (by rwa [← contains_eq_true_iff])]
      simp [edit, edit?, remove?, opened?, present]
  | setEnabled topic enabled =>
    by_cases present : subs.contains topic = true
    · simp only [edit, edit?, setEnabled?, if_pos present, Option.getD_some, opened?,
        Option.toList_none, List.append_nil]
      rw [show Edit.update (.setEnabled topic enabled) = some ∘ _ from rfl, List.filterMap_eq_map]
      exact flagTopic_eq_map distinct
    · rw [filterMap_update_of_absent (.inr ⟨enabled, rfl⟩) (by rwa [← contains_eq_true_iff])]
      simp [edit, edit?, setEnabled?, opened?, present]

/-- Every edit keeps filters distinct. -/
theorem Distinct.edit {subs : Subscriptions} (distinct : subs.Distinct) (e : Edit) :
    (subs.edit e).2.Distinct := by
  unfold Subscriptions.edit
  cases accepted : subs.edit? e with
  | none => exact distinct
  | some after =>
    cases e with
    | add topic qos color => exact distinct.add? accepted
    | remove topic => exact distinct.remove? accepted
    | setEnabled topic enabled => exact distinct.setEnabled? accepted

/-- Which filters an edit leaves among the entries that are there: all but the one that it removes. -/
theorem mem_topics_update {e : Edit} {topic : String} {entries : List Subscription} :
    topic ∈ (entries.filterMap e.update).map (·.topic) ↔
      topic ∈ entries.map (·.topic) ∧ e ≠ .remove topic := by
  simp only [List.mem_map, List.mem_filterMap]
  constructor
  · rintro ⟨updated, ⟨entry, mem, updates⟩, rfl⟩
    refine ⟨⟨entry, mem, (Edit.topic_of_update updates).symm⟩, fun removes => ?_⟩
    rw [Edit.topic_of_update updates] at removes
    rw [Edit.update_eq_none_iff.mpr removes] at updates
    cases updates
  · rintro ⟨⟨entry, mem, rfl⟩, kept⟩
    cases updates : e.update entry with
    | none => exact absurd (Edit.update_eq_none_iff.mp updates) kept
    | some updated => exact ⟨updated, ⟨entry, mem, updates⟩, Edit.topic_of_update updates⟩

/-- Which filters are subscribed to after an edit. -/
theorem contains_edit {subs : Subscriptions} (distinct : subs.Distinct) (topic : String) (e : Edit) :
    (subs.edit e).2.contains topic = e.keeps topic (subs.contains topic) := by
  rw [Bool.eq_iff_iff, contains_eq_true_iff, toList_edit distinct, List.map_append, List.mem_append,
    mem_topics_update, ← contains_eq_true_iff]
  cases e with
  | add other qos color =>
    by_cases present : subs.contains other = true
    · -- the filter that is there already may be the one in question
      have there : other = topic → subs.contains topic = true := fun same => same ▸ present
      simpa [opened?, present, Edit.keeps] using there
    · simp [opened?, present, Edit.keeps, @eq_comm _ topic other]
  | remove other => simp [opened?, Edit.keeps]
  | setEnabled other enabled => simp [opened?, Edit.keeps]

/-- Subscriptions are what their history leaves. -/
theorem listed_replay (edits : List Edit) :
    (replay edits).toList = Edit.standing [] edits ∧ (replay edits).Distinct ∧
      ∀ topic, (replay edits).contains topic = Edit.stands topic edits := by
  induction edits using List.reverseRecOn with
  | nil => exact ⟨rfl, distinct_empty, fun _ => rfl⟩
  | append_singleton edits last ih =>
    obtain ⟨listed, distinct, contained⟩ := ih
    have opened : (replay edits).opened? last = Edit.leaves? edits last [] := by
      cases last <;> simp [opened?, Edit.leaves?, contained]
    rw [replay_append]
    refine ⟨?_, distinct.edit last, fun topic => ?_⟩
    · rw [toList_edit distinct, Edit.standing_append, listed, opened, List.nil_append]
    · rw [contains_edit distinct, contained, Edit.stands_append]

/-! ## Answers and lookups -/

/-- Whether an entry gives a topic name its color: it is shown, and its filter accepts the name. -/
def Colors (name : String) (entry : Subscription) : Prop :=
  entry.enabled = true ∧ Topic.accepts entry.topic name = true

/-- Subscriptions show some entries: they list them, each filter once, and every answer and every lookup
is as the entries are. -/
structure Shows (subs : Subscriptions) (entries : List Subscription) : Prop where
  listed : subs.toList = entries
  distinct : (entries.map (·.topic)).Nodup
  adds (topic : String) (qos : Qos) (color : String) :
    (subs.edit (.add topic qos color)).1 = true ↔ topic ∉ entries.map (·.topic)
  removes (topic : String) :
    (subs.edit (.remove topic)).1 = true ↔ topic ∈ entries.map (·.topic)
  flags (topic : String) (enabled : Bool) :
    (subs.edit (.setEnabled topic enabled)).1 = true ↔ topic ∈ entries.map (·.topic)
  refused (e : Edit) : (subs.edit e).1 = false → (subs.edit e).2 = subs
  contained (topic : String) : subs.contains topic = true ↔ topic ∈ entries.map (·.topic)
  found (topic : String) (entry : Subscription) :
    subs.get? topic = some entry ↔ entry ∈ entries ∧ entry.topic = topic
  absent (topic : String) : subs.get? topic = none ↔ topic ∉ entries.map (·.topic)
  colored (name color : String) :
    subs.color? name = some color ↔
      ∃ front entry back, entries = front ++ entry :: back ∧ Colors name entry ∧
        entry.color = color ∧ ∀ earlier ∈ front, ¬Colors name earlier
  uncolored (name : String) : subs.color? name = none ↔ ∀ entry ∈ entries, ¬Colors name entry

/-- An entry is found under its filter, and no other one is. -/
theorem get?_eq_some_iff {subs : Subscriptions} (distinct : subs.Distinct) {topic : String}
    {entry : Subscription} :
    subs.get? topic = some entry ↔ entry ∈ subs.toList ∧ entry.topic = topic := by
  constructor
  · intro found
    exact ⟨List.mem_of_find?_eq_some found, by simpa using List.find?_some found⟩
  · rintro ⟨mem, rfl⟩
    cases found : subs.get? entry.topic with
    | none => exact absurd (List.find?_eq_none.mp found entry mem) (by simp)
    | some other =>
      have same : other.topic = entry.topic := by simpa using List.find?_some found
      have there : other ∈ subs.toList := List.mem_of_find?_eq_some found
      exact congrArg some (List.inj_on_of_nodup_map distinct there mem same)

/-- The color of a name is that of the first entry that gives it one. -/
theorem color?_eq_some_iff {subs : Subscriptions} {name color : String} :
    subs.color? name = some color ↔
      ∃ front entry back, subs.toList = front ++ entry :: back ∧ Colors name entry ∧
        entry.color = color ∧ ∀ earlier ∈ front, ¬Colors name earlier := by
  rw [color?, Option.map_eq_some_iff]
  constructor
  · rintro ⟨entry, found, rfl⟩
    obtain ⟨colors, front, back, split, earlier⟩ := List.find?_eq_some_iff_append.mp found
    refine ⟨front, entry, back, split, by simpa [Colors] using colors, rfl, fun other mem both => ?_⟩
    simpa [both.1, both.2] using earlier other mem
  · rintro ⟨front, entry, back, split, colors, rfl, earlier⟩
    refine ⟨entry, List.find?_eq_some_iff_append.mpr ⟨?_, front, back, split, fun other mem => ?_⟩, rfl⟩
    · simpa [Colors] using colors
    · simpa [Colors, Decidable.imp_iff_not_or] using earlier other mem

/-- A filter can be added just if it is not there. -/
theorem edit_add (subs : Subscriptions) (topic : String) (qos : Qos) (color : String) :
    (subs.edit (.add topic qos color)).1 = !subs.contains topic := by
  cases present : subs.contains topic <;> simp [edit, edit?, add?, present]

/-- A filter can be removed just if it is there. -/
theorem edit_remove (subs : Subscriptions) (topic : String) :
    (subs.edit (.remove topic)).1 = subs.contains topic := by
  cases present : subs.contains topic <;> simp [edit, edit?, remove?, present]

/-- The flag of a filter can be set just if it is there. -/
theorem edit_setEnabled (subs : Subscriptions) (topic : String) (enabled : Bool) :
    (subs.edit (.setEnabled topic enabled)).1 = subs.contains topic := by
  cases present : subs.contains topic <;> simp [edit, edit?, setEnabled?, present]

/-- A refused edit changes nothing. -/
theorem edit_of_refused {subs : Subscriptions} {e : Edit} (refused : (subs.edit e).1 = false) :
    (subs.edit e).2 = subs := by
  have none : subs.edit? e = none := by simpa [edit] using refused
  rw [edit, none, Option.getD_none]

/-- Subscriptions without doubles show what they list. -/
theorem Distinct.shows {subs : Subscriptions} (distinct : subs.Distinct) : subs.Shows subs.toList where
  listed := rfl
  distinct := distinct
  adds topic qos color := by rw [edit_add, ← contains_eq_true_iff, Bool.not_eq_true', Bool.not_eq_true]
  removes topic := by rw [edit_remove, contains_eq_true_iff]
  flags topic enabled := by rw [edit_setEnabled, contains_eq_true_iff]
  refused e no := edit_of_refused no
  contained topic := contains_eq_true_iff
  found topic entry := get?_eq_some_iff distinct
  absent topic := by simp [get?, toList, List.find?_eq_none]
  colored name color := color?_eq_some_iff
  uncolored name := by simp [color?, toList, Colors, List.find?_eq_none]

/-- **Subscriptions are told by their history.** After any edits they show what these leave, told without
subscriptions: an entry for each addition of a filter that did not stand and has not been removed since,
in the order of the additions, with the quality of service and the color that it was added with and the
flag that was set last. A filter that is removed and added again goes to the end. -/
theorem told_by_history (edits : List Edit) :
    (replay edits).Shows (Edit.standing [] edits) ∧
      ∀ topic qos color,
        (replay (edits ++ [.remove topic, .add topic qos color])).toList =
          (Edit.standing [] edits).filter (·.topic != topic) ++ [⟨topic, qos, color, true⟩] := by
  obtain ⟨listed, distinct, contained⟩ := listed_replay edits
  refine ⟨listed ▸ distinct.shows, fun topic qos color => ?_⟩
  have gone : ((replay edits).edit (.remove topic)).2.contains topic = false := by
    simp [contains_edit distinct, Edit.keeps]
  rw [List.append_cons, replay_append, replay_append, toList_edit (distinct.edit _), toList_edit distinct,
    listed, filterMap_remove]
  simp [opened?, gone, show Edit.update (.add topic qos color) = some from rfl]

/-- A filter that is added while it stands is refused, and one that comes back is the last. -/
example :
    (replay [.add "c" .atMostOnce "", .add "a" .atMostOnce "", .add "c" .exactlyOnce "red",
      .setEnabled "c" false, .add "b" .atMostOnce "", .remove "a", .add "a" .atLeastOnce ""]).toList =
      [⟨"c", .atMostOnce, "", false⟩, ⟨"b", .atMostOnce, "", true⟩, ⟨"a", .atLeastOnce, "", true⟩] := by
  decide

end Subscriptions

end MqttSessions
