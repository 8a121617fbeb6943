import Mathlib.Data.List.Nodup
import MqttSessions.Subscriptions

/-! # What the operations on subscriptions keep

A topic filter is subscribed to at most once (**`Subscriptions.Distinct`**), and every operation keeps
it so. Adding puts a subscription at the end (**`Subscriptions.add?_eq_some_iff`**), removing takes
out what there is to a filter and leaves the rest in its order
(**`Subscriptions.entries_of_remove?`**), and a flag changes no filter and no quality of service
(**`Subscriptions.wanted_of_setEnabled?`**). -/

namespace MqttSessions

namespace Subscriptions

/-- No topic filter is subscribed to twice. -/
def Distinct (subs : Subscriptions) : Prop := (subs.toList.map (·.topic)).Nodup

/-- What the subscriptions ask of a broker. -/
def wanted (subs : Subscriptions) : List (String × Qos) :=
  subs.toList.map fun entry => (entry.topic, entry.qos)

theorem contains_eq_true_iff {subs : Subscriptions} {topic : String} :
    subs.contains topic = true ↔ topic ∈ subs.toList.map (·.topic) := by
  simp [contains, toList]

theorem distinct_empty : empty.Distinct := List.nodup_nil

/-! ## Adding -/

/-- A subscription is added at the end, if there is none to its filter. -/
theorem add?_eq_some_iff {subs added : Subscriptions} {topic : String} {qos : Qos} {color : String} :
    subs.add? topic qos color = some added ↔
      topic ∉ subs.toList.map (·.topic) ∧
        added = ⟨subs.entries ++ [⟨topic, qos, color, true⟩]⟩ := by
  rw [← contains_eq_true_iff]
  unfold add?
  split
  · rename_i present
    simp [present]
  · rename_i absent
    simp [absent, eq_comm]

/-- Adding a subscription keeps filters distinct. -/
theorem Distinct.add? {subs added : Subscriptions} (distinct : subs.Distinct) {topic : String}
    {qos : Qos} {color : String} (adds : subs.add? topic qos color = some added) :
    added.Distinct := by
  obtain ⟨absent, rfl⟩ := add?_eq_some_iff.mp adds
  have apart : (subs.toList.map (·.topic) ++ [topic]).Nodup :=
    List.Nodup.append distinct (List.nodup_singleton topic) (by simpa using absent)
  simpa [Distinct, toList] using apart

/-! ## Removing -/

/-- Erasing a topic filter leaves the rest in its order. -/
theorem eraseTopic_sublist (topic : String) (entries : List Subscription) :
    (eraseTopic topic entries).Sublist entries := by
  induction entries with
  | nil => exact .slnil
  | cons entry rest ih =>
      rw [eraseTopic]
      split
      · exact List.sublist_cons_self entry rest
      · exact ih.cons_cons entry

/-- Where no topic filter stands twice, erasing one leaves all others. -/
theorem eraseTopic_eq_filter (topic : String) (entries : List Subscription)
    (distinct : (entries.map (·.topic)).Nodup) :
    eraseTopic topic entries = entries.filter (·.topic != topic) := by
  induction entries with
  | nil => rfl
  | cons entry rest ih =>
      obtain ⟨fresh, restDistinct⟩ := List.nodup_cons.mp distinct
      by_cases same : entry.topic = topic
      · have others : ∀ other ∈ rest, (other.topic != topic) = true := by
          intro other mem
          rw [bne_iff_ne]
          intro equal
          exact fresh (List.mem_map.mpr ⟨other, mem, equal.trans same.symm⟩)
        rw [eraseTopic, if_pos (by simpa using same),
          List.filter_cons_of_neg (by simpa using same), List.filter_eq_self.mpr others]
      · rw [eraseTopic, if_neg (by simpa using same),
          List.filter_cons_of_pos (by simpa using same), ih restDistinct]

/-- Erasing a topic filter that stands somewhere takes out one subscription. -/
theorem length_eraseTopic {topic : String} {entries : List Subscription}
    (present : topic ∈ entries.map (·.topic)) :
    (eraseTopic topic entries).length + 1 = entries.length := by
  induction entries with
  | nil => cases present
  | cons entry rest ih =>
      by_cases same : entry.topic = topic
      · rw [eraseTopic, if_pos (by simpa using same), List.length_cons]
      · have inRest : topic ∈ rest.map (·.topic) :=
          (List.mem_cons.mp present).resolve_left (Ne.symm same)
        rw [eraseTopic, if_neg (by simpa using same), List.length_cons, List.length_cons,
          ih inRest]

/-- A topic filter at the end that stands nowhere else is erased without trace. -/
theorem eraseTopic_append_singleton (entry : Subscription) {entries : List Subscription}
    (absent : entry.topic ∉ entries.map (·.topic)) :
    eraseTopic entry.topic (entries ++ [entry]) = entries := by
  induction entries with
  | nil => simp [eraseTopic]
  | cons first rest ih =>
      rw [List.map_cons, List.mem_cons, not_or] at absent
      obtain ⟨other, absent⟩ := absent
      rw [List.cons_append, eraseTopic, if_neg (by simpa using Ne.symm other), ih absent]

/-- What removing a subscription leaves. -/
theorem remove?_eq_some {subs left : Subscriptions} {topic : String}
    (removes : subs.remove? topic = some left) : left = ⟨eraseTopic topic subs.entries⟩ := by
  unfold remove? at removes
  split at removes
  · exact (Option.some.inj removes).symm
  · contradiction

/-- Removing a subscription never leaves what there was. -/
theorem remove?_ne {subs left : Subscriptions} {topic : String}
    (removes : subs.remove? topic = some left) : left ≠ subs := by
  have erased := remove?_eq_some removes
  unfold remove? at removes
  split at removes
  · rename_i present
    rintro rfl
    have same : left.entries = eraseTopic topic left.entries := congrArg entries erased
    have shorter := length_eraseTopic (contains_eq_true_iff.mp present)
    rw [toList, ← same] at shorter
    exact absurd shorter (Nat.succ_ne_self _)
  · contradiction

/-- Removing a subscription leaves all others, in their order. -/
theorem entries_of_remove? {subs left : Subscriptions} (distinct : subs.Distinct) {topic : String}
    (removes : subs.remove? topic = some left) :
    left.toList = subs.toList.filter (·.topic != topic) := by
  rw [remove?_eq_some removes]
  exact eraseTopic_eq_filter topic subs.entries distinct

/-- Removing a subscription keeps filters distinct. -/
theorem Distinct.remove? {subs left : Subscriptions} (distinct : subs.Distinct) {topic : String}
    (removes : subs.remove? topic = some left) : left.Distinct := by
  rw [remove?_eq_some removes]
  exact distinct.sublist ((eraseTopic_sublist topic subs.entries).map _)

/-- Removing a subscription that has just been added gives the subscriptions from before. -/
theorem remove?_add? {subs added : Subscriptions} {topic : String} {qos : Qos} {color : String}
    (adds : subs.add? topic qos color = some added) : added.remove? topic = some subs := by
  obtain ⟨absent, rfl⟩ := add?_eq_some_iff.mp adds
  have erased : eraseTopic topic (subs.entries ++ [⟨topic, qos, color, true⟩]) = subs.entries :=
    eraseTopic_append_singleton ⟨topic, qos, color, true⟩ absent
  rw [remove?, if_pos (by simp [contains])]
  exact congrArg (fun entries => some (Subscriptions.mk entries)) erased

/-! ## Flags -/

/-- Setting a flag changes no topic filter and no quality of service. -/
theorem map_flagTopic {α : Type} (f : Subscription → α)
    (unflagged : ∀ entry enabled, f { entry with enabled } = f entry) (topic : String)
    (enabled : Bool) (entries : List Subscription) :
    (flagTopic topic enabled entries).map f = entries.map f := by
  induction entries with
  | nil => rfl
  | cons entry rest ih =>
      rw [flagTopic]
      split
      · rw [List.map_cons, List.map_cons, unflagged]
      · rw [List.map_cons, List.map_cons, ih]

/-- Setting a flag changes nothing that does not depend on flags. -/
theorem map_of_setEnabled? {α : Type} (f : Subscription → α)
    (unflagged : ∀ entry enabled, f { entry with enabled } = f entry) {subs flagged : Subscriptions}
    {topic : String} {enabled : Bool} (sets : subs.setEnabled? topic enabled = some flagged) :
    flagged.toList.map f = subs.toList.map f := by
  unfold setEnabled? at sets
  split at sets
  · obtain rfl := Option.some.inj sets
    exact map_flagTopic f unflagged topic enabled subs.entries
  · contradiction

/-- Setting a flag asks nothing new of a broker. -/
theorem wanted_of_setEnabled? {subs flagged : Subscriptions} {topic : String} {enabled : Bool}
    (sets : subs.setEnabled? topic enabled = some flagged) : flagged.wanted = subs.wanted :=
  map_of_setEnabled? _ (fun _ _ => rfl) sets

/-- Setting a flag keeps filters distinct. -/
theorem Distinct.setEnabled? {subs flagged : Subscriptions} (distinct : subs.Distinct)
    {topic : String} {enabled : Bool} (sets : subs.setEnabled? topic enabled = some flagged) :
    flagged.Distinct := by
  unfold Distinct at distinct ⊢
  rwa [map_of_setEnabled? _ (fun _ _ => rfl) sets]

end Subscriptions

end MqttSessions
