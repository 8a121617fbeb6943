import Mathlib.Data.List.Basic
import MqttSessions.Feed

/-! # Reading a feed

A reader that has kept up with a feed gets exactly what has been announced since, as long as the feed
still keeps all of it (**`Feed.read_foldl_push`**). A reader that goes on step by step gets the items one
after the other (**`Feed.next?_eq_item`**), and what it misses is not kept any more
(**`Feed.next?_eq_missed`**). A feed keeps at least what was wanted of it (**`Feed.le_kept`**). -/

namespace MqttSessions

/-- The power of two that is found is not less than the number, if there is enough fuel for it: a power grows by
one at least when it is doubled. -/
theorem le_powerOfTwoFrom {n fuel power : Nat} (positive : 0 < power) (enough : n ≤ power + fuel) :
    n ≤ powerOfTwoFrom n fuel power := by
  induction fuel generalizing power with
  | zero => exact enough
  | succ fuel ih =>
    rw [powerOfTwoFrom]
    split
    · assumption
    · exact ih (by omega) (by omega)

namespace Feed

variable {α : Type}

/-- **A feed keeps at least as many items as were wanted.** -/
theorem le_kept (wanted : Nat) : wanted ≤ kept wanted :=
  le_powerOfTwoFrom Nat.zero_lt_one (Nat.le_add_left ..)

theorem toList_foldl_push (feed : Feed α) (items : List α) :
    (items.foldl push feed).toList = feed.toList ++ items := by
  induction items generalizing feed with
  | nil => simp
  | cons a rest ih => rw [List.foldl_cons, ih, toList_push, List.append_assoc, List.singleton_append]

theorem length_toList (feed : Feed α) : feed.toList.length = feed.position := by
  rw [toList, position, Array.length_toList]

theorem position_foldl_push (feed : Feed α) (items : List α) :
    (items.foldl push feed).position = feed.position + items.length := by
  rw [← length_toList, toList_foldl_push, List.length_append, length_toList]

/-- Nothing is missed by a reader that is not further behind than the feed keeps. -/
theorem unmissed_of_le {feed : Feed α} {position : Nat}
    (within : feed.position ≤ position + feed.capacity) (count : Nat) :
    .missed count ∉ feed.read position := by
  have kept : ¬position < feed.sent.size - feed.capacity := by
    have : feed.sent.size ≤ position + feed.capacity := within
    omega
  rw [read, if_neg kept]
  intro missed
  obtain ⟨a, -, same⟩ := List.mem_map.mp missed
  cases same

/-- A reader that has missed nothing gets all that has been announced since its last move. -/
theorem read_of_unmissed {feed : Feed α} {position : Nat}
    (unmissed : ∀ count, .missed count ∉ feed.read position) :
    feed.read position = (feed.toList.drop position).map .item := by
  rw [read] at unmissed ⊢
  split
  · rename_i behind
    rw [if_pos behind] at unmissed
    exact absurd List.mem_cons_self (unmissed _)
  · rfl

/-- **A reader that was up to date gets the items announced since**, if it has missed none. -/
theorem read_foldl_push {feed : Feed α} {items : List α}
    (unmissed : ∀ count, .missed count ∉ (items.foldl push feed).read feed.position) :
    (items.foldl push feed).read feed.position = items.map .item := by
  rw [read_of_unmissed unmissed, toList_foldl_push, ← length_toList, List.drop_left]

/-- An item that a reader gets next is the first one that it has not read. -/
theorem next?_eq_item {feed : Feed α} {position after : Nat} {a : α}
    (next : feed.next? position = some (.item a, after)) :
    after ≤ feed.position ∧ feed.toList.drop position = a :: feed.toList.drop after := by
  simp only [next?] at next
  split at next
  · cases next
  · obtain ⟨b, found, same⟩ := Option.map_eq_some_iff.mp next
    cases same
    obtain ⟨within, there⟩ := Array.getElem?_eq_some_iff.mp found
    refine ⟨within, ?_⟩
    rw [← there]
    exact List.drop_eq_getElem_cons (Nat.lt_of_lt_of_eq within (length_toList feed).symm)

/-- An item that a reader gets next is the one at its position. -/
theorem getElem?_of_next?_eq_item {feed : Feed α} {position after : Nat} {a : α}
    (next : feed.next? position = some (.item a, after)) :
    feed.toList[position]? = some a ∧ after = position + 1 := by
  simp only [next?] at next
  split at next
  · cases next
  · obtain ⟨b, found, same⟩ := Option.map_eq_some_iff.mp next
    cases same
    exact ⟨(Array.getElem?_toList ..).trans found, rfl⟩

/-- A reader that misses something goes on with the oldest item that is kept. -/
theorem next?_eq_missed {feed : Feed α} {position after count : Nat}
    (next : feed.next? position = some (.missed count, after)) :
    position < after ∧ after = feed.position - feed.capacity := by
  simp only [next?] at next
  split at next
  · rename_i behind
    cases next
    exact ⟨behind, rfl⟩
  · obtain ⟨a, -, same⟩ := Option.map_eq_some_iff.mp next
    cases same

/-- A reader gets nothing just if it has read everything. -/
theorem next?_eq_none_iff {feed : Feed α} {position : Nat} :
    feed.next? position = none ↔ feed.position ≤ position := by
  constructor
  · intro next
    simp only [next?] at next
    split at next
    · cases next
    · exact Array.getElem?_eq_none_iff.mp (Option.map_eq_none_iff.mp next)
  · intro all
    have kept : ¬position < feed.sent.size - feed.capacity :=
      Nat.not_lt_of_le (Nat.le_trans (Nat.sub_le ..) all)
    simp only [next?]
    rw [if_neg kept, Array.getElem?_eq_none all, Option.map_none]

end Feed

end MqttSessions
