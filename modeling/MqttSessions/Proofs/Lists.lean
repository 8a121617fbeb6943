import Mathlib.Data.List.Basic

/-! # Where a part of a list is

What is somewhere in two lists put together is in the one or in the other. Texts are taken apart in this
way at their separators and wildcards, and logs at what happens in them.

* **`append_eq_append_cons`**: a part of two lists put together;
* **`append_cons_eq_append_cons`** and **`append_singleton_eq_append_cons`**: the same with one element
  between the lists, or behind the first;
* **`append_cons_inj_of_first`**: an element is there for the first time in one place. -/

namespace MqttSessions

variable {α : Type}

/-- Where a part of two lists put together is. -/
theorem append_eq_append_cons {front back before after : List α} {a : α} :
    front ++ back = before ++ a :: after ↔
      (∃ mid, front = before ++ a :: mid ∧ after = mid ++ back) ∨
        ∃ mid, before = front ++ mid ∧ back = mid ++ a :: after := by
  rw [List.append_eq_append_iff]
  constructor
  · rintro (⟨mid, rfl, same⟩ | ⟨mid, rfl, same⟩)
    · exact .inr ⟨mid, rfl, same⟩
    · cases mid with
      | nil => exact .inr ⟨[], by simp, same.symm⟩
      | cons b mid =>
        obtain ⟨rfl, rfl⟩ := List.cons.inj same
        exact .inl ⟨mid, rfl, rfl⟩
  · rintro (⟨mid, rfl, rfl⟩ | ⟨mid, rfl, rfl⟩)
    · exact .inr ⟨a :: mid, rfl, rfl⟩
    · exact .inl ⟨mid, rfl, rfl⟩

/-- The same for another element that stands between the two lists. -/
theorem append_cons_eq_append_cons {front back before after : List α} {a b : α} (other : b ≠ a) :
    front ++ b :: back = before ++ a :: after ↔
      (∃ mid, front = before ++ a :: mid ∧ after = mid ++ b :: back) ∨
        ∃ mid, before = front ++ b :: mid ∧ back = mid ++ a :: after := by
  rw [append_eq_append_cons]
  refine or_congr_right ⟨?_, ?_⟩
  · rintro ⟨mid, rfl, same⟩
    cases mid with
    | nil => exact absurd (List.cons.inj same).1 other
    | cons c mid =>
      obtain ⟨rfl, rfl⟩ := List.cons.inj same
      exact ⟨mid, rfl, rfl⟩
  · rintro ⟨mid, rfl, rfl⟩
    exact ⟨b :: mid, rfl, rfl⟩

/-- What is in a list that is one longer was in it before, or is its last. -/
theorem append_singleton_eq_append_cons {list before after : List α} {last a : α} :
    list ++ [last] = before ++ a :: after ↔
      (∃ mid, list = before ++ a :: mid ∧ after = mid ++ [last]) ∨
        before = list ∧ a = last ∧ after = [] := by
  rw [append_eq_append_cons]
  refine or_congr_right ⟨?_, ?_⟩
  · rintro ⟨mid, rfl, same⟩
    cases mid with
    | nil =>
      obtain ⟨rfl, rfl⟩ := List.cons.inj same
      exact ⟨List.append_nil _, rfl, rfl⟩
    | cons b mid => simp at same
  · rintro ⟨rfl, rfl, rfl⟩
    exact ⟨[], (List.append_nil _).symm, rfl⟩

/-- An element has one place where it is in a list for the first time. -/
theorem append_cons_inj_of_first {front front' back back' : List α} {a : α} (without : a ∉ front)
    (without' : a ∉ front') (same : front ++ a :: back = front' ++ a :: back') :
    front = front' ∧ back = back' := by
  rcases append_eq_append_cons.mp same with ⟨mid, rfl, -⟩ | ⟨mid, rfl, rest⟩
  · exact absurd (by simp) without
  · cases mid with
    | nil => exact ⟨(List.append_nil _).symm, (List.cons.inj rest).2⟩
    | cons b mid =>
      obtain ⟨rfl, -⟩ := List.cons.inj rest
      exact absurd (by simp) without'

end MqttSessions
