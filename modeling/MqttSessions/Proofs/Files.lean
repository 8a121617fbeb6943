import Mathlib.Data.List.Basic
import MqttSessions.Files

/-! # What stays where it is when files change

What is at a path is **`Files.node?`**, and the octets of a file there are **`Files.octets?`**. A change of
one entry of a directory changes nothing beside that entry, and making directories on the way to a path
changes nothing at the path.

* **`Files.node?_atParent`**: a change that is made at the parent of a path is a change of that one
  directory;
* **`Files.node?_sibling`**: what is beside the entry stays;
* **`Files.node?_makeDirs`**: directories are made without a change at the path that they lead to;
* **`Files.octets?_write`** and **`Files.octets?_rename`**: what was written or renamed is found there. -/

namespace MqttSessions

namespace Files

variable {tree tree' : Tree} {name other : String}

/-- What is at a path: a file, a directory or nothing. -/
def node? (tree : Tree) (path : Path) : Option Node := (node tree path).toOption

/-- The octets of the file at a path, if there is a file. -/
def octets? (tree : Tree) (path : Path) : Option (List UInt8) := (read tree path).toOption

theorem octets?_eq (tree : Tree) (path : Path) :
    octets? tree path = (node? tree path).bind fun
      | .file octets => some octets
      | .directory _ => none := by
  rw [octets?, read, node?]
  cases node tree path with
  | error fault => rfl
  | ok node => cases node <;> rfl

theorem isThere_eq (tree : Tree) (path : Path) : isThere tree path = (node? tree path).isSome := by
  rw [isThere, node?]
  cases node tree path <;> rfl

theorem octets?_eq_some_iff {path : Path} {octets : List UInt8} :
    octets? tree path = some octets ↔ read tree path = .ok octets := by
  rw [octets?]
  cases read tree path <;> simp [Except.toOption]

/-- The first name of a path leads to an entry. -/
theorem node?_cons (tree : Tree) (name : String) (rest : Path) :
    node? tree (name :: rest) =
      if maxName < name.utf8ByteSize then none
      else (lookup? tree name).bind fun
        | .directory entries => node? entries rest
        | .file octets => if rest.isEmpty then some (.file octets) else none := by
  rw [node?, node]
  split
  · rfl
  · cases lookup? tree name with
    | none => rfl
    | some node =>
      cases node with
      | directory entries => rfl
      | file octets => by_cases last : rest.isEmpty <;> simp [last, Except.toOption]

/-- Nothing is in an empty directory. -/
theorem node?_empty {path : Path} (below : path ≠ []) : node? [] path = none := by
  cases path with
  | nil => exact absurd rfl below
  | cons name rest =>
    rw [node?_cons]
    exact ite_self none

/-! ## Entries -/

@[simp] theorem lookup?_setEntry_self (name : String) (node : Node) (tree : Tree) :
    lookup? (setEntry name node tree) name = some node := by
  induction tree with
  | nil => simp [setEntry, lookup?]
  | cons entry rest ih =>
    rw [setEntry]
    by_cases same : entry.1 = name
    · simp [same, lookup?]
    · simpa [same, lookup?] using ih

theorem lookup?_setEntry_of_ne (differ : other ≠ name) (node : Node) (tree : Tree) :
    lookup? (setEntry name node tree) other = lookup? tree other := by
  induction tree with
  | nil => simp [setEntry, lookup?, differ.symm]
  | cons entry rest ih =>
    rw [setEntry]
    by_cases same : entry.1 = name
    · simp [same, lookup?, differ.symm]
    · by_cases hit : entry.1 = other
      · simp [lookup?, hit, differ]
      · simpa [same, lookup?, hit] using ih

theorem lookup?_dropEntry_of_ne (differ : other ≠ name) (tree : Tree) :
    lookup? (dropEntry tree name) other = lookup? tree other := by
  rw [lookup?, dropEntry, List.find?_filter, lookup?]
  congr 2
  funext entry
  by_cases hit : entry.1 = other
  · simp [hit, differ]
  · simp [hit]

theorem lookup?_append_self (absent : lookup? tree name = none) (node : Node) :
    lookup? (tree ++ [(name, node)]) name = some node := by
  have nowhere : tree.find? (·.1 == name) = none := Option.map_eq_none_iff.mp absent
  simp [lookup?, nowhere]

/-- What is behind an entry does not depend on the other entries. -/
theorem node?_cons_congr (same : lookup? tree' name = lookup? tree name) (rest : Path) :
    node? tree' (name :: rest) = node? tree (name :: rest) := by
  rw [node?_cons, node?_cons, same]

/-! ## Changes of one directory -/

variable {change : Tree → String → Except Fault Tree} {dir : Path}

/-- **A change at the parent of a path is a change of one directory**: below it, one sees the change,
whose name is a possible one. -/
theorem node?_atParent (changes : atParent change tree (dir ++ [name]) = .ok tree') :
    ∃ entries entries', change entries name = .ok entries' ∧ name.utf8ByteSize ≤ maxName ∧
      (∀ rest, node? tree (dir ++ rest) = node? entries rest) ∧
      ∀ rest, node? tree' (dir ++ rest) = node? entries' rest := by
  induction dir generalizing tree tree' with
  | nil =>
    rw [List.nil_append, atParent] at changes
    split at changes
    · cases changes
    · split at changes
      · cases changes
      · rename_i short
        exact ⟨tree, tree', changes, Nat.le_of_not_lt short, fun _ => rfl, fun _ => rfl⟩
  | cons first dir ih =>
    rw [List.cons_append, atParent.eq_3 _ _ _ _ (by simp)] at changes
    split at changes
    · cases changes
    · rename_i short
      split at changes
      · cases changes
      · cases changes
      · rename_i below found
        split at changes
        · cases changes
        · rename_i below' changed
          cases changes
          obtain ⟨entries, entries', made, possible, before, after⟩ := ih changed
          refine ⟨entries, entries', made, possible, fun rest => ?_, fun rest => ?_⟩
          · rw [List.cons_append, node?_cons, if_neg short, found]
            exact before rest
          · rw [List.cons_append, node?_cons, if_neg short, lookup?_setEntry_self]
            exact after rest

/-- **What is beside the entry stays.** -/
theorem node?_sibling (changes : atParent change tree (dir ++ [name]) = .ok tree')
    (keeps : ∀ entries entries', change entries name = .ok entries' →
      lookup? entries' other = lookup? entries other) :
    node? tree' (dir ++ [other]) = node? tree (dir ++ [other]) := by
  obtain ⟨entries, entries', made, -, before, after⟩ := node?_atParent changes
  rw [before, after]
  exact node?_cons_congr (keeps entries entries' made) []

/-- Writing a file keeps what is beside it. -/
theorem node?_write_sibling {octets : List UInt8} (differ : other ≠ name)
    (writes : write tree (dir ++ [name]) octets = .ok tree') :
    node? tree' (dir ++ [other]) = node? tree (dir ++ [other]) := by
  refine node?_sibling writes fun entries entries' made => ?_
  split at made
  · cases made
  · cases made
    exact lookup?_setEntry_of_ne differ _ _

/-- Removing a file keeps what is beside it. -/
theorem node?_remove_sibling (differ : other ≠ name)
    (removes : remove tree (dir ++ [name]) = .ok tree') :
    node? tree' (dir ++ [other]) = node? tree (dir ++ [other]) := by
  refine node?_sibling removes fun entries entries' made => ?_
  split at made
  · cases made
  · cases made
  · cases made
    exact lookup?_dropEntry_of_ne differ _

/-- **What was written is found.** -/
theorem octets?_write {path : Path} {octets : List UInt8} (writes : write tree path octets = .ok tree') :
    octets? tree' path = some octets := by
  rcases path.eq_nil_or_concat with rfl | ⟨dir, name, rfl⟩
  · cases writes
  · rw [List.concat_eq_append] at writes ⊢
    obtain ⟨entries, entries', made, possible, -, after⟩ := node?_atParent writes
    rw [octets?_eq, after, node?_cons, if_neg (Nat.not_lt.mpr possible)]
    split at made
    · cases made
    · cases made
      rw [lookup?_setEntry_self]
      rfl

/-- **What was renamed is found** under its new path. -/
theorem octets?_rename {source target : Path} (renames : rename tree source target = .ok tree') :
    octets? tree' target = octets? tree source := by
  rw [rename] at renames
  split at renames
  · cases renames
  · rename_i octets found
    split at renames
    · cases renames
    · rw [octets?_write renames, octets?_eq_some_iff.mpr found]

/-! ## Directories on the way -/

/-- **Directories are made without a change below them.** -/
theorem node?_makeDirs (tree : Tree) (dir : Path) {rest : Path} (below : rest ≠ []) :
    node? (makeDirs tree dir).1 (dir ++ rest) = node? tree (dir ++ rest) := by
  induction dir generalizing tree with
  | nil => rfl
  | cons name dir ih =>
    rw [makeDirs]
    split
    · rfl
    · rename_i short
      rw [List.cons_append, node?_cons, node?_cons, if_neg short, if_neg short]
      split
      · rename_i octets found
        rw [found]
      · rename_i entries found
        rw [found, lookup?_setEntry_self]
        exact ih entries
      · rename_i absent
        -- the new directory holds what was made in an empty one, so nothing at the path
        rw [absent, lookup?_append_self absent]
        exact (ih []).trans (node?_empty (List.append_ne_nil_of_right_ne_nil dir below))

end Files

end MqttSessions
