import MqttSessions.Proofs.Json.Scalars
import MqttSessions.Proofs.Text.Utf8

/-! # Reading values that were written

A value that is laid out over lines is read back as its tree (**`Json.read_written`**), which has no
fault in it (**`Json.isSound_treeOf`**). The reader stops where the text of the value ends, whatever
follows, as long as a number does not go on there; so the text of a list or an object is read item by
item. The fuel of the reader is never short, since a text has at least one character for each of its
parts. -/

namespace MqttSessions

namespace Json

/-! ## The tree of a value -/

mutual
/-- The tree that a value is read back as. -/
def treeOf : Value → Tree
  | .null => .null
  | .bool b => .bool b
  | .natural n => .natural n
  | .string s => .string (pieces s)
  | .array values => .array (itemsOf values)
  | .object fields => .object (membersOf fields)

/-- The elements that a list is read back as. -/
def itemsOf : List Value → Items
  | [] => .closed
  | value :: rest => .cons (treeOf value) (itemsOf rest)

/-- The members that an object is read back as. -/
def membersOf : List (String × Value) → Members
  | [] => .closed
  | (key, value) :: rest => .cons (pieces key) (treeOf value) (membersOf rest)
end

mutual
/-- The tree of a value has no fault in it. -/
theorem isSound_treeOf : (value : Value) → (treeOf value).isSound = true
  | .null | .bool _ | .natural _ | .string _ => rfl
  | .array values => isSound_itemsOf values
  | .object fields => isSound_membersOf fields

theorem isSound_itemsOf : (values : List Value) → (itemsOf values).isSound = true
  | [] => rfl
  | value :: rest => by
    rw [itemsOf, Items.isSound, isSound_treeOf value, isSound_itemsOf rest, Bool.and_self]

theorem isSound_membersOf : (fields : List (String × Value)) → (membersOf fields).isSound = true
  | [] => rfl
  | (_, value) :: rest => by
    rw [membersOf, Members.isSound, isSound_treeOf value, isSound_membersOf rest, Bool.and_self]
end

/-! ## White space -/

/-- White space stops at any other character. -/
theorem skipSpace_cons {c : Char} (other : c ∉ [' ', '\n', '\t', '\r']) (rest : Input) :
    skipSpace (some c :: rest) = some c :: rest := by
  simp only [List.mem_cons, List.not_mem_nil, or_false, not_or] at other
  obtain ⟨space, newline, tab, feed⟩ := other
  rw [skipSpace] <;> simp_all

/-- A new line is white space. -/
theorem skipSpace_newline (depth : Nat) (rest : Input) :
    skipSpace ((newline depth).map some ++ rest) = skipSpace rest := by
  have spaces : ∀ n, skipSpace ((List.replicate n ' ').map some ++ rest) = skipSpace rest := by
    intro n
    induction n with
    | zero => rfl
    | succ n ih => rw [List.replicate_succ, List.map_cons, List.cons_append, skipSpace, ih]
  rw [newline, List.map_cons, List.cons_append, skipSpace, spaces]

/-- A value may stand on a new line. -/
theorem readValue_newline (fuel depth : Nat) (rest : Input) :
    readValue fuel ((newline depth).map some ++ rest) = readValue fuel rest := by
  cases fuel with
  | zero => simp [readValue]
  | succ fuel => rw [readValue, skipSpace_newline, readValue]

/-- Elements may go on on a new line. -/
theorem readItems_newline (fuel depth : Nat) (rest : Input) :
    readItems fuel ((newline depth).map some ++ rest) = readItems fuel rest := by
  cases fuel with
  | zero => simp [readItems]
  | succ fuel => rw [readItems, readValue_newline, readItems]

/-- Members may go on on a new line. -/
theorem readMembers_newline (fuel depth : Nat) (rest : Input) :
    readMembers fuel ((newline depth).map some ++ rest) = readMembers fuel rest := by
  cases fuel with
  | zero => simp [readMembers]
  | succ fuel => rw [readMembers, skipSpace_newline, readMembers]

/-! ## Values -/

/-- Whether a value may start with a character: it is neither white space nor a closing bracket. -/
def isStart (c : Char) : Bool := !([' ', '\n', '\t', '\r', ']', '}'].contains c)

theorem isStart_of_isDigit {c : Char} (digit : isDigit c = true) : isStart c = true := by
  have apart (d : Char) (other : isDigit d = false) : c ≠ d := by
    rintro rfl
    simp [other] at digit
  simp [isStart, apart ' ' rfl, apart '\n' rfl, apart '\t' rfl, apart '\r' rfl, apart ']' rfl,
    apart '}' rfl]

/-- White space ends where a value starts. -/
theorem skipSpace_start {c : Char} (starts : isStart c = true) (rest : Input) :
    skipSpace (some c :: rest) = some c :: rest := by
  refine skipSpace_cons ?_ rest
  simp_all [isStart]

/-- The text of a value starts as a value may. -/
theorem writePretty_start (depth : Nat) (value : Value) :
    ∃ c rest, writePretty depth value = c :: rest ∧ isStart c = true := by
  cases value with
  | null => exact ⟨'n', _, rfl, rfl⟩
  | bool b =>
    cases b with
    | false => exact ⟨'f', _, rfl, rfl⟩
    | true => exact ⟨'t', _, rfl, rfl⟩
  | natural n =>
    rw [writePretty, Nat.toString_eq_ofList_toDigits, String.toList_ofList]
    cases digits : Nat.toDigits 10 n with
    | nil => exact absurd digits Nat.toDigits_ne_nil
    | cons c rest =>
      have digit : isDigit c = true := isDigit_of_mem_toDigits (n := n) (digits ▸ List.mem_cons_self)
      exact ⟨c, rest, rfl, isStart_of_isDigit digit⟩
  | string s => exact ⟨'"', _, rfl, rfl⟩
  | array values => cases values <;> exact ⟨'[', _, rfl, rfl⟩
  | object fields => cases fields <;> exact ⟨'{', _, rfl, rfl⟩

/-- A value that starts with a digit is a number. -/
theorem readValue_digit {c : Char} (digit : isDigit c = true) (fuel : Nat) (rest : Input) :
    readValue (fuel + 1) (some c :: rest) = readNumber (some c :: rest) := by
  rw [readValue, skipSpace_start (isStart_of_isDigit digit)]
  split
  case h_7 => rfl
  -- in every other case the reader has seen a character that is no digit
  all_goals
    rename_i eq
    obtain ⟨rfl, -⟩ : c = _ ∧ _ := by simpa using eq
    exact absurd digit (by decide)

/-- A word is read back. -/
theorem readWord_append (word : List Char) (value : Tree) (rest : Input) :
    readWord word value (word.map some ++ rest) = (value, some rest) := by
  have taken : word? word (word.map some ++ rest) = some rest := by
    induction word with
    | nil => rfl
    | cons c word ih => rw [List.map_cons, List.cons_append, word?, if_pos rfl, ih]
  rw [readWord, taken]

/-- A list is read from its first element on. -/
theorem readValue_array {c : Char} (starts : isStart c = true) (fuel depth : Nat) (rest : Input) :
    readValue (fuel + 1) (some '[' :: ((newline depth).map some ++ some c :: rest)) =
      match readItems fuel (some c :: rest) with
      | (items, left) => (.array items, left) := by
  rw [readValue, skipSpace_cons (by decide)]
  simp only [skipSpace_newline, skipSpace_start starts]
  split
  · -- the list would be closed at once, but no value starts with a closing bracket
    rename_i eq
    obtain ⟨rfl, -⟩ : c = _ ∧ _ := by simpa using eq
    exact absurd starts (by decide)
  · rfl

/-- An object is read from its first key on. -/
theorem readValue_object (fuel depth : Nat) (rest : Input) :
    readValue (fuel + 1) (some '{' :: ((newline depth).map some ++ some '"' :: rest)) =
      match readMembers fuel (some '"' :: rest) with
      | (members, left) => (.object members, left) := by
  rw [readValue, skipSpace_cons (by decide)]
  simp only [skipSpace_newline, skipSpace_cons (c := '"') (by decide)]
  rfl

/-- The last element of a list, and its end. -/
theorem readItems_last {fuel outer : Nat} {input rest : Input} {item : Tree}
    (read : readValue fuel input = (item, some ((newline outer).map some ++ some ']' :: rest))) :
    readItems (fuel + 1) input = (.cons item .closed, some rest) := by
  rw [readItems, read]
  simp only [skipSpace_newline, skipSpace_cons (c := ']') (by decide)]

/-- An element of a list that others follow. -/
theorem readItems_more {fuel : Nat} {input rest : Input} {item : Tree}
    (read : readValue fuel input = (item, some (some ',' :: rest))) :
    readItems (fuel + 1) input =
      match readItems fuel rest with
      | (items, left) => (.cons item items, left) := by
  rw [readItems, read]
  simp only [skipSpace_cons (c := ',') (by decide)]

/-- The last member of an object, and its end. -/
theorem readMembers_last {fuel outer : Nat} {key : String} {input rest : Input} {value : Tree}
    (read : readValue fuel (some ' ' :: input) =
      (value, some ((newline outer).map some ++ some '}' :: rest))) :
    readMembers (fuel + 1) ((writeString key).map some ++ some ':' :: some ' ' :: input) =
      (.cons (pieces key) value .closed, some rest) := by
  rw [writeString, List.map_append, List.map_cons, List.append_assoc, List.cons_append, readMembers,
    skipSpace_cons (by decide), List.map_singleton, List.singleton_append]
  simp only [readString_written, skipSpace_cons (c := ':') (by decide), read, skipSpace_newline,
    skipSpace_cons (c := '}') (by decide)]

/-- A member of an object that others follow. -/
theorem readMembers_more {fuel : Nat} {key : String} {input rest : Input} {value : Tree}
    (read : readValue fuel (some ' ' :: input) = (value, some (some ',' :: rest))) :
    readMembers (fuel + 1) ((writeString key).map some ++ some ':' :: some ' ' :: input) =
      match readMembers fuel rest with
      | (members, left) => (.cons (pieces key) value members, left) := by
  rw [writeString, List.map_append, List.map_cons, List.append_assoc, List.cons_append, readMembers,
    skipSpace_cons (by decide), List.map_singleton, List.singleton_append]
  simp only [readString_written, skipSpace_cons (c := ':') (by decide), read,
    skipSpace_cons (c := ',') (by decide)]

/-- A value may stand behind a blank. -/
theorem readValue_blank (fuel : Nat) (rest : Input) :
    readValue fuel (some ' ' :: rest) = readValue fuel rest := by
  cases fuel with
  | zero => simp [readValue]
  | succ fuel => rw [readValue, skipSpace, readValue]

/-- A string is a value. -/
theorem readValue_string (fuel : Nat) (s : String) (rest : Input) :
    readValue (fuel + 1) ((writeString s).map some ++ rest) = (.string (pieces s), some rest) := by
  rw [writeString, List.map_append, List.map_cons, List.append_assoc, List.cons_append, readValue,
    skipSpace_cons (by decide), List.map_singleton, List.singleton_append]
  simp only [readString_written]

/-- A natural number is a value. -/
theorem readValue_natural (fuel n : Nat) {rest : Input} (ends : NumberEnds rest) :
    readValue (fuel + 1) ((toString n).toList.map some ++ rest) = (.natural n, some rest) := by
  have number := readNumber_written n ends
  have digits : (toString n).toList = Nat.toDigits 10 n := by
    rw [Nat.toString_eq_ofList_toDigits, String.toList_ofList]
  rw [digits] at number ⊢
  cases eq : Nat.toDigits 10 n with
  | nil => exact absurd eq Nat.toDigits_ne_nil
  | cons c text =>
    have digit : isDigit c = true := isDigit_of_mem_toDigits (n := n) (eq ▸ List.mem_cons_self)
    rw [eq] at number
    exact (readValue_digit digit fuel _).trans number

/-- A number ends at a comma. -/
theorem numberEnds_comma (rest : Input) : NumberEnds (some ',' :: rest) :=
  numberEnds_cons rfl (by decide) (by decide) (by decide) rest

/-- A number ends with its line. -/
theorem numberEnds_newline (depth : Nat) (rest : Input) :
    NumberEnds ((newline depth).map some ++ rest) :=
  numberEnds_cons rfl (by decide) (by decide) (by decide) _

-- The recursion is on the fuel, as the reader's is: what is left of it is enough for a part of a value,
-- since the text of the part is shorter. What follows is arbitrary, so that a part may be read in its
-- place; only a number needs to know that it ends there.
mutual
/-- **A value is read back as its tree**, up to where its text ends. -/
theorem readValue_written (depth : Nat) : (value : Value) → (fuel : Nat) → (rest : Input) →
    (writePretty depth value).length ≤ fuel → NumberEnds rest →
    readValue fuel ((writePretty depth value).map some ++ rest) = (treeOf value, some rest)
  | value, 0, _, enough, _ => by
    obtain ⟨c, text, eq, -⟩ := writePretty_start depth value
    simp [eq] at enough
  | .null, fuel + 1, rest, _, _ => readWord_append "ull".toList .null rest
  | .bool true, fuel + 1, rest, _, _ => readWord_append "rue".toList (.bool true) rest
  | .bool false, fuel + 1, rest, _, _ => readWord_append "alse".toList (.bool false) rest
  | .natural n, fuel + 1, rest, _, ends => readValue_natural fuel n ends
  | .string s, fuel + 1, rest, _, _ => readValue_string fuel s rest
  | .array [], fuel + 1, rest, _, _ => rfl
  | .array (value :: values), fuel + 1, rest, enough, _ => by
    have room : (writePretty (depth + 1) value ++ writePrettyItems (depth + 1) values).length < fuel := by
      simp only [writePretty, List.length_cons, List.length_append] at enough ⊢
      omega
    have items := readItems_written (depth + 1) depth value values fuel rest room
    obtain ⟨c, text, eq, starts⟩ := writePretty_start (depth + 1) value
    simp only [writePretty, List.map_cons, List.map_append, List.append_assoc, List.cons_append,
      List.map_nil, List.nil_append]
    rw [eq, List.map_cons, List.cons_append] at items ⊢
    rw [readValue_array starts, items, treeOf]
  | .object [], fuel + 1, rest, _, _ => rfl
  | .object ((key, value) :: fields), fuel + 1, rest, enough, _ => by
    have room : (writeString key ++ writePretty (depth + 1) value ++
        writePrettyFields (depth + 1) fields).length < fuel := by
      simp only [writePretty, List.length_cons, List.length_append] at enough ⊢
      omega
    have members := readMembers_written (depth + 1) depth key value fields fuel rest room
    simp only [writePretty, List.map_cons, List.map_append, List.append_assoc, List.cons_append,
      List.map_nil, List.nil_append]
    rw [writeString, List.map_append, List.map_cons, List.append_assoc, List.cons_append]
      at members ⊢
    rw [readValue_object, members, treeOf]
termination_by structural _ fuel => fuel

/-- **The elements of a list are read back**, up to its closing bracket. -/
theorem readItems_written (depth outer : Nat) : (value : Value) → (values : List Value) →
    (fuel : Nat) → (rest : Input) →
    (writePretty depth value ++ writePrettyItems depth values).length < fuel →
    readItems fuel ((writePretty depth value).map some ++ ((writePrettyItems depth values).map some ++
      ((newline outer).map some ++ some ']' :: rest))) = (itemsOf (value :: values), some rest)
  | value, [], fuel + 1, rest, enough => by
    have read := readValue_written depth value fuel ((newline outer).map some ++ some ']' :: rest)
      (by simpa [writePrettyItems] using Nat.le_of_lt_succ enough) (numberEnds_newline outer _)
    exact readItems_last read
  | value, other :: values, fuel + 1, rest, enough => by
    simp only [writePrettyItems, List.length_cons, List.length_append] at enough
    have read := readValue_written depth value fuel
      (some ',' :: ((newline depth).map some ++ ((writePretty depth other).map some ++
        ((writePrettyItems depth values).map some ++ ((newline outer).map some ++ some ']' :: rest)))))
      (by omega) (numberEnds_comma _)
    have items := readItems_written depth outer other values fuel rest
      (by rw [List.length_append]; omega)
    simp only [writePrettyItems, List.map_cons, List.map_append, List.append_assoc, List.cons_append]
    rw [readItems_more read, readItems_newline, items, itemsOf]
    rfl
termination_by structural _ _ fuel => fuel

/-- **The members of an object are read back**, up to its closing brace. -/
theorem readMembers_written (depth outer : Nat) : (key : String) → (value : Value) →
    (fields : List (String × Value)) → (fuel : Nat) → (rest : Input) →
    (writeString key ++ writePretty depth value ++ writePrettyFields depth fields).length < fuel →
    readMembers fuel ((writeString key).map some ++ some ':' :: some ' ' ::
      ((writePretty depth value).map some ++ ((writePrettyFields depth fields).map some ++
        ((newline outer).map some ++ some '}' :: rest)))) =
      (membersOf ((key, value) :: fields), some rest)
  | key, value, [], fuel + 1, rest, enough => by
    simp only [writePrettyFields, List.length_append] at enough
    have read := readValue_written depth value fuel ((newline outer).map some ++ some '}' :: rest)
      (by omega) (numberEnds_newline outer _)
    exact readMembers_last ((readValue_blank fuel _).trans read)
  | key, value, (next, other) :: fields, fuel + 1, rest, enough => by
    simp only [writePrettyFields, List.length_cons, List.length_append] at enough
    have read := readValue_written depth value fuel
      (some ',' :: ((newline depth).map some ++ ((writeString next).map some ++ some ':' :: some ' ' ::
        ((writePretty depth other).map some ++ ((writePrettyFields depth fields).map some ++
          ((newline outer).map some ++ some '}' :: rest))))))
      (by omega) (numberEnds_comma _)
    have members := readMembers_written depth outer next other fields fuel rest
      (by simp only [List.length_append]; omega)
    simp only [writePrettyFields, List.map_cons, List.map_append, List.append_assoc, List.cons_append,
      List.nil_append]
    rw [readMembers_more ((readValue_blank fuel _).trans read), readMembers_newline, members, membersOf]
    rfl
termination_by structural _ _ _ fuel => fuel
end

/-- **The text of a value is read back as the tree of the value**, and nothing is left over. -/
theorem read_written (value : Value) :
    read (Utf8.encode value.pretty.toList) = (treeOf value, true) := by
  have value_ := readValue_written 0 value (2 * (writePretty 0 value).length + 2) [] (by omega)
    numberEnds_nil
  rw [List.append_nil] at value_
  rw [read, Utf8.units_encode, Value.pretty, String.toList_ofList]
  simp only [List.length_map, value_]
  rfl

end Json

end MqttSessions
