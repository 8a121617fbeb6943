import MqttSessions.Proofs.Lists
import MqttSessions.Topic

/-! # Valid topic names and filters

Whether a text is a valid topic filter is checked level by level. The rules are about characters: a `+`
stands alone between two separators or the ends of the text, and a `#` is the last character and has a
separator or nothing before it. A text whose wildcards keep to these rules is **`Topic.WellPlaced`**.

* **`Topic.levels_induction`**: a text is a level, or a level, a separator and another text;
* **`Topic.checkLevels_splitLevels`**: the levels of a text are in order exactly when its wildcards are
  well placed;
* **`Topic.valid_iff_wellPlaced`**: what makes a text a valid filter, and a valid name. -/

namespace MqttSessions

namespace Topic

/-! ## Texts and their levels -/

/-- The levels of a text are its parts between the separators. -/
theorem splitLevels_eq_splitOn (s : List Char) : splitLevels s = s.splitOn '/' := by
  induction s with
  | nil => rfl
  | cons c rest ih =>
    rw [List.splitOn_cons_eq_if_modifyHead, ← ih, splitLevels]
    by_cases slash : c = '/'
    · rw [if_pos slash, if_pos (beq_iff_eq.mpr slash)]
    · rw [if_neg slash, if_neg (beq_iff_eq.not.mpr slash)]
      -- the first level takes the character in front
      cases parts : splitLevels rest with
      | nil => exact absurd parts (splitLevels_ne_nil rest)
      | cons level levels => rfl

/-- The levels of two texts with a separator in between are those of the one and those of the other. -/
theorem splitLevels_append (before after : List Char) :
    splitLevels (before ++ '/' :: after) = splitLevels before ++ splitLevels after := by
  rw [splitLevels_eq_splitOn, splitLevels_eq_splitOn, splitLevels_eq_splitOn,
    List.splitOn_append_cons_self]

/-- A text without a separator is one level. -/
theorem splitLevels_of_notMem {level : List Char} (within : '/' ∉ level) :
    splitLevels level = [level] := by
  rw [splitLevels_eq_splitOn, List.splitOn_eq_singleton within]

/-- **A text is a level, or a level, a separator and another text.** -/
@[elab_as_elim]
theorem levels_induction {motive : List Char → Prop} (s : List Char)
    (single : ∀ level, '/' ∉ level → motive level)
    (more : ∀ level rest, '/' ∉ level → motive rest → motive (level ++ '/' :: rest)) : motive s := by
  by_cases slash : '/' ∈ s
  · obtain ⟨level, rest, parts, within⟩ := List.eq_append_cons_of_mem slash
    have shorter : rest.length < s.length := by
      rw [parts, List.length_append, List.length_cons]
      omega
    rw [parts]
    exact more level rest within (levels_induction rest single more)
  · exact single s slash
termination_by s.length

/-! ## Where a wildcard stands -/

/-- A level can begin behind a text that is empty or ends with a separator. -/
def Opens (before : List Char) : Prop := before = [] ∨ before.getLast? = some '/'

/-- A level can end in front of a text that is empty or begins with a separator. -/
def Closes (after : List Char) : Prop := after = [] ∨ after.head? = some '/'

/-- The wildcards of a text stand where they may: each `+` is a level of its own, and each `#` is the
last level. -/
structure WellPlaced (s : List Char) : Prop where
  anyOne : ∀ before after, s = before ++ '+' :: after → Opens before ∧ Closes after
  anyRest : ∀ before after, s = before ++ '#' :: after → Opens before ∧ after = []

/-- What is behind a separator is all that matters for where a level can begin. -/
theorem opens_append_slash {level before : List Char} :
    Opens (level ++ '/' :: before) ↔ Opens before := by
  cases before with
  | nil => simp [Opens]
  | cons c rest => simp [Opens]

/-- Within a level no other one begins. -/
theorem opens_of_notMem {before : List Char} (within : '/' ∉ before) : Opens before ↔ before = [] := by
  constructor
  · rintro (empty | last)
    · exact empty
    · exact absurd (List.mem_of_getLast? last) within
  · exact .inl

/-- Within a level no other one ends. -/
theorem closes_of_notMem {after : List Char} (within : '/' ∉ after) : Closes after ↔ after = [] := by
  constructor
  · rintro (empty | first)
    · exact empty
    · exact absurd (List.mem_of_head? first) within
  · exact .inl

/-- What is in front of a separator is all that matters for where a level can end. -/
theorem closes_append_slash {after rest : List Char} : Closes (after ++ '/' :: rest) ↔ Closes after := by
  cases after with
  | nil => simp [Closes]
  | cons c more => simp [Closes]

/-- The wildcards of one level are well placed when the level is a wildcard and nothing else. -/
theorem wellPlaced_of_notMem {level : List Char} (within : '/' ∉ level) :
    WellPlaced level ↔ ('#' ∈ level → level = anyRest) ∧ ('+' ∈ level → level = anyOne) := by
  constructor
  · intro placed
    constructor
    · intro mem
      obtain ⟨before, after, parts⟩ := List.append_of_mem mem
      obtain ⟨opens, rfl⟩ := placed.anyRest before after parts
      rw [parts] at within
      rw [parts, (opens_of_notMem (by simp_all)).mp opens]
      rfl
    · intro mem
      obtain ⟨before, after, parts⟩ := List.append_of_mem mem
      obtain ⟨opens, closes⟩ := placed.anyOne before after parts
      rw [parts] at within
      rw [parts, (opens_of_notMem (by simp_all)).mp opens, (closes_of_notMem (by simp_all)).mp closes]
      rfl
  · rintro ⟨rest, one⟩
    constructor
    · intro before after parts
      have alone := one (by simp [parts])
      rw [parts, anyOne, List.append_eq_singleton_iff] at alone
      rcases alone with ⟨rfl, same⟩ | ⟨-, same⟩
      · exact ⟨.inl rfl, .inl (List.cons.inj same).2⟩
      · cases same
    · intro before after parts
      have alone := rest (by simp [parts])
      rw [parts, anyRest, List.append_eq_singleton_iff] at alone
      rcases alone with ⟨rfl, same⟩ | ⟨-, same⟩
      · exact ⟨.inl rfl, (List.cons.inj same).2⟩
      · cases same

/-- The wildcards of a level that others follow are well placed when the level is `+` or has none. -/
theorem wellPlaced_append_slash {level rest : List Char} (within : '/' ∉ level) :
    WellPlaced (level ++ '/' :: rest) ↔
      '#' ∉ level ∧ ('+' ∈ level → level = anyOne) ∧ WellPlaced rest := by
  have one : '/' ≠ '+' := by decide
  have hash : '/' ≠ '#' := by decide
  constructor
  · intro placed
    refine ⟨?_, ?_, ?_, ?_⟩
    · -- a `#` in the level would have the separator behind it
      intro mem
      obtain ⟨before, mid, rfl⟩ := List.append_of_mem mem
      have last := (placed.anyRest before (mid ++ '/' :: rest) (by simp)).2
      simp at last
    · intro mem
      obtain ⟨before, mid, rfl⟩ := List.append_of_mem mem
      obtain ⟨opens, closes⟩ := placed.anyOne before (mid ++ '/' :: rest) (by simp)
      rw [closes_append_slash] at closes
      rw [(opens_of_notMem (by simp_all)).mp opens, (closes_of_notMem (by simp_all)).mp closes]
      rfl
    · intro before after parts
      have there := placed.anyOne (level ++ '/' :: before) after (by simp [parts])
      rwa [opens_append_slash] at there
    · intro before after parts
      have there := placed.anyRest (level ++ '/' :: before) after (by simp [parts])
      rwa [opens_append_slash] at there
  · rintro ⟨bare, alone, placed⟩
    constructor
    · intro before after parts
      rcases (append_cons_eq_append_cons one).mp parts with ⟨mid, rfl, rfl⟩ | ⟨mid, rfl, there⟩
      · -- the level is the `+`
        have single := alone (by simp)
        rw [anyOne, List.append_eq_singleton_iff] at single
        rcases single with ⟨rfl, same⟩ | ⟨-, same⟩
        · rw [closes_append_slash]
          exact ⟨.inl rfl, .inl (List.cons.inj same).2⟩
        · cases same
      · rw [opens_append_slash]
        exact placed.anyOne mid after there
    · intro before after parts
      rcases (append_cons_eq_append_cons hash).mp parts with ⟨mid, rfl, rfl⟩ | ⟨mid, rfl, there⟩
      · exact absurd (by simp) bare
      · rw [opens_append_slash]
        exact placed.anyRest mid after there

/-! ## What is checked -/

/-- What is checked of a level: a `#` is all of it and nothing follows, a `+` is all of it. -/
theorem checkLevels_cons {level : List Char} {rest : List (List Char)} :
    checkLevels (level :: rest) = .ok () ↔
      ('#' ∈ level → level = anyRest ∧ rest = []) ∧ ('+' ∈ level → level = anyOne) ∧
        checkLevels rest = .ok () := by
  have hash : (level.contains '#' && (level != anyRest || !rest.isEmpty)) = true ↔
      ¬('#' ∈ level → level = anyRest ∧ rest = []) := by
    simp [Classical.or_iff_not_imp_left]
  have plus : (level.contains '+' && level != anyOne) = true ↔ ¬('+' ∈ level → level = anyOne) := by
    simp
  rw [checkLevels]
  by_cases rests : '#' ∈ level → level = anyRest ∧ rest = []
  · rw [if_neg (hash.not.mpr (not_not.mpr rests))]
    by_cases ones : '+' ∈ level → level = anyOne
    · rw [if_neg (plus.not.mpr (not_not.mpr ones))]
      exact ⟨fun later => ⟨rests, ones, later⟩, fun all => all.2.2⟩
    · rw [if_pos (plus.mpr ones)]
      exact ⟨nofun, fun all => absurd all.2.1 ones⟩
  · rw [if_pos (hash.mpr rests)]
    exact ⟨nofun, fun all => absurd all.1 rests⟩

/-- **The levels of a text are in order exactly when its wildcards are well placed.** -/
theorem checkLevels_splitLevels (s : List Char) :
    checkLevels (splitLevels s) = .ok () ↔ WellPlaced s := by
  induction s using levels_induction with
  | single level within =>
    rw [splitLevels_of_notMem within, checkLevels_cons, wellPlaced_of_notMem within]
    simp [checkLevels]
  | more level rest within ih =>
    rw [splitLevels_append, splitLevels_of_notMem within, List.singleton_append, checkLevels_cons,
      wellPlaced_append_slash within, ih]
    simp [splitLevels_ne_nil]

/-- What is checked of names and filters alike. -/
theorem checkCommon_eq_ok_iff {s : String} :
    checkCommon s = .ok () ↔ s ≠ "" ∧ s.utf8ByteSize ≤ maxBytes ∧ '\x00' ∉ s.toList := by
  rw [checkCommon]
  by_cases empty : s = ""
  · simp [empty]
  · rw [if_neg (by simpa using empty)]
    by_cases short : s.utf8ByteSize ≤ maxBytes
    · rw [if_neg (Nat.not_lt.mpr short)]
      by_cases nul : '\x00' ∈ s.toList
      · simp [nul]
      · simp [nul, empty, short]
    · rw [if_pos (Nat.lt_of_not_le short)]
      exact ⟨nofun, fun all => absurd all.2.1 short⟩

/-- A filter is valid when it is what names and filters have to be and its wildcards are well placed. -/
theorem checkFilter_eq_ok_iff {s : String} :
    checkFilter s = .ok () ↔ checkCommon s = .ok () ∧ WellPlaced s.toList := by
  rw [checkFilter]
  cases checkCommon s with
  | error fault => simp
  | ok => simp [levels, checkLevels_splitLevels]

/-- A name is valid when it is what names and filters have to be and has no wildcard. -/
theorem checkName_eq_ok_iff {s : String} :
    checkName s = .ok () ↔ checkCommon s = .ok () ∧ '+' ∉ s.toList ∧ '#' ∉ s.toList := by
  rw [checkName]
  cases checkCommon s with
  | error fault => simp
  | ok =>
    have bare : s.toList.find? isWildcard = none ↔ '+' ∉ s.toList ∧ '#' ∉ s.toList := by
      rw [List.find?_eq_none]
      constructor
      · intro other
        exact ⟨fun mem => other _ mem rfl, fun mem => other _ mem rfl⟩
      · rintro ⟨one, hash⟩ c mem wild
        rw [isWildcard, Bool.or_eq_true, beq_iff_eq, beq_iff_eq] at wild
        rcases wild with rfl | rfl
        · exact one mem
        · exact hash mem
    cases found : s.toList.find? isWildcard with
    | none => simpa using bare.mp found
    | some wildcard => simpa [found] using bare

/-- Where there is no wildcard, every wildcard is well placed. -/
theorem wellPlaced_of_bare {s : List Char} (one : '+' ∉ s) (hash : '#' ∉ s) : WellPlaced s where
  anyOne before after parts := absurd (by simp [parts]) one
  anyRest before after parts := absurd (by simp [parts]) hash

/-- **What makes a text a valid filter, and a valid name.** A filter is a text that is not empty, takes
at most 65535 bytes in UTF-8 and has no NUL; each of its `+` stands at the start or right behind a
separator, and at the end or right in front of one; and each of its `#` is its last character, at the
start or right behind a separator. A name is a filter without `+` and `#`. -/
theorem valid_iff_wellPlaced (s : String) :
    (checkFilter s = .ok () ↔
      s ≠ "" ∧ s.utf8ByteSize ≤ 65535 ∧ '\x00' ∉ s.toList ∧
        (∀ before after, s.toList = before ++ '+' :: after →
          (before = [] ∨ before.getLast? = some '/') ∧ (after = [] ∨ after.head? = some '/')) ∧
        ∀ before after, s.toList = before ++ '#' :: after →
          after = [] ∧ (before = [] ∨ before.getLast? = some '/')) ∧
      (checkName s = .ok () ↔ checkFilter s = .ok () ∧ '+' ∉ s.toList ∧ '#' ∉ s.toList) := by
  constructor
  · rw [checkFilter_eq_ok_iff, checkCommon_eq_ok_iff, and_assoc, and_assoc]
    refine and_congr_right fun _ => and_congr_right fun _ => and_congr_right fun _ => ?_
    constructor
    · intro placed
      exact ⟨placed.anyOne, fun before after parts => (placed.anyRest before after parts).symm⟩
    · rintro ⟨one, rest⟩
      exact ⟨one, fun before after parts => (rest before after parts).symm⟩
  · rw [checkName_eq_ok_iff, checkFilter_eq_ok_iff]
    constructor
    · rintro ⟨common, one, hash⟩
      exact ⟨⟨common, wellPlaced_of_bare one hash⟩, one, hash⟩
    · rintro ⟨⟨common, -⟩, bare⟩
      exact ⟨common, bare⟩

end Topic

end MqttSessions
