import MqttSessions.Proofs.Topic.Grammar

/-! # Which names a filter accepts

A filter and a name are compared level by level. What that comes to is said about the texts as a whole:
an *instance* of a filter has some text without separators in the place of each `+`, and whatever there
is behind the text in front of `/#`.

* **`Topic.Filled`**: each `+` of a text is filled in, and all else is the same;
* **`Topic.IsInstance`**: the instances of a filter;
* **`Topic.acceptsLevels_iff_filled`** and **`Topic.acceptsLevels_iff_isInstance`**: the levels of a
  filter accept those of a text exactly when the text is an instance;
* **`Topic.accepts_iff_isInstance`**: so a filter accepts its instances, reserved names apart. -/

namespace MqttSessions

namespace Topic

/-! ## Instances -/

/-- Each `+` of a text is replaced by some text without separators, and all else is the same. -/
inductive Filled : List Char → List Char → Prop
  | nil : Filled [] []
  | same {c : Char} {pattern text : List Char} (other : c ≠ '+') (rest : Filled pattern text) :
      Filled (c :: pattern) (c :: text)
  | anyOne {run pattern text : List Char} (within : '/' ∉ run) (rest : Filled pattern text) :
      Filled ('+' :: pattern) (run ++ text)

/-- The instances of a filter. -/
inductive IsInstance : List Char → List Char → Prop
  /-- Of a filter without `#`: each `+` is replaced. -/
  | filled {filter text : List Char} (bare : '#' ∉ filter) (fills : Filled filter text) :
      IsInstance filter text
  /-- Of `#`: every text. -/
  | anything (text : List Char) : IsInstance ['#'] text
  /-- Of a filter with `/#` behind it: the instances of the filter itself. -/
  | parent {filter text : List Char} (is : IsInstance filter text) :
      IsInstance (filter ++ ['/', '#']) text
  /-- Of a filter with `/#` behind it: whatever has an instance of the filter and a separator in front. -/
  | under {filter text : List Char} (is : IsInstance filter text) (rest : List Char) :
      IsInstance (filter ++ ['/', '#']) (text ++ '/' :: rest)

/-! ## Filling in -/

/-- The parts of a text are filled in one by one. -/
theorem filled_append {front back text : List Char} :
    Filled (front ++ back) text ↔ ∃ u v, text = u ++ v ∧ Filled front u ∧ Filled back v := by
  induction front generalizing text with
  | nil =>
    constructor
    · intro fills
      exact ⟨[], text, rfl, .nil, fills⟩
    · rintro ⟨u, v, rfl, ⟨⟩, fills⟩
      exact fills
  | cons c front ih =>
    constructor
    · intro fills
      cases fills with
      | same other rest =>
        obtain ⟨u, v, rfl, first, second⟩ := ih.mp rest
        exact ⟨c :: u, v, rfl, .same other first, second⟩
      | anyOne within rest =>
        obtain ⟨u, v, rfl, first, second⟩ := ih.mp rest
        exact ⟨_ ++ u, v, (List.append_assoc _ _ _).symm, .anyOne within first, second⟩
    · rintro ⟨u, v, rfl, first, second⟩
      cases first with
      | same other rest => exact .same other (ih.mpr ⟨_, v, rfl, rest, second⟩)
      | anyOne within rest =>
        rw [List.append_assoc]
        exact .anyOne within (ih.mpr ⟨_, v, rfl, rest, second⟩)

/-- Where there is no `+` there is nothing to fill in. -/
theorem filled_iff_eq {pattern text : List Char} (plain : '+' ∉ pattern) :
    Filled pattern text ↔ text = pattern := by
  induction pattern generalizing text with
  | nil =>
    constructor
    · rintro ⟨⟩
      rfl
    · rintro rfl
      exact .nil
  | cons c pattern ih =>
    have other : c ≠ '+' := fun same => plain (same ▸ List.mem_cons_self)
    have later : '+' ∉ pattern := fun mem => plain (List.mem_cons_of_mem c mem)
    constructor
    · intro fills
      cases fills with
      | same _ rest => rw [(ih later).mp rest]
      | anyOne => exact absurd rfl other
    · rintro rfl
      exact .same other ((ih later).mpr rfl)

/-- A lone `+` can be any text without separators. -/
theorem filled_anyOne {text : List Char} : Filled anyOne text ↔ '/' ∉ text := by
  constructor
  · intro fills
    cases fills with
    | same other => exact absurd rfl other
    | anyOne within rest =>
      cases rest
      rwa [List.append_nil]
  · intro within
    rw [← List.append_nil text]
    exact .anyOne within .nil

/-- What one level can be filled in to. -/
theorem filled_level {level text : List Char} (alone : '+' ∈ level → level = anyOne) :
    Filled level text ↔ level = anyOne ∧ '/' ∉ text ∨ level ≠ anyOne ∧ text = level := by
  by_cases one : level = anyOne
  · rw [one, filled_anyOne]
    simp
  · rw [filled_iff_eq fun mem => one (alone mem)]
    simp [one]

/-- A level is filled in to a level. -/
theorem notMem_of_filled {level text : List Char} (within : '/' ∉ level)
    (alone : '+' ∈ level → level = anyOne) (fills : Filled level text) : '/' ∉ text := by
  rcases (filled_level alone).mp fills with ⟨-, bare⟩ | ⟨-, rfl⟩
  · exact bare
  · exact within

/-- A level and what follows it are filled in on either side of the separator. -/
theorem filled_append_slash {level rest text : List Char} :
    Filled (level ++ '/' :: rest) text ↔
      ∃ u v, text = u ++ '/' :: v ∧ Filled level u ∧ Filled rest v := by
  rw [filled_append]
  constructor
  · rintro ⟨u, v, rfl, first, second⟩
    cases second with
    | same other later => exact ⟨u, _, rfl, first, later⟩
  · rintro ⟨u, v, rfl, first, second⟩
    exact ⟨u, '/' :: v, rfl, first, .same (by decide) second⟩

/-! ## Level by level -/

/-- What a level of a filter that is not `#` accepts in the place of the first level of a name. -/
theorem acceptsLevels_cons {f n : List Char} {filter name : List (List Char)} (other : f ≠ anyRest) :
    acceptsLevels (f :: filter) (n :: name) = true ↔
      (f = anyOne ∨ f = n) ∧ acceptsLevels filter name = true := by
  rw [acceptsLevels, if_neg other]
  by_cases one : f = anyOne
  · simp [one]
  · simp [one]

/-- A level without separators can be filled in to a text without separators that it accepts. -/
theorem filled_level_iff {level text : List Char} (alone : '+' ∈ level → level = anyOne)
    (within : '/' ∉ text) : Filled level text ↔ level = anyOne ∨ level = text := by
  rw [filled_level alone]
  by_cases one : level = anyOne
  · simp [one, within]
  · simp [one, eq_comm]

/-- Some levels accept no levels at all only if the first of them is `#`. -/
theorem acceptsLevels_nil {filter : List (List Char)} (any : filter ≠ []) (bare : anyRest ∉ filter) :
    acceptsLevels filter [] = false := by
  cases filter with
  | nil => exact absurd rfl any
  | cons f filter =>
    rw [acceptsLevels]
    exact beq_eq_false_iff_ne.mpr fun same => bare (same ▸ List.mem_cons_self)

/-- Where a text has no `#`, no level of it is one. -/
theorem anyRest_notMem {filter : List Char} (bare : '#' ∉ filter) : anyRest ∉ splitLevels filter := by
  induction filter using levels_induction with
  | single level within =>
    rw [splitLevels_of_notMem within, List.mem_singleton]
    rintro rfl
    exact bare (by decide)
  | more level rest within ih =>
    rw [splitLevels_append, splitLevels_of_notMem within, List.singleton_append, List.mem_cons]
    rintro (rfl | mem)
    · exact bare (by simp [anyRest])
    · exact ih (fun mem => bare (by simp [mem])) mem

/-- **Without `#`, the levels of a filter accept those of a text exactly when the text has the filter
filled in.** -/
theorem acceptsLevels_iff_filled {filter : List Char} (placed : WellPlaced filter)
    (bare : '#' ∉ filter) (text : List Char) :
    acceptsLevels (splitLevels filter) (splitLevels text) = true ↔ Filled filter text := by
  induction filter using levels_induction generalizing text with
  | single level within =>
    have alone := ((wellPlaced_of_notMem within).mp placed).2
    have other : level ≠ anyRest := by
      rintro rfl
      exact bare (by decide)
    rw [splitLevels_of_notMem within]
    induction text using levels_induction with
    | single text single =>
      rw [splitLevels_of_notMem single, acceptsLevels_cons other, filled_level_iff alone single]
      simp [acceptsLevels]
    | more first rest single =>
      -- one level accepts no more than one, and is filled in to no more than one
      rw [splitLevels_append, splitLevels_of_notMem single, List.singleton_append,
        acceptsLevels_cons other]
      constructor
      · rintro ⟨-, none⟩
        cases more : splitLevels rest with
        | nil => exact absurd more (splitLevels_ne_nil rest)
        | cons n name =>
          rw [more, acceptsLevels] at none
          cases none
      · intro fills
        exact absurd (by simp) (notMem_of_filled within alone fills)
  | more level rest within ih =>
    obtain ⟨bareLevel, alone, later⟩ := (wellPlaced_append_slash within).mp placed
    have bareRest : '#' ∉ rest := fun mem => bare (by simp [mem])
    have other : level ≠ anyRest := by
      rintro rfl
      exact bareLevel (by decide)
    rw [splitLevels_append, splitLevels_of_notMem within, List.singleton_append, filled_append_slash]
    induction text using levels_induction with
    | single text single =>
      -- the levels that follow accept something, and there is nothing left
      rw [splitLevels_of_notMem single, acceptsLevels_cons other,
        acceptsLevels_nil (splitLevels_ne_nil rest) (anyRest_notMem bareRest)]
      constructor
      · rintro ⟨-, none⟩
        cases none
      · rintro ⟨u, v, rfl, -⟩
        exact absurd (by simp) single
    | more first after single =>
      rw [splitLevels_append, splitLevels_of_notMem single, List.singleton_append,
        acceptsLevels_cons other, ih later bareRest, ← filled_level_iff alone single]
      constructor
      · rintro ⟨first', after'⟩
        exact ⟨first, after, rfl, first', after'⟩
      · rintro ⟨u, v, parts, first', after'⟩
        have single' := notMem_of_filled within alone first'
        obtain ⟨rfl, rfl⟩ := append_cons_inj_of_first single single' parts
        exact ⟨first', after'⟩

/-! ## Whatever follows -/

/-- Levels with `#` behind them accept what they accept themselves and whatever follows it. -/
theorem acceptsLevels_append_anyRest {filter : List (List Char)} (bare : anyRest ∉ filter)
    (name : List (List Char)) :
    acceptsLevels (filter ++ [anyRest]) name = true ↔
      ∃ front back, name = front ++ back ∧ acceptsLevels filter front = true := by
  induction filter generalizing name with
  | nil =>
    constructor
    · intro _
      exact ⟨[], name, rfl, rfl⟩
    · intro _
      cases name <;> simp [acceptsLevels]
  | cons f filter ih =>
    have other : f ≠ anyRest := fun same => bare (same ▸ List.mem_cons_self)
    have later : anyRest ∉ filter := fun mem => bare (List.mem_cons_of_mem f mem)
    cases name with
    | nil =>
      rw [List.cons_append, acceptsLevels]
      constructor
      · intro same
        exact absurd (beq_iff_eq.mp same) other
      · rintro ⟨front, back, parts, accepted⟩
        obtain ⟨rfl, -⟩ := List.append_eq_nil_iff.mp parts.symm
        rwa [acceptsLevels] at accepted
    | cons n name =>
      rw [List.cons_append, acceptsLevels_cons other, ih later]
      constructor
      · rintro ⟨first, front, back, rfl, accepted⟩
        exact ⟨n :: front, back, rfl, (acceptsLevels_cons other).mpr ⟨first, accepted⟩⟩
      · rintro ⟨front, back, parts, accepted⟩
        cases front with
        | nil =>
          rw [acceptsLevels] at accepted
          exact absurd (beq_iff_eq.mp accepted) other
        | cons m front =>
          obtain ⟨rfl, rfl⟩ := List.cons.inj parts
          obtain ⟨first, accepted⟩ := (acceptsLevels_cons other).mp accepted
          exact ⟨first, front, back, rfl, accepted⟩

/-- Where the levels of a text are parted, the text has a separator. -/
theorem eq_append_slash_of_splitLevels {text : List Char} {front back : List (List Char)}
    (parts : splitLevels text = front ++ back) (first : front ≠ []) (second : back ≠ []) :
    ∃ u rest, text = u ++ '/' :: rest ∧ splitLevels u = front := by
  induction text using levels_induction generalizing front with
  | single level within =>
    rw [splitLevels_of_notMem within, List.singleton_eq_append_iff] at parts
    rcases parts with ⟨none, -⟩ | ⟨-, none⟩
    · exact absurd none first
    · exact absurd none second
  | more level rest within ih =>
    rw [splitLevels_append, splitLevels_of_notMem within, List.singleton_append] at parts
    cases front with
    | nil => exact absurd rfl first
    | cons f front =>
      obtain ⟨rfl, later⟩ := List.cons.inj parts
      by_cases last : front = []
      · exact ⟨level, rest, rfl, by rw [last, splitLevels_of_notMem within]⟩
      · obtain ⟨u, after, rfl, same⟩ := ih later last
        refine ⟨level ++ '/' :: u, after, by simp, ?_⟩
        rw [splitLevels_append, splitLevels_of_notMem within, same, List.singleton_append]

/-- A text with a well placed `#` is that alone, or has `/#` behind a text without it. -/
theorem cases_of_wellPlaced {filter : List Char} (placed : WellPlaced filter) (mem : '#' ∈ filter) :
    filter = ['#'] ∨ ∃ parent, filter = parent ++ ['/', '#'] ∧ '#' ∉ parent ∧ WellPlaced parent := by
  obtain ⟨before, after, parts⟩ := List.append_of_mem mem
  obtain ⟨opens, rfl⟩ := placed.anyRest before after parts
  rcases opens with rfl | last
  · exact .inl parts
  · right
    obtain ⟨parent, rfl⟩ := List.getLast?_eq_some_iff.mp last
    rw [List.append_assoc, List.singleton_append] at parts
    have bare : '#' ∉ parent := by
      intro inside
      obtain ⟨front, back, rfl⟩ := List.append_of_mem inside
      have none := (placed.anyRest front (back ++ ['/', '#']) (by simp [parts])).2
      simp at none
    refine ⟨parent, parts, bare, fun front back same => ?_, fun front back same => ?_⟩
    · have there := placed.anyOne front (back ++ '/' :: ['#']) (by simp [parts, same])
      rwa [closes_append_slash] at there
    · exact absurd (by simp [same]) bare

/-- The instances of a filter without `#` have it filled in. -/
theorem isInstance_iff_filled {filter text : List Char} (bare : '#' ∉ filter) :
    IsInstance filter text ↔ Filled filter text := by
  constructor
  · intro is
    cases is with
    | filled _ fills => exact fills
    | anything | parent | under => exact absurd (by simp) bare
  · exact .filled bare

/-- The instances of a filter with `/#` behind it. -/
theorem isInstance_append_anyRest {parent text : List Char} :
    IsInstance (parent ++ ['/', '#']) text ↔
      IsInstance parent text ∨ ∃ u rest, text = u ++ '/' :: rest ∧ IsInstance parent u := by
  constructor
  · intro is
    generalize same : parent ++ ['/', '#'] = filter at is
    cases is with
    | filled bare => exact absurd (by simp [← same]) bare
    | anything =>
      have longer := congrArg List.length same
      simp at longer
    | parent is =>
      obtain rfl := List.append_cancel_right same
      exact .inl is
    | under is rest =>
      obtain rfl := List.append_cancel_right same
      exact .inr ⟨_, rest, rfl, is⟩
  · rintro (is | ⟨u, rest, rfl, is⟩)
    · exact .parent is
    · exact .under is rest

/-- **The levels of a filter accept those of a text exactly when the text is an instance.** -/
theorem acceptsLevels_iff_isInstance {filter : List Char} (placed : WellPlaced filter)
    (text : List Char) :
    acceptsLevels (splitLevels filter) (splitLevels text) = true ↔ IsInstance filter text := by
  by_cases mem : '#' ∈ filter
  · have last : splitLevels ['#'] = [anyRest] := splitLevels_of_notMem (by decide)
    rcases cases_of_wellPlaced placed mem with rfl | ⟨parent, rfl, bare, placed⟩
    · have all : acceptsLevels (splitLevels ['#']) (splitLevels text) = true := by
        rw [last]
        cases splitLevels text <;> simp [acceptsLevels, anyRest]
      exact iff_of_true all (.anything text)
    · rw [splitLevels_append, last, isInstance_append_anyRest,
        acceptsLevels_append_anyRest (anyRest_notMem bare)]
      simp only [isInstance_iff_filled bare, ← acceptsLevels_iff_filled placed bare]
      constructor
      · rintro ⟨front, back, parts, accepted⟩
        by_cases none : back = []
        · rw [none, List.append_nil] at parts
          exact .inl (parts ▸ accepted)
        · -- the levels of the parent are some, so that they accept some
          have any : front ≠ [] := by
            rintro rfl
            rw [acceptsLevels_nil (splitLevels_ne_nil parent) (anyRest_notMem bare)] at accepted
            cases accepted
          obtain ⟨u, rest, same, levels⟩ := eq_append_slash_of_splitLevels parts any none
          exact .inr ⟨u, rest, same, levels ▸ accepted⟩
      · rintro (accepted | ⟨u, rest, rfl, accepted⟩)
        · exact ⟨_, [], (List.append_nil _).symm, accepted⟩
        · exact ⟨splitLevels u, splitLevels rest, splitLevels_append u rest, accepted⟩
  · rw [acceptsLevels_iff_filled placed mem, isInstance_iff_filled mem]

/-! ## Filters and names -/

/-- The filters that start with a wildcard. -/
theorem startsWild_iff {filter : String} :
    startsWild filter = true ↔ filter.toList.head? = some '+' ∨ filter.toList.head? = some '#' := by
  rw [startsWild]
  cases filter.toList.head? with
  | none => simp
  | some c => simp [isWildcard]

/-- A filter with its wildcards well placed accepts its instances, except that none which starts with a
wildcard accepts a reserved name. -/
theorem accepts_iff {filter name : String} (placed : WellPlaced filter.toList) :
    accepts filter name = true ↔
      ¬(name.toList.head? = some '$' ∧
          (filter.toList.head? = some '+' ∨ filter.toList.head? = some '#')) ∧
        IsInstance filter.toList name.toList := by
  rw [accepts, Bool.and_eq_true, levels, levels, acceptsLevels_iff_isInstance placed,
    Bool.not_eq_true', Bool.eq_false_iff, ne_eq, Bool.and_eq_true, startsWild_iff, isReserved,
    beq_iff_eq]

/-- A filter without wildcards accepts itself and nothing else. -/
theorem accepts_bare {filter name : String} (one : '+' ∉ filter.toList) (hash : '#' ∉ filter.toList) :
    accepts filter name = true ↔ name = filter := by
  rw [accepts_iff (wellPlaced_of_bare one hash), isInstance_iff_filled hash, filled_iff_eq one,
    String.toList_inj]
  constructor
  · rintro ⟨-, same⟩
    exact same
  · intro same
    refine ⟨?_, same⟩
    rintro ⟨-, wild | wild⟩
    · exact one (List.mem_of_head? wild)
    · exact hash (List.mem_of_head? wild)

/-- **A valid filter accepts a valid name exactly when the name is an instance of the filter, and is not
reserved where the filter starts with a wildcard.** So a filter without wildcards accepts the name equal
to it and no other, and every valid name is a valid filter that accepts itself. -/
theorem accepts_iff_isInstance {filter name : String} (filterValid : checkFilter filter = .ok ())
    (nameValid : checkName name = .ok ()) :
    (accepts filter name = true ↔
      ¬(name.toList.head? = some '$' ∧
          (filter.toList.head? = some '+' ∨ filter.toList.head? = some '#')) ∧
        IsInstance filter.toList name.toList) ∧
      ('+' ∉ filter.toList → '#' ∉ filter.toList → (accepts filter name = true ↔ name = filter)) ∧
      checkFilter name = .ok () ∧ accepts name name = true := by
  obtain ⟨common, one, hash⟩ := checkName_eq_ok_iff.mp nameValid
  have placed := (checkFilter_eq_ok_iff.mp filterValid).2
  refine ⟨accepts_iff placed, accepts_bare, ?_, ?_⟩
  · exact checkFilter_eq_ok_iff.mpr ⟨common, wellPlaced_of_bare one hash⟩
  · exact (accepts_bare one hash).mpr rfl

/-- A room's name can be empty: its lamp is still among all there is in the rooms. -/
theorem accepts_iff_isInstance_rooms :
    checkFilter "rooms/+/#" = .ok () ∧ checkName "rooms//lamp" = .ok () ∧
      IsInstance "rooms/+/#".toList "rooms//lamp".toList ∧ checkFilter "rooms//lamp" = .ok () := by
  have filterValid : checkFilter "rooms/+/#" = .ok () := by decide
  have nameValid : checkName "rooms//lamp" = .ok () := by decide
  obtain ⟨accepted, -, valid, -⟩ := accepts_iff_isInstance filterValid nameValid
  exact ⟨filterValid, nameValid, (accepted.mp (by decide)).2, valid⟩

end Topic

end MqttSessions
