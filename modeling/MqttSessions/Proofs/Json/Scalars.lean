import MqttSessions.Json.Reader
import MqttSessions.Json.Value

/-! # Reading strings and numbers that were written

What the reader makes of a string or a number as it is written.

* **`Json.readString_written`**: a string is read back as its pieces, one for each character;
* **`Json.text?_pieces`**: these pieces make up the string again;
* **`Json.readNumber_written`**: a natural number is read back from its digits, if what follows does
  not go on as a number (**`Json.NumberEnds`**). -/

namespace MqttSessions

namespace Json

/-! ## Strings -/

/-- The piece of a string that a character is read back as: most controls below the space are written
by their numbers. -/
def piece (c : Char) : Piece :=
  if c.toNat < 0x20 ∧ c.toNat ∉ [8, 9, 10, 12, 13] then .escaped c.toNat else .char c

/-- The pieces that a string is read back as. -/
def pieces (s : String) : List Piece := s.toList.map piece

/-- The digits of a control are read back as its number. -/
theorem unit?_controlDigits :
    ∀ n < 0x20, unit? '0' '0' (Nat.digitChar (n / 16 % 16)) (Nat.digitChar (n % 16)) = some n := by
  decide

/-- A character that is not escaped is read back as itself. -/
theorem readString_plain {c : Char} (quote : c ≠ '"') (backslash : c ≠ '\\') (printed : ¬c.toNat < 0x20)
    (rest : Input) :
    readString (some c :: rest) =
      (readString rest).map fun (pieces, left) => (.char c :: pieces, left) := by
  rw [readString]
  · rw [if_neg printed]
  all_goals intros; simp_all

/-- **A character is read back as its piece.** -/
theorem readString_escapeChar (c : Char) (rest : Input) :
    readString ((escapeChar c).map some ++ rest) =
      (readString rest).map fun (pieces, left) => (piece c :: pieces, left) := by
  have number : Char.ofNat c.toNat = c := Char.ofNat_toNat c
  by_cases quote : c = '"'
  · subst quote
    rfl
  by_cases backslash : c = '\\'
  · subst backslash
    rfl
  by_cases lettered : c.toNat ∈ [8, 9, 10, 12, 13]
  · -- a control that has a letter of its own
    rw [← number]
    simp only [List.mem_cons, List.not_mem_nil, or_false] at lettered
    rcases lettered with eq | eq | eq | eq | eq <;> (rw [eq]; rfl)
  have others := lettered
  simp only [List.mem_cons, List.not_mem_nil, or_false, not_or] at others
  obtain ⟨eight, nine, ten, twelve, thirteen⟩ := others
  rw [escapeChar, if_neg quote, if_neg backslash, if_neg eight, if_neg nine, if_neg ten,
    if_neg twelve, if_neg thirteen]
  split
  · -- any other control
    rename_i control
    have escaped : piece c = .escaped c.toNat := if_pos ⟨control, lettered⟩
    rw [escaped]
    simp only [controlDigits, List.cons_append, List.nil_append, List.map_cons, List.map_nil]
    rw [readString, unit?_controlDigits _ control]
  · rename_i printed
    have plain : piece c = .char c := if_neg fun escaped => printed escaped.1
    rw [plain]
    exact readString_plain quote backslash printed rest

/-- **A string is read back as its pieces**, up to its closing quote. -/
theorem readString_written (s : String) (rest : Input) :
    readString ((s.toList.flatMap escapeChar).map some ++ some '"' :: rest) =
      some (pieces s, rest) := by
  rw [pieces]
  induction s.toList with
  | nil => rfl
  | cons c chars ih =>
      rw [List.flatMap_cons, List.map_append, List.append_assoc, readString_escapeChar, ih,
        Option.map_some, List.map_cons]

/-- An escaped unit that is no half of a pair stands for a character of its own. -/
theorem chars?_escaped {unit : Nat} (small : unit < 0x20) (rest : List Piece) :
    chars? (.escaped unit :: rest) = (chars? rest).map (Char.ofNat unit :: ·) := by
  have high : isHighHalf unit = false := by simp [isHighHalf]; omega
  have low : isLowHalf unit = false := by simp [isLowHalf]; omega
  cases rest with
  | nil => simp [chars?, high, low]
  | cons next rest => cases next <;> simp [chars?, high, low]

/-- A piece stands for the character that it was made from. -/
theorem chars?_piece (c : Char) (rest : List Piece) :
    chars? (piece c :: rest) = (chars? rest).map (c :: ·) := by
  rw [piece]
  split
  · rename_i escaped
    rw [chars?_escaped escaped.1, Char.ofNat_toNat]
  · rw [chars?]

/-- **The pieces of a string make it up.** -/
@[simp] theorem text?_pieces (s : String) : text? (pieces s) = some s := by
  have chars : chars? (pieces s) = some s.toList := by
    rw [pieces]
    induction s.toList with
    | nil => rfl
    | cons c rest ih => rw [List.map_cons, chars?_piece, ih, Option.map_some]
  rw [text?, chars, Option.map_some, String.ofList_toList]

/-! ## Numbers -/

/-- What follows does not go on as a number. -/
def NumberEnds (rest : Input) : Prop :=
  ∀ c, rest.head? = some (some c) → isDigit c = false ∧ c ≠ '.' ∧ c ≠ 'e' ∧ c ≠ 'E'

theorem numberEnds_nil : NumberEnds [] := nofun

theorem numberEnds_cons {c : Char} (digit : isDigit c = false) (point : c ≠ '.') (lower : c ≠ 'e')
    (upper : c ≠ 'E') (rest : Input) : NumberEnds (some c :: rest) := by
  rintro _ ⟨⟩
  exact ⟨digit, point, lower, upper⟩

/-- Digits are taken up to where the number ends. -/
theorem takeDigits_append {digits : List Char} (all : ∀ c ∈ digits, isDigit c = true) {rest : Input}
    (ends : NumberEnds rest) : takeDigits (digits.map some ++ rest) = (digits, rest) := by
  induction digits with
  | nil =>
      cases rest with
      | nil => rfl
      | cons unit rest =>
        cases unit with
        | none => rfl
        | some c => simp [takeDigits, (ends c rfl).1]
  | cons c digits ih =>
      have tail := ih fun other mem => all other (List.mem_cons_of_mem c mem)
      simp [takeDigits, all c List.mem_cons_self, tail]

/-- A number that ends has no fraction. -/
theorem readFraction_of_ends {rest : Input} (ends : NumberEnds rest) :
    readFraction rest = some ([], rest) := by
  unfold readFraction
  split
  · exact absurd rfl (ends '.' rfl).2.1
  · rfl

/-- A number that ends has no exponent. -/
theorem readExponent_of_ends {rest : Input} (ends : NumberEnds rest) :
    readExponent rest = some ([], rest) := by
  unfold readExponent
  split
  · rename_i c rest
    obtain ⟨-, -, lower, upper⟩ := ends c rfl
    simp [lower, upper]
  · rfl

/-- The digits of a number. -/
theorem isDigit_of_mem_toDigits {n : Nat} {c : Char} (mem : c ∈ Nat.toDigits 10 n) :
    isDigit c = true := by
  have digit : c.isDigit = true := Nat.isDigit_of_mem_toDigits (by decide) (by decide) mem
  simpa [isDigit, Char.isDigit, Char.le_def] using digit

/-- The digits of a number other than zero do not start with a zero. -/
theorem toDigits_head {n : Nat} (positive : 0 < n) :
    ∃ c rest, Nat.toDigits 10 n = c :: rest ∧ c ≠ '0' := by
  induction n using Nat.strongRecOn with
  | ind n ih =>
      by_cases small : n < 10
      · have digit : ∀ n < 10, 0 < n → Nat.digitChar n ≠ '0' := by decide
        exact ⟨_, [], Nat.toDigits_of_lt_base small, digit n small positive⟩
      · obtain ⟨c, rest, eq, other⟩ := ih (n / 10) (by omega) (by omega)
        rw [Nat.toDigits_of_base_le (by decide) (Nat.not_lt.mp small), eq]
        exact ⟨c, _, rfl, other⟩

/-- The digits of a number are a whole part. -/
theorem isWholePart_toDigits (n : Nat) : isWholePart (Nat.toDigits 10 n) = true := by
  cases n with
  | zero => rfl
  | succ n =>
    obtain ⟨c, rest, eq, other⟩ := toDigits_head (Nat.succ_pos n)
    rw [eq]
    unfold isWholePart
    split <;> simp_all

/-- The digits of a number stand for it. -/
theorem ofDigits_toDigits (n : Nat) : ofDigits (Nat.toDigits 10 n) = n := by
  calc ofDigits (Nat.toDigits 10 n)
      = Nat.ofDigitChars 10 (Nat.toDigits 10 n) 0 := by
        simp [ofDigits, Nat.ofDigitChars, Nat.mul_comm]
    _ = n := Nat.ofDigitChars_toDigits (by decide) (by decide)

/-- **A number is read back from its digits**, up to where it ends. -/
theorem readNumber_written (n : Nat) {rest : Input} (ends : NumberEnds rest) :
    readNumber ((toString n).toList.map some ++ rest) = (.natural n, some rest) := by
  have digits : (toString n).toList = Nat.toDigits 10 n := by
    rw [Nat.toString_eq_ofList_toDigits, String.toList_ofList]
  have taken := takeDigits_append (fun c mem => isDigit_of_mem_toDigits (n := n) mem) ends
  -- no digit is the sign that the reader looks for first
  have unsigned : ∀ left, (Nat.toDigits 10 n).map some ++ rest ≠ some '-' :: left := by
    intro left eq
    cases first : Nat.toDigits 10 n with
    | nil => exact Nat.toDigits_ne_nil first
    | cons c others =>
      rw [first] at eq
      obtain rfl : c = '-' := by simpa using (List.cons.inj eq).1
      exact absurd (isDigit_of_mem_toDigits (n := n) (first ▸ List.mem_cons_self)) (by decide)
  rw [digits]
  simp [readNumber, taken, isWholePart_toDigits, readFraction_of_ends ends,
    readExponent_of_ends ends, ofDigits_toDigits]

end Json

end MqttSessions
