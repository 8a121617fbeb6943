import MqttSessions.Text.Utf8

/-! # Octets that encode a text

The units of the octets of a text are its characters, and nothing else (**`Utf8.units_encode`**), so
that nothing of a text is lost on its way through a file. A character has one to four octets: the first
one promises how many follow (**`Utf8.unitsFrom_lead`**), each of which brings six bits
(**`Utf8.unitsFrom_more`**), until the last one completes the character (**`Utf8.unitsFrom_last`**).
The bounds on the second octet, which rule out characters that are written too long, halves of pairs and
numbers that are too great, are met by every character. -/

namespace MqttSessions

namespace Utf8

/-! ## Single octets -/

/-- The number of an octet that was made from a number. -/
theorem toNat_ofNat {n : Nat} (small : n < 256) : (UInt8.ofNat n).toNat = n := by
  rw [UInt8.toNat_ofNat']
  exact Nat.mod_eq_of_lt small

/-- An octet with six bits is taken by a character that it may continue. -/
theorem step_continued {p : Pending} {n : Nat} (bits : n < 64) (low : p.low.toNat ≤ n + 128)
    (high : n + 128 ≤ p.high.toNat) :
    step (some p) (UInt8.ofNat (n + 128)) =
      if p.owed ≤ 1 then ([some (Char.ofNat (p.value * 64 + n))], none)
      else ([], some ⟨p.value * 64 + n, p.owed - 1, 0x80, 0xBF⟩) := by
  have octet : (UInt8.ofNat (n + 128)).toNat = n + 128 := toNat_ofNat (by omega)
  have within : (p.low ≤ UInt8.ofNat (n + 128) && UInt8.ofNat (n + 128) ≤ p.high) = true := by
    simp only [Bool.and_eq_true, decide_eq_true_eq, UInt8.le_iff_toNat_le, octet]
    exact ⟨low, high⟩
  rw [step, if_pos within, octet, Nat.add_sub_cancel]

/-- An octet outside ASCII that promises a character makes it pending. -/
theorem start_lead {n : Nat} {p : Pending} (large : 0x80 ≤ n) (small : n < 256)
    (promised : lead? (UInt8.ofNat n) = some p) : start (UInt8.ofNat n) = ([], some p) := by
  rw [start, if_neg, promised]
  rw [UInt8.lt_iff_toNat_lt, toNat_ofNat small]
  exact Nat.not_lt.mpr large

/-- The first octet of two. -/
theorem lead?_two :
    ∀ n < 32, 2 ≤ n → lead? (UInt8.ofNat (n + 192)) = some ⟨n, 1, 0x80, 0xBF⟩ := by
  decide

/-- The first octet of three. -/
theorem lead?_three : ∀ n < 16, lead? (UInt8.ofNat (n + 224)) =
    some ⟨n, 2, if n = 0 then 0xA0 else 0x80, if n = 13 then 0x9F else 0xBF⟩ := by
  decide

/-- The first octet of four. -/
theorem lead?_four : ∀ n < 5, lead? (UInt8.ofNat (n + 240)) =
    some ⟨n, 3, if n = 0 then 0x90 else 0x80, if n = 4 then 0x8F else 0xBF⟩ := by
  decide

/-! ## Octets in a row -/

/-- A first octet makes a character pending. -/
theorem unitsFrom_lead {n : Nat} {p : Pending} (large : 0x80 ≤ n) (small : n < 256)
    (promised : lead? (UInt8.ofNat n) = some p) (rest : List UInt8) :
    unitsFrom none (UInt8.ofNat n :: rest) = unitsFrom (some p) rest := by
  rw [unitsFrom, step, start_lead large small promised, List.nil_append]

/-- An octet before the last one adds its bits. -/
theorem unitsFrom_more {p : Pending} {n : Nat} (bits : n < 64) (low : p.low.toNat ≤ n + 128)
    (high : n + 128 ≤ p.high.toNat) (owed : 1 < p.owed) (rest : List UInt8) :
    unitsFrom (some p) (UInt8.ofNat (n + 128) :: rest) =
      unitsFrom (some ⟨p.value * 64 + n, p.owed - 1, 0x80, 0xBF⟩) rest := by
  rw [unitsFrom, step_continued bits low high, if_neg (Nat.not_le.mpr owed), List.nil_append]

/-- The last octet completes the character. -/
theorem unitsFrom_last {p : Pending} {n : Nat} (bits : n < 64) (low : p.low.toNat ≤ n + 128)
    (high : n + 128 ≤ p.high.toNat) (owed : p.owed = 1) (rest : List UInt8) :
    unitsFrom (some p) (UInt8.ofNat (n + 128) :: rest) =
      some (Char.ofNat (p.value * 64 + n)) :: unitsFrom none rest := by
  rw [unitsFrom, step_continued bits low high, if_pos (Nat.le_of_eq owed), List.singleton_append]

/-- A lower bound that is raised for some first octets only. -/
theorem low_le {raised : Prop} [Decidable raised] {low : UInt8} {n : Nat}
    (met : raised → low.toNat ≤ n + 128) : (if raised then low else 0x80).toNat ≤ n + 128 := by
  split
  · exact met ‹_›
  · exact Nat.le_add_left 128 n

/-- An upper bound that is lowered for some first octets only. -/
theorem le_high {lowered : Prop} [Decidable lowered] {high : UInt8} {n : Nat} (bits : n < 64)
    (met : lowered → n + 128 ≤ high.toNat) : n + 128 ≤ (if lowered then high else 0xBF).toNat := by
  split
  · exact met ‹_›
  · exact Nat.add_le_add_right (Nat.le_of_lt_succ bits) 128

/-! ## Texts -/

/-- **The octets of a character are read as that character.** -/
theorem unitsFrom_encodeChar (c : Char) (rest : List UInt8) :
    unitsFrom none (encodeChar c ++ rest) = some c :: unitsFrom none rest := by
  have number : Char.ofNat c.toNat = c := Char.ofNat_toNat c
  have scalar : c.toNat < 0xD800 ∨ 0xDFFF < c.toNat ∧ c.toNat < 0x110000 := c.valid
  rw [encodeChar, String.utf8EncodeChar, show c.val.toNat = c.toNat from rfl]
  generalize c.toNat = v at number scalar
  subst number
  split
  · -- one octet
    rename_i small
    have octet : (UInt8.ofNat v).toNat = v := toNat_ofNat (by omega)
    have ascii : UInt8.ofNat v < 0x80 := by
      rw [UInt8.lt_iff_toNat_lt, octet]
      exact Nat.lt_succ_of_le small
    rw [List.singleton_append, unitsFrom, step, start, if_pos ascii, octet, List.singleton_append]
  · split
    · -- two octets; the first one has room for all that is left of the number
      rw [show v / 64 % 32 = v / 64 by omega]
      simp only [List.cons_append, List.nil_append]
      rw [unitsFrom_lead (by omega) (by omega) (lead?_two (v / 64) (by omega) (by omega)),
        unitsFrom_last (by omega) (Nat.le_add_left _ _) (by simp; omega) rfl]
      congr 3
      change v / 64 * 64 + v % 64 = v
      omega
    · split
      · -- three octets; neither a shorter number nor half of a pair breaks the bounds on the second one
        rw [show v / 4096 % 16 = v / 4096 by omega]
        simp only [List.cons_append, List.nil_append]
        rw [unitsFrom_lead (by omega) (by omega) (lead?_three (v / 4096) (by omega)),
          unitsFrom_more (by omega) (low_le (by simp; omega)) (le_high (by omega) (by simp; omega))
            (by simp),
          unitsFrom_last (by omega) (Nat.le_add_left _ _) (by simp; omega) rfl]
        congr 3
        change (v / 4096 * 64 + v / 64 % 64) * 64 + v % 64 = v
        omega
      · -- four octets; here the upper bound is the greatest number there is
        rw [show v / 262144 % 8 = v / 262144 by omega]
        simp only [List.cons_append, List.nil_append]
        rw [unitsFrom_lead (by omega) (by omega) (lead?_four (v / 262144) (by omega)),
          unitsFrom_more (by omega) (low_le (by simp; omega)) (le_high (by omega) (by simp; omega))
            (by simp),
          unitsFrom_more (by omega) (Nat.le_add_left _ _) (by simp; omega) (by simp),
          unitsFrom_last (by omega) (Nat.le_add_left _ _) (by simp; omega) rfl]
        congr 3
        change ((v / 262144 * 64 + v / 4096 % 64) * 64 + v / 64 % 64) * 64 + v % 64 = v
        omega

/-- **The units of the octets of a text are its characters.** -/
theorem units_encode (s : List Char) : units (encode s) = s.map some := by
  suffices read : unitsFrom none (encode s) = s.map some from read
  induction s with
  | nil => rfl
  | cons c rest ih => rw [encode, List.flatMap_cons, unitsFrom_encodeChar, ← encode, ih, List.map_cons]

end Utf8

end MqttSessions
