/-! # White space at the ends of a text

**`Text.isBlank`** is membership in the Unicode property White_Space; **`Text.trim`** drops blank
characters from both ends of a text. -/

namespace MqttSessions

namespace Text

/-- The code points of the Unicode property White_Space, as closed ranges. -/
def blankRanges : List (Nat × Nat) :=
  [(0x9, 0xD), (0x20, 0x20), (0x85, 0x85), (0xA0, 0xA0), (0x1680, 0x1680), (0x2000, 0x200A),
   (0x2028, 0x2029), (0x202F, 0x202F), (0x205F, 0x205F), (0x3000, 0x3000)]

/-- Whether a code point lies in one of some closed ranges. -/
def inRanges (ranges : List (Nat × Nat)) (n : Nat) : Bool :=
  ranges.any fun (first, last) => first ≤ n && n ≤ last

/-- Whether a character is white space. -/
def isBlank (c : Char) : Bool := inRanges blankRanges c.toNat

/-- Drops white space from the front of a list of characters. -/
def dropBlank (s : List Char) : List Char := s.dropWhile isBlank

/-- Drops white space from both ends of a list of characters. -/
def trimList (s : List Char) : List Char := (dropBlank (dropBlank s).reverse).reverse

/-- A text without the white space at its two ends. -/
def trim (s : String) : String := String.ofList (trimList s.toList)

end Text

end MqttSessions
