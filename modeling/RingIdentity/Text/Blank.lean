/-!
Blank characters and trimming. A blank is a character with the Unicode `White_Space` property:
the ASCII tab, line feed, vertical tab, form feed, carriage return and space, the next-line and
no-break spaces, and the spaces and separators of the General Punctuation and CJK blocks.
Names, addresses and list entries are trimmed of blanks at both ends.
-/
namespace RingIdentity

namespace Text

/-- Whether a character has the Unicode `White_Space` property. -/
def isBlank (c : Char) : Bool :=
  let n := c.toNat
  (0x09 ≤ n && n ≤ 0x0D) || n == 0x20 || n == 0x85 || n == 0xA0 || n == 0x1680 ||
    (0x2000 ≤ n && n ≤ 0x200A) || n == 0x2028 || n == 0x2029 || n == 0x202F ||
    n == 0x205F || n == 0x3000

/-- Every character ASCII counts as blank is blank. -/
theorem isBlank_of_isWhitespace {c : Char} (h : c.isWhitespace = true) : isBlank c = true := by
  simp only [Char.isWhitespace, Bool.or_eq_true, decide_eq_true_eq] at h
  simp only [isBlank, Bool.or_eq_true, Bool.and_eq_true, beq_iff_eq, decide_eq_true_eq]
  rcases h with ((h | h) | h) | h <;> subst h <;> simp

/-- Drops blanks from the front of a list of characters. -/
def dropBlanks : List Char → List Char
  | c :: rest => if isBlank c then dropBlanks rest else c :: rest
  | [] => []

/-- A text without blanks at either end. -/
def trim (s : String) : String :=
  String.ofList (dropBlanks (dropBlanks s.toList).reverse).reverse

/-- Whether a text is empty or blanks only. -/
def isBlankText (s : String) : Bool := s.toList.all isBlank

end Text

end RingIdentity
