import FeedSieve.Unicode.Ranges

/-! The characters of the property White_Space. They are what trimming removes from the ends of a
text, and a line made only of them is a keep-alive. -/

namespace FeedSieve.Unicode

def blankRanges : Ranges :=
  [(0x9, 0xD), (0x20, 0x20), (0x85, 0x85), (0xA0, 0xA0), (0x1680, 0x1680), (0x2000, 0x200A),
   (0x2028, 0x2029), (0x202F, 0x202F), (0x205F, 0x205F), (0x3000, 0x3000)]

/-- Whether a character has the property White_Space. -/
def isBlank (c : Char) : Bool := blankRanges.contains c.toNat

/-- No digit is blank. -/
theorem isBlank_of_isDigit {c : Char} (h : c.isDigit = true) : isBlank c = false := by
  have hdigits : ∀ n < 58, 48 ≤ n → blankRanges.contains n = false := by decide
  have hc := Char.isDigit_iff_toNat.mp h
  exact hdigits c.toNat (Nat.lt_succ_of_le hc.2) hc.1

example : isBlank '\u3000' = true ∧ isBlank '\u200B' = false := by decide

end FeedSieve.Unicode
