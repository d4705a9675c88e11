/-! Natural numbers of 64 bits in writing. Digits are read one after another, and the first that would carry the
number over the bound ends the reading with nothing. -/

namespace FeedSieve.Decimal

def greatestWord : UInt64 := 0xFFFFFFFFFFFFFFFF

/-- One more digit behind those of a word; none if the character is no digit or the number does not fit. -/
def appendDigit? (w : UInt64) (c : Char) : Option UInt64 :=
  let n := 10 * w.toNat + (c.toNat - 48)
  if c.isDigit = true ∧ n < UInt64.size then some (UInt64.ofNat n) else none

/-- The word that digits write, of which there has to be one at least. -/
def wordOfDigits? : List Char → Option UInt64
  | [] => none
  | cs => cs.foldlM appendDigit? 0

end FeedSieve.Decimal
