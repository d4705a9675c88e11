import FeedSieve.Decimal.Word
import FeedSieve.Json.Value
import FeedSieve.Text.Trim

/-! How many hashtags a condition asks for: an exact number, or at least one. Zero is no number to ask
for and means at least one. -/

namespace FeedSieve

/-- The number asked for, if there is one. -/
structure HashtagCount where
  exactly : Option UInt64
deriving DecidableEq

namespace HashtagCount

def of (n : Option UInt64) : HashtagCount := ⟨n.filter (· ≠ 0)⟩

theorem exactly_of_ne_zero (n : Option UInt64) : (of n).exactly ≠ some 0 := by
  cases n <;> simp [of, Option.filter]

def dropPlus : List Char → List Char
  | '+' :: cs => cs
  | cs => cs

/-- The digits that a text begins with, after blanks and a plus. -/
def leadingDigits (cs : List Char) : List Char := (dropPlus (Text.trimStart cs)).takeWhile Char.isDigit

/-- The number that a text begins with. Digits that write no word stand for the greatest one. -/
def leadingCount? (s : String) : Option UInt64 :=
  match leadingDigits s.toList with
  | [] => none
  | ds => some ((Decimal.wordOfDigits? ds).getD Decimal.greatestWord)

/-- The number that an argument gives. The whole part counts of a double, and true counts as one. -/
def argumentCount? : Json → Option UInt64
  | .number n =>
    match n.natural? with
    | some k => some (UInt64.ofNat k)
    | none => if 1 ≤ n.toFloat then some n.toFloat.toUInt64 else none
  | .string s => leadingCount? s
  | .bool true => some 1
  | _ => none

/-- The demand that an argument makes; none is ever refused. -/
def ofArgument (j : Json) : HashtagCount := of (argumentCount? j)

def metBy (c : HashtagCount) (n : Nat) : Bool :=
  match c.exactly with
  | some k => UInt64.ofNat n == k
  | none => n != 0

/-- No demand is met by no hashtags. -/
theorem metBy_zero {c : HashtagCount} (h : c.exactly ≠ some 0) : c.metBy 0 = false := by
  rw [metBy]
  split
  · next k hk =>
    have hne : k ≠ 0 := by
      rintro rfl
      exact h hk
    simpa using Ne.symm hne
  · rfl

end HashtagCount

end FeedSieve
