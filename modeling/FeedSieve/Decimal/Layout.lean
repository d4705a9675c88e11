import FeedSieve.Decimal.Shortest

/-! How a decimal is laid out as text: with its point in place, or with one digit before the point
and an exponent. Which of the two is a matter of the place of the first digit. -/

namespace FeedSieve.Decimal

/-- The choices of a written form. -/
structure Layout where
  /-- The least place of the first digit at which no exponent is written; 0 is the place of ones. -/
  leastPlain : Int
  /-- The greatest such place. -/
  greatestPlain : Int
  /-- What is written after a whole number that has no exponent. -/
  wholeMark : String
  /-- What stands before an exponent that is not negative, and before the digits of one that is. -/
  exponentMarks : String × String

/-- The digits with their point in place, the first of them at the given place. -/
def Layout.plain (l : Layout) (digits : List Char) (place : Int) : List Char :=
  if place < 0 then "0.".toList ++ List.replicate (-place - 1).toNat '0' ++ digits
  else
    let count := place.toNat + 1
    if digits.length ≤ count then
      digits ++ List.replicate (count - digits.length) '0' ++ l.wholeMark.toList
    else digits.take count ++ '.' :: digits.drop count

/-- The digits with a point after the first, if there are more, and the place of the first as
exponent. -/
def Layout.scientific (l : Layout) (digits : List Char) (place : Int) : List Char :=
  let mantissa := match digits with
    | d :: e :: rest => d :: '.' :: e :: rest
    | ds => ds
  let mark := if place < 0 then l.exponentMarks.2 else l.exponentMarks.1
  mantissa ++ mark.toList ++ Nat.toDigits 10 place.natAbs

/-- The text of a decimal whose first digit stands at the given place. -/
def Layout.write (l : Layout) (digits : List Char) (place : Int) : List Char :=
  if l.leastPlain ≤ place ∧ place ≤ l.greatestPlain then l.plain digits place
  else l.scientific digits place

/-- The text of a finite double: its sign and its shortest decimal. -/
def Layout.writeFloat (l : Layout) (x : Float) : List Char :=
  let bits := x.toBits.toNat
  let sign := if 0x8000000000000000 ≤ bits then ['-'] else []
  let (d, j) := (Binary.ofBits bits).shortest
  let digits := Nat.toDigits 10 d
  sign ++ if d = 0 then l.write ['0'] 0 else l.write digits (j + digits.length - 1)

end FeedSieve.Decimal
