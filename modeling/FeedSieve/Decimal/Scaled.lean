/-! Decimal numbers as a significand times a power of ten, and the doubles they stand for. The
significand is kept in 64 bits: digits that do not fit any more count only for their place. The
conversion rounds the significand once and the product or quotient once, so that it can miss the
nearest double; what it gives is nevertheless fixed by these two steps. -/

namespace FeedSieve.Decimal

/-- The number `significand * 10 ^ exponent`. -/
structure Scaled where
  significand : Nat
  exponent : Int
deriving DecidableEq, Repr

/-- The significands kept are below this bound. -/
def significandBound : Nat := UInt64.size

/-- Appends digits to a significand up to the first that would carry it over the bound; gives the
digits left over too. -/
def gather (s : Nat) : List Char → Nat × List Char
  | [] => (s, [])
  | c :: cs =>
    let t := 10 * s + (c.toNat - 48)
    if t < significandBound then gather t cs else (s, c :: cs)

/-- The number with the given digits before and after its point, times a power of ten. -/
def Scaled.ofDigits (whole fraction : List Char) (power : Int) : Scaled :=
  let (s, passed) := gather 0 whole
  let (t, dropped) := gather s fraction
  ⟨t, power + passed.length - (fraction.length - dropped.length)⟩

def greatestPower : Nat := 308

def powerOfTen (n : Nat) : Float := Float.ofScientific 1 false n

/-- Divides by a power of ten, by the greatest one first as long as the exponent lies beyond it. -/
def divide (x : Float) (n : Nat) : Float :=
  if n ≤ greatestPower then x / powerOfTen n
  else if x == 0 then x
  else divide (x / powerOfTen greatestPower) (n - greatestPower)
termination_by n
decreasing_by simp only [greatestPower] at *; omega

/-- The double that a number stands for; none where it is too large. -/
def Scaled.toFloat? (d : Scaled) : Option Float :=
  let x := (UInt64.ofNat d.significand).toFloat
  if d.exponent < 0 then some (divide x d.exponent.natAbs)
  else if d.exponent.toNat ≤ greatestPower then
    let y := x * powerOfTen d.exponent.toNat
    if y.isInf then none else some y
  else if x == 0 then some x
  else none

end FeedSieve.Decimal
