import FeedSieve.Decimal.Layout
import FeedSieve.Decimal.Scaled

/-! The numbers of a document. A number written as an integer stays one as long as it fits 64 bits,
with a sign if it is negative; every other number is a double. -/

namespace FeedSieve.Json

/-- The integers that a document keeps as such. -/
def fitsInteger (n : Int) : Prop := -0x8000000000000000 ≤ n ∧ n < 0x10000000000000000

instance (n : Int) : Decidable (fitsInteger n) := inferInstanceAs (Decidable (_ ∧ _))

inductive Number where
  | integer (n : Int) (fits : fitsInteger n)
  | real (x : Float)
deriving DecidableEq

namespace Number

def ofWord (n : UInt64) : Number :=
  .integer n.toNat (by have := n.toNat_lt; unfold fitsInteger; omega)

/-- The number as a natural number, if it is an integer and not negative. -/
def natural? : Number → Option Nat
  | .integer n _ => if 0 ≤ n then some n.toNat else none
  | .real _ => none

/-- The number as a double; an integer is rounded. -/
def toFloat : Number → Float
  | .integer n _ =>
    let magnitude := (UInt64.ofNat n.natAbs).toFloat
    if n < 0 then -magnitude else magnitude
  | .real x => x

/-- Doubles are written without an exponent from a hundred-thousandth up to below ten quadrillion,
and always show that they are not integers. -/
def layout : Decimal.Layout := ⟨-5, 15, ".0", ("e+", "e-")⟩

def renderInt (n : Int) : List Char :=
  if n < 0 then '-' :: Nat.toDigits 10 n.natAbs else Nat.toDigits 10 n.natAbs

/-- The written form of a number. A double that is no number has none and is written as null. -/
def render : Number → List Char
  | .integer n _ => renderInt n
  | .real x => if x.isFinite then layout.writeFloat x else "null".toList

end Number

/-- A number as it stands in a text: its sign, its digits before and after the point, and its power
of ten. -/
structure Literal where
  negative : Bool
  whole : List Char
  fraction : Option (List Char)
  power : Option Int
deriving DecidableEq, Repr

/-- The value of a literal; none where it is too large for a double. A point or a power makes a
double of it, and so does a minus before zero. -/
def Literal.number? (l : Literal) : Option Number :=
  let magnitude : Int := Nat.ofDigitChars 10 l.whole 0
  let n := if l.negative then -magnitude else magnitude
  if h : l.fraction = none ∧ l.power = none ∧ fitsInteger n ∧ ¬(l.negative = true ∧ magnitude = 0) then
    some (.integer n h.2.2.1)
  else
    let d := Decimal.Scaled.ofDigits l.whole (l.fraction.getD []) (l.power.getD 0)
    d.toFloat?.map fun x => .real (if l.negative then -x else x)

end FeedSieve.Json
