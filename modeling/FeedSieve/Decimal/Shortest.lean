/-! The shortest decimal that reads back as a given double. A double stands for all reals that round
to it, an interval around its value whose ends belong to it iff its mantissa is even. On a grid of
multiples of a power of ten only the two neighbours of the value can be the nearest point inside
the interval; going from coarse grids to fine ones, the first that has such a point gives the
fewest digits. -/

namespace FeedSieve.Decimal

/-- The positive real `mantissa * 2 ^ exponent`. The gap to the next smaller double may be half
the gap to the next larger one. -/
structure Binary where
  mantissa : Nat
  exponent : Int
  halfGapBelow : Bool
deriving DecidableEq, Repr

/-- The magnitude of a finite double, given by its bits; the sign bit is not looked at. -/
def Binary.ofBits (bits : Nat) : Binary :=
  let fraction : Nat := bits % 0x10000000000000
  let e : Nat := bits / 0x10000000000000 % 0x800
  if e = 0 then ⟨fraction, -1074, false⟩
  else ⟨0x10000000000000 + fraction, (e : Int) - 1075, fraction == 0 && e != 1⟩

/-- The multiple of `10 ^ j` that is nearest to the value among those that round to it, counted in
units of `10 ^ j`; a tie goes to the even neighbour. -/
def Binary.nearestOn? (b : Binary) (j : Int) : Option Nat :=
  let scale := Nat.pow 2 (b.exponent - 2).toNat * Nat.pow 10 (-j).toNat
  let unit := Nat.pow 2 (2 - b.exponent).toNat * Nat.pow 10 j.toNat
  let value := 4 * b.mantissa * scale
  let low := (4 * b.mantissa - if b.halfGapBelow then 1 else 2) * scale
  let high := (4 * b.mantissa + 2) * scale
  let inside (x : Nat) : Bool :=
    if b.mantissa % 2 = 0 then low ≤ x && x ≤ high else low < x && x < high
  let below := value / unit
  let excess := 2 * (value % unit)
  let near := if excess < unit ∨ excess = unit ∧ below % 2 = 0 then below else below + 1
  let far := 2 * below + 1 - near
  if inside (near * unit) then some near
  else if inside (far * unit) then some far
  else none

/-- Looks for a point on the grid of `10 ^ j` and on up to so many finer ones. -/
def Binary.searchFrom (b : Binary) (j : Int) : Nat → Nat × Int
  | 0 => (0, j)
  | n + 1 =>
    match b.nearestOn? j with
    | some digits => (digits, j)
    | none => b.searchFrom (j - 1) n

/-- The shortest decimal `(d, j)`, for `d * 10 ^ j`. The search starts above the value, since
`30103 / 100000` exceeds the decimal logarithm of two, and seventeen digits always suffice. -/
def Binary.shortest (b : Binary) : Nat × Int :=
  b.searchFrom ((b.mantissa.log2 + 1 + b.exponent) * 30103 / 100000 + 1) 24

example : (Binary.ofBits 0x3FB999999999999A).shortest = (1, -1) := by decide +kernel

example : (Binary.ofBits 1).shortest = (5, -324) := by decide +kernel

example : (Binary.ofBits 0x44B52D02C7E14AF6).shortest = (1, 23) := by decide +kernel

end FeedSieve.Decimal
