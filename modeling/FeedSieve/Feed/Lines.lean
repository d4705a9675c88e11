/-! The lines of a stream of bytes. A line ends with its newline, the last one perhaps without. What a
line says is what stands before its newline and before one carriage return in front of that. -/

namespace FeedSieve.Feed

def newline : UInt8 := 10

def carriageReturn : UInt8 := 13

/-- The lines of a stream with their newlines, where the given bytes, last one first, are already known
of the first line. -/
def linesFrom (start : List UInt8) : List UInt8 → List (List UInt8)
  | [] => if start.isEmpty then [] else [start.reverse]
  | b :: bs => if b = newline then (b :: start).reverse :: linesFrom [] bs else linesFrom (b :: start) bs

/-- The lines of a stream with their newlines. -/
def lines (bytes : List UInt8) : List (List UInt8) := linesFrom [] bytes

/-- What a line says, given last byte first. -/
def stripReversed : List UInt8 → List UInt8
  | [] => []
  | b :: bs =>
    if b = newline then
      match bs with
      | [] => []
      | c :: cs => if c = carriageReturn then cs else c :: cs
    else b :: bs

/-- What a line says. -/
def strip (line : List UInt8) : List UInt8 := (stripReversed line.reverse).reverse

example : (lines [65, 13, 10, 10, 66, 13]).map strip = [[65], [], [66, 13]] := by decide

end FeedSieve.Feed
