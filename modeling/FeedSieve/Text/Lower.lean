import FeedSieve.Unicode.CaseIgnorable
import FeedSieve.Unicode.Cased
import FeedSieve.Unicode.Lowercase

/-! Lower-casing of whole texts. Each character is replaced by its lower-case form; only a capital
sigma looks at its neighbours, and takes its final form at the end of a word. -/

namespace FeedSieve.Text

open Unicode

/-- Whether a word goes on over the given neighbours, listed outwards: the first of them that is not
case-ignorable is cased. -/
def goesOn (neighbours : List Char) : Bool :=
  match neighbours.dropWhile isCaseIgnorable with
  | [] => false
  | c :: _ => isCased c

/-- The lower-case form of a capital sigma between the characters before it, nearest first, and
those after it. -/
def lowerSigma (before after : List Char) : Char :=
  if goesOn before && !goesOn after then 'ς' else 'σ'

/-- Lower-cases a text that the given characters, nearest first, precede. -/
def lowerAfter (before : List Char) : List Char → List Char
  | [] => []
  | c :: cs => (if c = 'Σ' then [lowerSigma before cs] else lowerChar c) ++ lowerAfter (c :: before) cs

def lower (cs : List Char) : List Char := lowerAfter [] cs

@[simp] theorem lower_nil : lower [] = [] := rfl

example : lower "ΟΔΟΣ, Σ.".toList = "οδος, σ.".toList := by decide +kernel

end FeedSieve.Text
