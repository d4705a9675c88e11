import FeedSieve.Unicode.Blank

/-! Removing the blanks at the ends of a text. Blanks between two other characters stay. -/

namespace FeedSieve.Text

open Unicode

/-- The text from its first character that is no blank. -/
def trimStart (cs : List Char) : List Char := cs.dropWhile isBlank

/-- The text up to its last character that is no blank. -/
def trimEnd (cs : List Char) : List Char := (cs.reverse.dropWhile isBlank).reverse

def trim (cs : List Char) : List Char := trimEnd (trimStart cs)

def isBlankText (cs : List Char) : Bool := cs.all isBlank

theorem dropWhile_eq_nil_iff {α : Type} {p : α → Bool} {l : List α} :
    l.dropWhile p = [] ↔ l.all p = true := by
  induction l with
  | nil => simp
  | cons a l ih => by_cases h : p a = true <;> simp_all

theorem all_dropWhile {α : Type} {p : α → Bool} {l : List α} :
    (l.dropWhile p).all p = l.all p := by
  induction l with
  | nil => rfl
  | cons a l ih => by_cases h : p a = true <;> simp_all

theorem trim_eq_nil_iff {cs : List Char} : trim cs = [] ↔ isBlankText cs = true := by
  rw [trim, trimEnd, List.reverse_eq_nil_iff, dropWhile_eq_nil_iff, List.all_reverse, trimStart,
    all_dropWhile, isBlankText]

example : trim "\u2003 a b\t".toList = "a b".toList := by decide +kernel

end FeedSieve.Text
