/-! Whether one text occurs inside another. -/

namespace FeedSieve.Text

/-- Whether the first text stands somewhere in the second, one character after another. -/
def occursIn (needle : List Char) : List Char → Bool
  | [] => needle.isEmpty
  | c :: cs => needle.isPrefixOf (c :: cs) || occursIn needle cs

theorem occursIn_iff {needle cs : List Char} : occursIn needle cs = true ↔ needle <:+: cs := by
  induction cs with
  | nil => cases needle <;> simp [occursIn]
  | cons c cs ih => rw [occursIn, Bool.or_eq_true, List.isPrefixOf_iff_prefix, ih, List.infix_cons_iff]

example : occursIn "phone".toList "an iphone".toList = true := by decide +kernel

end FeedSieve.Text
