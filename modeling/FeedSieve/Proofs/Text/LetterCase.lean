import FeedSieve.Proofs.Text.Lower
import FeedSieve.Proofs.Unicode.Ascii

/-! Texts that differ only in the case of letters within seven bits. They are the same once lower-cased: the letters
themselves are, and a capital sigma between them finds the same neighbours, since a capital is as cased as its small
letter and looked through no more than that. Nor is a capital any more blank, so trimming leaves such texts the same. -/

namespace FeedSieve.Text

open Unicode

/-- The texts are the same but for the case of letters of the Latin alphabet. -/
def SameLetters (cs ds : List Char) : Prop := cs.map Char.toLower = ds.map Char.toLower

theorem SameLetters.eq_nil_iff {cs ds : List Char} (h : SameLetters cs ds) : cs = [] ↔ ds = [] := by
  rw [← List.map_eq_nil_iff (f := Char.toLower), h, List.map_eq_nil_iff]

theorem goesOn_map_toLower (cs : List Char) : goesOn (cs.map Char.toLower) = goesOn cs := by
  induction cs with
  | nil => rfl
  | cons c cs ih => rw [List.map_cons, goesOn_cons, goesOn_cons, isCaseIgnorable_toLower, isCased_toLower, ih]

theorem toLower_eq_sigma_iff (c : Char) : c.toLower = 'Σ' ↔ c = 'Σ' := by
  have hsigma := congr_toLower (f := fun c => decide (c = 'Σ')) (by decide +kernel) c
  simpa using hsigma

theorem formBetween_toLower (before : List Char) (c : Char) (after : List Char) :
    formBetween (before.map Char.toLower) c.toLower (after.map Char.toLower) = formBetween before c after := by
  simp only [formBetween, toLower_eq_sigma_iff, lowerChar_toLower, lowerSigma, goesOn_map_toLower]

theorem lowerAfter_map_toLower (before cs : List Char) :
    lowerAfter (before.map Char.toLower) (cs.map Char.toLower) = lowerAfter before cs := by
  induction cs generalizing before with
  | nil => rfl
  | cons c cs ih =>
    have hrest := ih (c :: before)
    rw [List.map_cons] at hrest
    rw [List.map_cons, lowerAfter_cons, lowerAfter_cons, formBetween_toLower, hrest]

theorem lower_map_toLower (cs : List Char) : lower (cs.map Char.toLower) = lower cs := lowerAfter_map_toLower [] cs

theorem SameLetters.lower_eq {cs ds : List Char} (h : SameLetters cs ds) : lower cs = lower ds := by
  rw [← lower_map_toLower cs, h, lower_map_toLower]

/-! ### Trimming -/

theorem trimStart_map_toLower (cs : List Char) : trimStart (cs.map Char.toLower) = (trimStart cs).map Char.toLower := by
  have hblank : isBlank ∘ Char.toLower = isBlank := funext isBlank_toLower
  rw [trimStart, List.dropWhile_map, hblank, trimStart]

/-- Blanks at the end are those at the beginning of the reversed text. -/
theorem trimEnd_eq (cs : List Char) : trimEnd cs = (trimStart cs.reverse).reverse := rfl

theorem trim_map_toLower (cs : List Char) : trim (cs.map Char.toLower) = (trim cs).map Char.toLower := by
  rw [trim, trimStart_map_toLower, trimEnd_eq, ← List.map_reverse, trimStart_map_toLower, ← List.map_reverse,
    ← trimEnd_eq, trim]

theorem SameLetters.trim {cs ds : List Char} (h : SameLetters cs ds) : SameLetters (trim cs) (trim ds) := by
  rw [SameLetters, ← trim_map_toLower, h, trim_map_toLower]

end FeedSieve.Text
