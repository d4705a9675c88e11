import FeedSieve.Proofs.Rule.Inline

/-! The number that a text begins with, stated by itself. The leading digits of a text are those of its number, and
the count that is read off a text is that number, cut off at the greatest word. -/

namespace FeedSieve.HashtagCount

open Json (IsRun StartsWithout)

/-- What a text begins with: blanks, a plus perhaps, and a run of digits that is as long as possible, of the given
number. -/
inductive LeadingNumber : List Char → Nat → Prop
  | of (blanks sign ds rest : List Char) (hblanks : ∀ c ∈ blanks, Unicode.isBlank c = true)
    (hsign : sign = [] ∨ sign = ['+']) (hrun : IsRun ds) (hrest : StartsWithout Char.isDigit rest) :
    LeadingNumber (blanks ++ (sign ++ (ds ++ rest))) (Nat.ofDigitChars 10 ds 0)

variable {cs : List Char} {s : String} {D : Nat}

theorem isRun_leadingDigits (h : leadingDigits cs ≠ []) : IsRun (leadingDigits cs) :=
  ⟨h, List.all_eq_true.mp List.all_takeWhile⟩

theorem leadingDigits_append {blanks sign ds rest : List Char} (hblanks : ∀ c ∈ blanks, Unicode.isBlank c = true)
    (hsign : sign = [] ∨ sign = ['+']) (hrun : IsRun ds) (hrest : StartsWithout Char.isDigit rest) :
    leadingDigits (blanks ++ (sign ++ (ds ++ rest))) = ds := by
  have hhead : ∀ c ∈ (sign ++ (ds ++ rest)).head?, Unicode.isBlank c = false := by
    intro c hc
    obtain ⟨d, ds, rfl⟩ := List.exists_cons_of_ne_nil hrun.1
    obtain rfl | rfl := hsign <;> obtain rfl := Option.some.inj hc
    · exact Unicode.isBlank_of_isDigit (hrun.2 d (by simp))
    · decide
  have hplus : dropPlus (sign ++ (ds ++ rest)) = ds ++ rest := by
    obtain rfl | rfl := hsign
    · exact Declaration.dropPlus_append hrun rest
    · rfl
  rw [leadingDigits, Text.trimStart, List.dropWhile_append_of_pos hblanks, Text.dropWhile_of_head? hhead, hplus,
    List.takeWhile_append_of_pos hrun.2, hrest.takeWhile, List.append_nil]

/-- A text begins with a number just if it has leading digits, and then with theirs. -/
theorem leadingNumber_iff :
    LeadingNumber cs D ↔ leadingDigits cs ≠ [] ∧ Nat.ofDigitChars 10 (leadingDigits cs) 0 = D := by
  constructor
  · rintro ⟨blanks, sign, ds, rest, hblanks, hsign, hrun, hrest⟩
    rw [leadingDigits_append hblanks hsign hrun hrest]
    exact ⟨hrun.1, rfl⟩
  · rintro ⟨hne, rfl⟩
    have hblanks : ∀ c ∈ cs.takeWhile Unicode.isBlank, Unicode.isBlank c = true :=
      List.all_eq_true.mp List.all_takeWhile
    have hcs : cs = cs.takeWhile Unicode.isBlank ++ Text.trimStart cs := List.takeWhile_append_dropWhile.symm
    have hdigits : dropPlus (Text.trimStart cs) = leadingDigits cs ++
        (dropPlus (Text.trimStart cs)).dropWhile Char.isDigit := List.takeWhile_append_dropWhile.symm
    have hrest : StartsWithout Char.isDigit ((dropPlus (Text.trimStart cs)).dropWhile Char.isDigit) :=
      Text.head?_dropWhile _
    obtain hsign | hsign := Declaration.dropPlus_cases (Text.trimStart cs)
    · have hnumber := LeadingNumber.of _ ['+'] _ _ hblanks (.inr rfl) (isRun_leadingDigits hne) hrest
      rwa [← hdigits, List.singleton_append, ← hsign, ← hcs] at hnumber
    · have hnumber := LeadingNumber.of _ [] _ _ hblanks (.inl rfl) (isRun_leadingDigits hne) hrest
      rwa [← hdigits, List.nil_append, ← hsign, ← hcs] at hnumber

theorem leadingCount?_of_leadingNumber (h : LeadingNumber s.toList D) :
    ∃ k, leadingCount? s = some k ∧ k.toNat = min D (UInt64.size - 1) := by
  obtain ⟨hne, rfl⟩ := leadingNumber_iff.mp h
  have hvalue := Decimal.toNat_wordOfDigits?_getD (isRun_leadingDigits hne)
  rw [leadingCount?]
  split
  · next hnil => exact absurd hnil hne
  · exact ⟨_, rfl, hvalue⟩

theorem leadingCount?_of_no_number (h : ∀ D, ¬LeadingNumber s.toList D) : leadingCount? s = none := by
  have hnil : leadingDigits s.toList = [] := by
    by_contra hne
    exact h _ (leadingNumber_iff.mpr ⟨hne, rfl⟩)
  rw [leadingCount?, hnil]

end FeedSieve.HashtagCount
