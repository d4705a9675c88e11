import FeedSieve.Proofs.Unicode.Lowercase
import FeedSieve.Text.Lower
import FeedSieve.Text.Trim

/-! Trimming and lower-casing, done twice. A lower-cased text consists of lower-case forms, which stay what
they are, capital sigmas included; and lower-casing puts no blank at the end of a trimmed text. So a text that
was trimmed and then lower-cased is neither trimmed nor lower-cased further. -/

namespace FeedSieve.Text

open Unicode

/-! ### Lower-cased texts -/

/-- Every character is its own lower-case form. -/
def IsLower (cs : List Char) : Prop := ∀ c ∈ cs, lowerChar c = [c]

/-- What a character becomes between the given neighbours. -/
def formBetween (before : List Char) (c : Char) (after : List Char) : List Char :=
  if c = 'Σ' then [lowerSigma before after] else lowerChar c

theorem lowerAfter_cons (before : List Char) (c : Char) (cs : List Char) :
    lowerAfter before (c :: cs) = formBetween before c cs ++ lowerAfter (c :: before) cs := rfl

theorem goesOn_cons (c : Char) (cs : List Char) :
    goesOn (c :: cs) = if isCaseIgnorable c then goesOn cs else isCased c := by
  by_cases hc : isCaseIgnorable c = true <;> simp [goesOn, hc]

theorem lowerSigma_cases (before after : List Char) :
    lowerSigma before after = 'ς' ∨ lowerSigma before after = 'σ' := by
  rw [lowerSigma]
  split
  · exact .inl rfl
  · exact .inr rfl

theorem formBetween_ne_nil (before : List Char) (c : Char) (after : List Char) : formBetween before c after ≠ [] := by
  rw [formBetween]
  split
  · exact List.cons_ne_nil _ _
  · exact lowerChar_ne_nil c

theorem lowerChar_of_mem_formBetween {before after : List Char} {c d : Char} (h : d ∈ formBetween before c after) :
    lowerChar d = [d] := by
  rw [formBetween] at h
  split at h
  · rw [List.mem_singleton] at h
    rcases lowerSigma_cases before after with hs | hs <;> rw [h, hs] <;> decide +kernel
  · exact lowerChar_of_mem_lowerChar h

theorem isBlank_of_mem_formBetween {before after : List Char} {c d : Char} (hc : isBlank c = false)
    (h : d ∈ formBetween before c after) : isBlank d = false := by
  rw [formBetween] at h
  split at h
  · rw [List.mem_singleton] at h
    rcases lowerSigma_cases before after with hs | hs <;> rw [h, hs] <;> decide
  · exact isBlank_of_mem_lowerChar hc h

theorem isLower_lowerAfter (before cs : List Char) : IsLower (lowerAfter before cs) := by
  induction cs generalizing before with
  | nil => exact fun c hc => absurd hc (List.not_mem_nil)
  | cons c cs ih =>
    intro d hd
    rw [lowerAfter_cons, List.mem_append] at hd
    rcases hd with hd | hd
    · exact lowerChar_of_mem_formBetween hd
    · exact ih (c :: before) d hd

theorem lowerAfter_of_isLower {cs : List Char} (h : IsLower cs) (before : List Char) : lowerAfter before cs = cs := by
  induction cs generalizing before with
  | nil => rfl
  | cons c cs ih =>
    have hc := h c (by simp)
    have hsigma : c ≠ 'Σ' := by
      rintro rfl
      exact absurd hc (by decide +kernel)
    have hrest := ih (fun d hd => h d (by simp [hd])) (c :: before)
    rw [lowerAfter_cons, formBetween, if_neg hsigma, hc, hrest]
    rfl

theorem lower_eq_nil_iff {cs : List Char} : lower cs = [] ↔ cs = [] := by
  cases cs with
  | nil => exact iff_of_true rfl rfl
  | cons c cs =>
    refine iff_of_false (fun h => ?_) (List.cons_ne_nil c cs)
    rw [lower, lowerAfter_cons, List.append_eq_nil_iff] at h
    exact formBetween_ne_nil [] c cs h.1

/-- Lower-casing a second time changes nothing. -/
theorem lower_lower (cs : List Char) : lower (lower cs) = lower cs :=
  lowerAfter_of_isLower (isLower_lowerAfter [] cs) []

/-! ### Trimmed texts -/

/-- Neither the first character nor the last is blank. -/
def IsTrimmed (cs : List Char) : Prop := (∀ c ∈ cs.head?, isBlank c = false) ∧ ∀ c ∈ cs.getLast?, isBlank c = false

instance (cs : List Char) : Decidable (IsTrimmed cs) :=
  @instDecidableAnd _ _ (Option.decidableForallMem (p := fun c => isBlank c = false) cs.head?)
    (Option.decidableForallMem (p := fun c => isBlank c = false) cs.getLast?)

theorem head?_dropWhile {p : Char → Bool} (cs : List Char) : ∀ c ∈ (cs.dropWhile p).head?, p c = false := by
  intro c hc
  have hhead := List.head?_dropWhile_not p cs
  rw [Option.mem_def.mp hc] at hhead
  simpa using hhead

theorem trim_isPrefix_trimStart (cs : List Char) : trim cs <+: trimStart cs := by
  rw [trim, trimEnd, ← List.reverse_suffix, List.reverse_reverse]
  exact List.dropWhile_suffix _

theorem mem_of_mem_trim {c : Char} {cs : List Char} (h : c ∈ trim cs) : c ∈ cs :=
  (List.dropWhile_suffix _).subset ((trim_isPrefix_trimStart cs).subset h)

theorem isTrimmed_trim (cs : List Char) : IsTrimmed (trim cs) := by
  have hlast : ∀ c ∈ (trim cs).getLast?, isBlank c = false := by
    rw [trim, trimEnd, List.getLast?_reverse]
    exact head?_dropWhile _
  refine ⟨fun c hc => ?_, hlast⟩
  -- what is dropped at the end leaves the beginning as it was
  obtain ⟨rest, hrest⟩ := trim_isPrefix_trimStart cs
  have hstart := head?_dropWhile (p := isBlank) cs
  rw [← trimStart, ← hrest] at hstart
  exact hstart c (by rw [List.head?_append, Option.mem_def.mp hc]; rfl)

theorem dropWhile_of_head? {p : Char → Bool} {cs : List Char} (h : ∀ c ∈ cs.head?, p c = false) :
    cs.dropWhile p = cs := by
  cases cs with
  | nil => rfl
  | cons c cs =>
    have hc := h c rfl
    rw [List.dropWhile_cons, hc]
    rfl

theorem trim_of_isTrimmed {cs : List Char} (h : IsTrimmed cs) : trim cs = cs := by
  have hlast : ∀ c ∈ cs.reverse.head?, isBlank c = false := by
    rw [List.head?_reverse]
    exact h.2
  rw [trim, trimStart, dropWhile_of_head? h.1, trimEnd, dropWhile_of_head? hlast, List.reverse_reverse]

/-- The last character of a lower-cased text belongs to the form of the last character. -/
theorem exists_lowerAfter_concat (before cs : List Char) (c : Char) :
    ∃ start neighbours, lowerAfter before (cs ++ [c]) = start ++ formBetween neighbours c [] := by
  induction cs generalizing before with
  | nil => exact ⟨[], before, by rw [List.nil_append, lowerAfter_cons, lowerAfter, List.append_nil, List.nil_append]⟩
  | cons b cs ih =>
    obtain ⟨start, neighbours, hrest⟩ := ih (b :: before)
    refine ⟨formBetween before b (cs ++ [c]) ++ start, neighbours, ?_⟩
    rw [List.cons_append, lowerAfter_cons, hrest, List.append_assoc]

theorem isTrimmed_lower {cs : List Char} (h : IsTrimmed cs) : IsTrimmed (lower cs) := by
  constructor
  · cases cs with
    | nil => exact h.1
    | cons c cs =>
      intro d hd
      have hne := formBetween_ne_nil [] c cs
      rw [lower, lowerAfter_cons, List.head?_append, List.head?_eq_some_head hne, Option.some_or] at hd
      obtain rfl := Option.some.inj hd
      exact isBlank_of_mem_formBetween (h.1 c rfl) (List.head_mem hne)
  · rcases List.eq_nil_or_concat cs with rfl | ⟨cs, c, rfl⟩
    · exact h.2
    · intro d hd
      obtain ⟨start, neighbours, hform⟩ := exists_lowerAfter_concat [] cs c
      have hne := formBetween_ne_nil neighbours c []
      rw [List.concat_eq_append] at h
      rw [lower, List.concat_eq_append, hform, List.getLast?_append, List.getLast?_eq_some_getLast hne,
        Option.some_or] at hd
      obtain rfl := Option.some.inj hd
      exact isBlank_of_mem_formBetween (h.2 c (by simp)) (List.getLast_mem hne)

end FeedSieve.Text
