import FeedSieve.Proofs.Text.Lower

/-! Lower-casing a part of a text. A part becomes within the whole what it becomes by itself, except that a capital
sigma may end a word in the one and not in the other. It cannot if the part tells by itself whether the word goes on,
as far as it matters: a word that goes on behind the sigma, or did not go on before it, does not end with it. If
the part does not tell, then a letter next to it makes a difference, and what the part becomes by itself occurs
nowhere in what it becomes beside that letter. -/

namespace FeedSieve.Text

open Unicode

/-! ### Parts -/

/-- What a text becomes between the given neighbours, of which those before it are listed outwards. -/
def lowerBetween (before : List Char) : List Char → List Char → List Char
  | [], _ => []
  | c :: cs, after => formBetween before c (cs ++ after) ++ lowerBetween (c :: before) cs after

theorem lowerAfter_append (before cs ds : List Char) :
    lowerAfter before (cs ++ ds) = lowerBetween before cs ds ++ lowerAfter (cs.reverse ++ before) ds := by
  induction cs generalizing before with
  | nil => rfl
  | cons c cs ih => simp [lowerAfter_cons, lowerBetween, ih]

theorem lowerBetween_append (before cs ds after : List Char) : lowerBetween before (cs ++ ds) after =
    lowerBetween before cs (ds ++ after) ++ lowerBetween (cs.reverse ++ before) ds after := by
  induction cs generalizing before with
  | nil => rfl
  | cons c cs ih => simp [lowerBetween, ih]

theorem lowerBetween_nil (cs : List Char) : lowerBetween [] cs [] = lower cs := by
  have happend := lowerAfter_append [] cs []
  rw [List.append_nil, lowerAfter, List.append_nil] at happend
  exact happend.symm

theorem lower_append₃ (start cs rest : List Char) : lower (start ++ cs ++ rest) =
    lowerBetween [] start (cs ++ rest) ++ lowerBetween start.reverse cs rest ++
      lowerAfter (cs.reverse ++ start.reverse) rest := by
  rw [List.append_assoc, lower, lowerAfter_append, lowerAfter_append, List.append_nil, List.append_assoc]

/-! ### The same forms -/

theorem forall_sigma_iff {cs : List Char} {P : List Char → List Char → Prop} :
    (∀ before after, cs = before ++ 'Σ' :: after → P before after) ↔
      ∀ i : Fin cs.length, cs[i] = 'Σ' → P (cs.take i) (cs.drop (i + 1)) := by
  constructor
  · intro h i hi
    apply h
    rw [← hi, Fin.getElem_fin, List.getElem_cons_drop, List.take_append_drop]
  · rintro h before after rfl
    simpa using h ⟨before.length, by simp⟩ (by simp)

/-- Each capital sigma of a text has the same form between the neighbours as it has in the text by itself. -/
def KeepsSigmas (start cs rest : List Char) : Prop := ∀ before after, cs = before ++ 'Σ' :: after →
  lowerSigma (before.reverse ++ start.reverse) (after ++ rest) = lowerSigma before.reverse after

instance (start cs rest : List Char) : Decidable (KeepsSigmas start cs rest) :=
  decidable_of_iff _ (forall_sigma_iff (P := fun before after =>
    lowerSigma (before.reverse ++ start.reverse) (after ++ rest) = lowerSigma before.reverse after)).symm

/-- Neighbours that give every capital sigma the same form make no difference. -/
theorem lowerBetween_congr {cs before before' after after' : List Char}
    (h : ∀ ds es, cs = ds ++ 'Σ' :: es →
      lowerSigma (ds.reverse ++ before) (es ++ after) = lowerSigma (ds.reverse ++ before') (es ++ after')) :
    lowerBetween before cs after = lowerBetween before' cs after' := by
  induction cs generalizing before before' with
  | nil => rfl
  | cons c cs ih =>
    have hform : formBetween before c (cs ++ after) = formBetween before' c (cs ++ after') := by
      by_cases hc : c = 'Σ'
      · subst hc
        rw [formBetween, formBetween, if_pos rfl, if_pos rfl]
        exact congrArg (fun d => [d]) (h [] cs rfl)
      · rw [formBetween, formBetween, if_neg hc, if_neg hc]
    have hrest : lowerBetween (c :: before) cs after = lowerBetween (c :: before') cs after' := by
      apply ih
      rintro ds es rfl
      simpa using h (c :: ds) es rfl
    rw [lowerBetween, lowerBetween, hform, hrest]

/-- A part whose capital sigmas keep their form occurs in the lower-cased whole. -/
theorem lower_infix {start cs rest : List Char} (h : KeepsSigmas start cs rest) :
    lower cs <:+: lower (start ++ cs ++ rest) := by
  have hpart : lowerBetween start.reverse cs rest = lower cs := by
    rw [← lowerBetween_nil]
    apply lowerBetween_congr
    intro ds es hcs
    simpa using h ds es hcs
  rw [lower_append₃, hpart]
  exact ⟨_, _, rfl⟩

/-! ### What a part tells by itself -/

/-- Whether a word goes on over the given neighbours, listed outwards, as far as they tell: not if all of them are
case-ignorable. -/
def goesOn? (neighbours : List Char) : Option Bool := (neighbours.find? (!isCaseIgnorable ·)).map isCased

theorem goesOn_eq (neighbours : List Char) : goesOn neighbours = (goesOn? neighbours).getD false := by
  induction neighbours with
  | nil => rfl
  | cons c cs ih =>
    rw [goesOn_cons, goesOn?, List.find?_cons]
    cases isCaseIgnorable c
    · rfl
    · exact ih

theorem goesOn?_append (cs ds : List Char) : goesOn? (cs ++ ds) = (goesOn? cs).or (goesOn? ds) := by
  rw [goesOn?, List.find?_append, Option.map_or]
  rfl

/-- A capital sigma between the neighbours ends no word, or it is known whether it does. -/
def Settles (before after : List Char) : Prop :=
  goesOn? before = some false ∨ goesOn? after = some true ∨ goesOn? before ≠ none ∧ goesOn? after ≠ none

/-- Each capital sigma of a text is settled within the text. -/
def Settled (cs : List Char) : Prop := ∀ before after, cs = before ++ 'Σ' :: after → Settles before.reverse after

instance (before after : List Char) : Decidable (Settles before after) :=
  inferInstanceAs (Decidable (_ ∨ _ ∨ _ ∧ _))

instance (cs : List Char) : Decidable (Settled cs) :=
  decidable_of_iff _ (forall_sigma_iff (P := fun before after => Settles before.reverse after)).symm

theorem lowerSigma_eq (before after : List Char) : lowerSigma before after =
    if goesOn? before = some true ∧ goesOn? after ≠ some true then 'ς' else 'σ' := by
  rw [lowerSigma, goesOn_eq, goesOn_eq]
  obtain _ | _ | _ := goesOn? before <;> obtain _ | _ | _ := goesOn? after <;> rfl

/-- A middle form stays one when the neighbours furthest before it are taken away. -/
theorem lowerSigma_middle_of_append {before start after : List Char}
    (h : lowerSigma (before ++ start) after = 'σ') : lowerSigma before after = 'σ' := by
  rw [lowerSigma_eq, goesOn?_append] at h
  rw [lowerSigma_eq]
  cases hbefore : goesOn? before with
  | none => rfl
  | some b => rwa [hbefore, Option.some_or] at h

/-- A final form stays one when the neighbours furthest behind it are taken away. -/
theorem lowerSigma_final_of_append {before after rest : List Char}
    (h : lowerSigma before (after ++ rest) = 'ς') : lowerSigma before after = 'ς' := by
  rw [lowerSigma_eq, goesOn?_append] at h
  rw [lowerSigma_eq]
  cases hafter : goesOn? after with
  | none =>
    by_cases hbefore : goesOn? before = some true
    · exact if_pos ⟨hbefore, by decide⟩
    · rw [if_neg fun hboth => hbefore hboth.1] at h
      exact absurd h (by decide)
  | some a => rwa [hafter, Option.some_or] at h

theorem Settles.lowerSigma_eq {before after : List Char} (h : Settles before after) (start rest : List Char) :
    lowerSigma (before ++ start) (after ++ rest) = lowerSigma before after := by
  rw [Text.lowerSigma_eq, Text.lowerSigma_eq, goesOn?_append, goesOn?_append]
  obtain hbefore | hafter | ⟨hbefore, hafter⟩ := h
  · simp [hbefore]
  · simp [hafter]
  · obtain ⟨b, hb⟩ := Option.ne_none_iff_exists'.mp hbefore
    obtain ⟨a, ha⟩ := Option.ne_none_iff_exists'.mp hafter
    rw [hb, ha, Option.some_or, Option.some_or]

theorem Settled.keepsSigmas {cs : List Char} (h : Settled cs) (start rest : List Char) : KeepsSigmas start cs rest :=
  fun before after hcs => (h before after hcs).lowerSigma_eq start.reverse rest

/-! ### What a letter changes -/

section

variable {x : Char} {before before' after after' : List Char}

/-- Neighbours that give a form to no capital sigma which has another one between other neighbours give it less
often. -/
theorem count_lowerBetween_le {cs : List Char} (h : ∀ ds es, cs = ds ++ 'Σ' :: es →
    lowerSigma (ds.reverse ++ before') (es ++ after') = x → lowerSigma (ds.reverse ++ before) (es ++ after) = x) :
    (lowerBetween before' cs after').count x ≤ (lowerBetween before cs after).count x := by
  induction cs generalizing before before' with
  | nil => exact Nat.le_refl _
  | cons c cs ih =>
    have hform : (formBetween before' c (cs ++ after')).count x ≤ (formBetween before c (cs ++ after)).count x := by
      by_cases hc : c = 'Σ'
      · subst hc
        have hhead : lowerSigma before' (cs ++ after') = x → lowerSigma before (cs ++ after) = x := h [] cs rfl
        rw [formBetween, formBetween, if_pos rfl, if_pos rfl, List.count_singleton, List.count_singleton]
        by_cases hx : lowerSigma before' (cs ++ after') = x
        · simp [hx, hhead hx]
        · simp [hx]
      · simp only [formBetween, if_neg hc, Nat.le_refl]
    have hrest : (lowerBetween (c :: before') cs after').count x ≤ (lowerBetween (c :: before) cs after).count x := by
      apply ih
      rintro ds es rfl
      simpa using h (c :: ds) es rfl
    rw [lowerBetween, lowerBetween, List.count_append, List.count_append]
    exact Nat.add_le_add hform hrest

/-- They give it less often still if some capital sigma has it between the other neighbours only. -/
theorem count_lowerBetween_lt {ds es : List Char} (h : ∀ bs cs, ds ++ 'Σ' :: es = bs ++ 'Σ' :: cs →
    lowerSigma (bs.reverse ++ before') (cs ++ after') = x → lowerSigma (bs.reverse ++ before) (cs ++ after) = x)
    (hx : lowerSigma (ds.reverse ++ before) (es ++ after) = x)
    (hx' : lowerSigma (ds.reverse ++ before') (es ++ after') ≠ x) :
    (lowerBetween before' (ds ++ 'Σ' :: es) after').count x < (lowerBetween before (ds ++ 'Σ' :: es) after).count x := by
  have hstart : (lowerBetween before' ds ('Σ' :: es ++ after')).count x ≤
      (lowerBetween before ds ('Σ' :: es ++ after)).count x := by
    apply count_lowerBetween_le
    rintro bs cs rfl
    simpa using h bs (cs ++ 'Σ' :: es) (by simp)
  have hrest : (lowerBetween ('Σ' :: (ds.reverse ++ before')) es after').count x ≤
      (lowerBetween ('Σ' :: (ds.reverse ++ before)) es after).count x := by
    apply count_lowerBetween_le
    rintro bs cs rfl
    simpa using h (ds ++ 'Σ' :: bs) cs (by simp)
  simp only [lowerBetween_append, lowerBetween, formBetween, if_true, List.count_append, List.count_singleton, hx,
    beq_self_eq_true, beq_eq_false_iff_ne.mpr hx', Bool.false_eq_true, if_false]
  omega

theorem not_infix_of_count_lt {start cs rest : List Char} (hstart : x ∉ lowerBetween [] start (cs ++ rest))
    (hrest : x ∉ lowerAfter (cs.reverse ++ start.reverse) rest)
    (hlt : (lowerBetween start.reverse cs rest).count x < (lowerBetween [] cs []).count x) :
    ¬lower cs <:+: lower (start ++ cs ++ rest) := by
  intro hinfix
  have hle := hinfix.sublist.count_le x
  rw [lower_append₃, List.count_append, List.count_append, List.count_eq_zero.mpr hstart,
    List.count_eq_zero.mpr hrest, ← lowerBetween_nil] at hle
  omega

end

theorem goesOn?_letter : goesOn? ['a'] = some true := by decide +kernel

theorem formBetween_letter (before after : List Char) : formBetween before 'a' after = ['a'] := by
  rw [formBetween, if_neg (by decide)]
  decide +kernel

/-- Before a text with a capital sigma that would end a word if one had begun, a letter takes away a middle form. -/
theorem not_infix_after_letter {ds es : List Char} (hbefore : goesOn? ds.reverse = none)
    (hafter : goesOn? es ≠ some true) :
    ¬lower (ds ++ 'Σ' :: es) <:+: lower (['a'] ++ (ds ++ 'Σ' :: es) ++ []) := by
  apply not_infix_of_count_lt (x := 'σ')
  · rw [lowerBetween, formBetween_letter, lowerBetween]
    decide
  · rw [lowerAfter]
    exact List.not_mem_nil
  · apply count_lowerBetween_lt
    · intro bs cs _ hsigma
      rw [List.append_nil bs.reverse]
      exact lowerSigma_middle_of_append hsigma
    · simp [lowerSigma_eq, hbefore]
    · simp [lowerSigma_eq, goesOn?_append, hbefore, goesOn?_letter, hafter]

/-- Behind a text with a capital sigma that ends a word if none goes on there, a letter takes away a final form. -/
theorem not_infix_before_letter {ds es : List Char} (hbefore : goesOn? ds.reverse = some true)
    (hafter : goesOn? es = none) :
    ¬lower (ds ++ 'Σ' :: es) <:+: lower ([] ++ (ds ++ 'Σ' :: es) ++ ['a']) := by
  apply not_infix_of_count_lt (x := 'ς')
  · rw [lowerBetween]
    exact List.not_mem_nil
  · rw [lowerAfter_cons, formBetween_letter, lowerAfter]
    decide
  · apply count_lowerBetween_lt
    · intro bs cs _ hsigma
      rw [List.append_nil cs]
      exact lowerSigma_final_of_append hsigma
    · simp [lowerSigma_eq, hbefore, hafter]
    · simp [lowerSigma_eq, goesOn?_append, hbefore, goesOn?_letter, hafter]

/-- A text that does not settle each of its capital sigmas becomes by itself what occurs nowhere in a certain
lower-cased whole. -/
theorem exists_not_infix_of_not_settled {cs : List Char} (h : ¬Settled cs) :
    ∃ start rest, ¬lower cs <:+: lower (start ++ cs ++ rest) := by
  simp only [Settled, Classical.not_forall] at h
  obtain ⟨ds, es, rfl, h⟩ := h
  obtain ⟨hfalse, htrue, hboth⟩ : goesOn? ds.reverse ≠ some false ∧ goesOn? es ≠ some true ∧
      (goesOn? ds.reverse ≠ none → goesOn? es = none) := by
    simpa only [Settles, not_or, not_and, Decidable.not_not] using h
  cases hbefore : goesOn? ds.reverse with
  | none => exact ⟨['a'], [], not_infix_after_letter hbefore htrue⟩
  | some b =>
    cases b with
    | false => exact absurd hbefore hfalse
    | true => exact ⟨[], ['a'], not_infix_before_letter hbefore (hboth (by simp [hbefore]))⟩

end FeedSieve.Text
