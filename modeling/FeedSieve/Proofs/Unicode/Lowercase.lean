import Mathlib.Data.List.Chain
import FeedSieve.Unicode.Blank
import FeedSieve.Unicode.Lowercase

/-! Lower-case forms are final. No run of capitals has its lower-case forms in a run of capitals or among the
blanks, so the characters of a lower-case form are their own forms, and only a blank has a blank in its
form. -/

namespace FeedSieve.Unicode

/-- The lower-case forms of the first run lie outside of the second: before it, after it, or between its
capitals. -/
def CapitalRun.misses (r q : CapitalRun) : Bool :=
  r.target + (r.last - r.first) < q.first || q.last < r.target ||
    (r.stride == 2 || r.first == r.last) && q.stride == 2 && (r.target + q.first) % 2 == 1

/-- The lower-case forms of a run lie outside of a closed range. -/
def CapitalRun.avoids (r : CapitalRun) (range : Nat × Nat) : Bool :=
  r.target + (r.last - r.first) < range.1 || range.2 < r.target

/-- What lies in no lower-case form: the dotted capital I, the surrogates and the blanks. -/
def formless : Ranges := (0x130, 0x130) :: (0xD800, 0xDFFF) :: blankRanges

/-- The lower-case forms of a run lie outside of ascending runs: those in front of the forms are passed over, and
those behind the first that begins behind the forms are not looked at. -/
def CapitalRun.clears (r : CapitalRun) : List CapitalRun → Bool
  | [] => true
  | q :: qs =>
    bif q.last.blt r.target then r.clears qs
    else (r.target + (r.last - r.first)).blt q.first || r.misses q && r.clears qs

theorem ascending_capitalRuns : capitalRuns.Pairwise (·.first ≤ ·.first) := by
  have h : (capitalRuns.map (·.first)).IsChain (· ≤ ·) := by decide +kernel
  exact List.pairwise_map.mp (List.isChain_iff_pairwise.mp h)

theorem CapitalRun.misses_of_clears {r : CapitalRun} {qs : List CapitalRun} (hqs : qs.Pairwise (·.first ≤ ·.first))
    (h : r.clears qs = true) : ∀ q ∈ qs, r.misses q = true := by
  induction qs with
  | nil => simp
  | cons q qs ih =>
    obtain ⟨hfirst, hqs⟩ := List.pairwise_cons.mp hqs
    rw [CapitalRun.clears, Bool.cond_eq_ite] at h
    split at h
    · next hafter =>
      rw [Nat.blt_eq] at hafter
      exact List.forall_mem_cons.mpr ⟨by simp [CapitalRun.misses, hafter], ih hqs h⟩
    · obtain hbefore | hmisses := Bool.or_eq_true_iff.mp h
      · rw [Nat.blt_eq] at hbefore
        intro p hp
        have hp : q.first ≤ p.first := (List.mem_cons.mp hp).elim (fun heq => heq ▸ le_rfl) (hfirst p)
        simp [CapitalRun.misses, hbefore.trans_le hp]
      · obtain ⟨hq, hrest⟩ := Bool.and_eq_true_iff.mp hmisses
        exact List.forall_mem_cons.mpr ⟨hq, ih hqs hrest⟩

theorem misses_capitalRuns : ∀ r ∈ capitalRuns, ∀ q ∈ capitalRuns, r.misses q = true := by
  have h : capitalRuns.all (·.clears capitalRuns) = true := by decide +kernel
  intro r hr
  exact CapitalRun.misses_of_clears ascending_capitalRuns (List.all_eq_true.mp h r hr)

theorem avoids_formless : ∀ r ∈ capitalRuns, ∀ range ∈ formless, r.avoids range = true := by
  have h : capitalRuns.all (fun r => formless.all r.avoids) = true := by decide +kernel
  simpa only [List.all_eq_true] using h

theorem target_lt : ∀ r ∈ capitalRuns, r.target + (r.last - r.first) < 0x110000 := by
  have h : capitalRuns.all (fun r => r.target + (r.last - r.first) < 0x110000) = true := by decide +kernel
  simpa only [List.all_eq_true, decide_eq_true_eq] using h

section

variable {r : CapitalRun} {n : Nat}

theorem CapitalRun.contains_iff :
    r.contains n = true ↔ r.first ≤ n ∧ n ≤ r.last ∧ (n - r.first) % r.stride = 0 := by
  simp only [CapitalRun.contains, Bool.and_eq_true, decide_eq_true_eq, beq_iff_eq, and_assoc]

theorem contains_target (hr : r ∈ capitalRuns) (hn : r.contains n = true) {q : CapitalRun} (hq : q ∈ capitalRuns) :
    q.contains (r.target + (n - r.first)) = false := by
  obtain ⟨hfirst, hlast, hstep⟩ := CapitalRun.contains_iff.mp hn
  have hmisses := misses_capitalRuns r hr q hq
  simp only [CapitalRun.misses, Bool.or_eq_true, Bool.and_eq_true, decide_eq_true_eq, beq_iff_eq] at hmisses
  rw [Bool.eq_false_iff]
  intro hcontains
  obtain ⟨hqfirst, hqlast, hqstep⟩ := CapitalRun.contains_iff.mp hcontains
  rcases hmisses with (hbefore | hafter) | ⟨⟨hstride | hsingle, hqstride⟩, hodd⟩
  · omega
  · omega
  · rw [hstride] at hstep
    rw [hqstride] at hqstep
    omega
  · rw [hqstride] at hqstep
    omega

theorem not_formless_target (hr : r ∈ capitalRuns) (hn : r.contains n = true) :
    ∀ range ∈ formless, ¬(range.1 ≤ r.target + (n - r.first) ∧ r.target + (n - r.first) ≤ range.2) := by
  intro range hrange
  obtain ⟨hfirst, hlast, -⟩ := CapitalRun.contains_iff.mp hn
  have havoids := avoids_formless r hr range hrange
  simp only [CapitalRun.avoids, Bool.or_eq_true, decide_eq_true_eq] at havoids
  omega

end

/-- A character is its own lower-case form, or a capital of some run. -/
theorem lowerOne_cases (c : Char) : lowerOne c = c ∧ (∀ q ∈ capitalRuns, q.contains c.toNat = false) ∨
    ∃ r ∈ capitalRuns, r.contains c.toNat = true ∧ (lowerOne c).toNat = r.target + (c.toNat - r.first) := by
  rw [lowerOne]
  cases hfind : capitalRuns.find? (·.contains c.toNat) with
  | none =>
    refine .inl ⟨rfl, fun q hq => ?_⟩
    have hnone := List.find?_eq_none.mp hfind q hq
    simpa only [Bool.not_eq_true] using hnone
  | some r =>
    have hr := List.mem_of_find?_eq_some hfind
    have hn : r.contains c.toNat = true := by simpa using List.find?_some hfind
    refine .inr ⟨r, hr, hn, ?_⟩
    have hsurrogate := not_formless_target hr hn (0xD800, 0xDFFF) (by simp [formless])
    have hbound := target_lt r hr
    obtain ⟨hfirst, hlast, -⟩ := CapitalRun.contains_iff.mp hn
    have hvalid : (r.target + (c.toNat - r.first)).isValidChar := by
      simp only at hsurrogate
      unfold Nat.isValidChar
      omega
    show (Char.ofNat (r.target + (c.toNat - r.first))).toNat = _
    rw [Char.ofNat, dif_pos hvalid]
    rfl

theorem lowerChar_lowerOne (c : Char) (hc : c ≠ '\u0130') : lowerChar (lowerOne c) = [lowerOne c] := by
  rcases lowerOne_cases c with ⟨hself, hmiss⟩ | ⟨r, hr, hn, hform⟩
  · rw [hself, lowerChar, if_neg hc, hself]
  · have hdotted : lowerOne c ≠ '\u0130' := by
      intro heq
      rw [heq] at hform
      have havoid := not_formless_target hr hn (0x130, 0x130) (by simp [formless])
      rw [← hform] at havoid
      exact havoid (by decide)
    have hfind : capitalRuns.find? (·.contains (lowerOne c).toNat) = none := by
      rw [List.find?_eq_none]
      intro q hq
      rw [hform, contains_target hr hn hq]
      exact Bool.false_ne_true
    rw [lowerChar, if_neg hdotted, lowerOne, hfind]

/-- The characters of a lower-case form are their own lower-case forms. -/
theorem lowerChar_of_mem_lowerChar {c d : Char} (h : d ∈ lowerChar c) : lowerChar d = [d] := by
  by_cases hc : c = '\u0130'
  · subst hc
    have hd : d = 'i' ∨ d = '\u0307' := by simpa [lowerChar] using h
    rcases hd with rfl | rfl <;> decide +kernel
  · rw [lowerChar, if_neg hc] at h
    obtain rfl := List.mem_singleton.mp h
    exact lowerChar_lowerOne c hc

theorem isBlank_of_mem_lowerChar {c d : Char} (hc : isBlank c = false) (h : d ∈ lowerChar c) : isBlank d = false := by
  by_cases hdotted : c = '\u0130'
  · subst hdotted
    have hd : d = 'i' ∨ d = '\u0307' := by simpa [lowerChar] using h
    rcases hd with rfl | rfl <;> decide
  · rw [lowerChar, if_neg hdotted] at h
    obtain rfl := List.mem_singleton.mp h
    rcases lowerOne_cases c with ⟨hself, -⟩ | ⟨r, hr, hn, hform⟩
    · rw [hself, hc]
    · rw [Bool.eq_false_iff]
      intro hblank
      obtain ⟨range, hrange, hin⟩ := Ranges.contains_iff.mp hblank
      rw [hform] at hin
      exact not_formless_target hr hn range (by simp [formless, hrange]) hin

theorem lowerChar_ne_nil (c : Char) : lowerChar c ≠ [] := by
  rw [lowerChar]
  split <;> exact List.cons_ne_nil _ _

end FeedSieve.Unicode
