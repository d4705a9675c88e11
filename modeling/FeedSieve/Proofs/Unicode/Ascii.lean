import FeedSieve.Unicode.Blank
import FeedSieve.Unicode.CaseIgnorable
import FeedSieve.Unicode.Cased
import FeedSieve.Unicode.Lowercase

/-! Lower-casing within seven bits. Of all runs of capitals only the first lies there, so letters of the
Latin alphabet are lower-cased as usual and every other such character is its own form. A capital of that
alphabet has the properties of its small letter as far as lower-casing asks for them. -/

namespace FeedSieve.Unicode

theorem le_first_of_mem_tail : ∀ r ∈ capitalRuns.tail, 0x80 ≤ r.first := by decide +kernel

theorem find?_capitalRuns {n : Nat} (h : n < 0x80) :
    capitalRuns.find? (·.contains n) = if 0x41 ≤ n ∧ n ≤ 0x5A then some ⟨0x41, 0x5A, 1, 0x61⟩ else none := by
  have htail : capitalRuns.tail.find? (·.contains n) = none := by
    rw [List.find?_eq_none]
    intro r hr
    have := le_first_of_mem_tail r hr
    simp only [CapitalRun.contains, Bool.and_eq_true, decide_eq_true_eq]
    omega
  have hcons : capitalRuns = ⟨0x41, 0x5A, 1, 0x61⟩ :: capitalRuns.tail := rfl
  rw [hcons, List.find?_cons, htail]
  simp only [CapitalRun.contains, Nat.mod_one, beq_self_eq_true, Bool.and_true]
  by_cases hn : 0x41 ≤ n ∧ n ≤ 0x5A
  · simp [hn]
  · rw [if_neg hn]
    have : (decide (0x41 ≤ n) && decide (n ≤ 0x5A)) = false := by simpa [Decidable.not_and_iff_or_not] using hn
    rw [this]

theorem toLower_ofNat : ∀ n < 0x80, (Char.ofNat n).toLower =
    if 0x41 ≤ n ∧ n ≤ 0x5A then Char.ofNat (0x61 + (n - 0x41)) else Char.ofNat n := by decide

theorem lowerChar_of_lt {c : Char} (h : c.toNat < 0x80) : lowerChar c = [c.toLower] := by
  have hdotted : c ≠ '\u0130' := by
    rintro rfl
    exact absurd h (by decide)
  have hlower := toLower_ofNat c.toNat h
  rw [Char.ofNat_toNat] at hlower
  rw [lowerChar, if_neg hdotted, lowerOne, find?_capitalRuns h, hlower]
  by_cases hn : 0x41 ≤ c.toNat ∧ c.toNat ≤ 0x5A
  · rw [if_pos hn, if_pos hn]
  · rw [if_neg hn, if_neg hn]

/-! ### Capitals and small letters -/

theorem toLower_of_le {c : Char} (h : 0x80 ≤ c.toNat) : c.toLower = c := by
  refine dif_neg ?_
  simp only [ge_iff_le, UInt32.le_iff_toNat_le, not_and, Nat.not_le]
  exact fun _ => Nat.lt_of_lt_of_le (by decide) h

/-- What makes no difference between capitals and small letters within seven bits makes none at all. -/
theorem congr_toLower {α : Type} {f : Char → α} (h : ∀ n < 0x80, f (Char.ofNat n).toLower = f (Char.ofNat n))
    (c : Char) : f c.toLower = f c := by
  by_cases hc : c.toNat < 0x80
  · have hn := h c.toNat hc
    rwa [Char.ofNat_toNat] at hn
  · rw [toLower_of_le (Nat.le_of_not_lt hc)]

theorem toLower_lt : ∀ n < 0x80, (Char.ofNat n).toNat < 0x80 ∧ (Char.ofNat n).toLower.toNat < 0x80 ∧
    (Char.ofNat n).toLower.toLower = (Char.ofNat n).toLower := by decide

theorem lowerChar_toLower (c : Char) : lowerChar c.toLower = lowerChar c := by
  refine congr_toLower (fun n hn => ?_) c
  obtain ⟨hlt, hlower, htwice⟩ := toLower_lt n hn
  rw [lowerChar_of_lt hlower, lowerChar_of_lt hlt, htwice]

/-- Below a bound only the ranges that begin there count. -/
theorem contains_filter (rs : Ranges) {n bound : Nat} (h : n < bound) :
    rs.contains n = Ranges.contains (rs.filter (·.1 < bound)) n := by
  rw [Bool.eq_iff_iff, Ranges.contains_iff, Ranges.contains_iff]
  simp only [List.mem_filter, decide_eq_true_eq]
  refine exists_congr fun r => ⟨fun ⟨hr, hfirst, hlast⟩ => ?_, fun ⟨⟨hr, _⟩, hin⟩ => ⟨hr, hin⟩⟩
  exact ⟨⟨hr, Nat.lt_of_le_of_lt hfirst h⟩, hfirst, hlast⟩

/-- Below 0x80 none of these properties tells a capital from its small letter. -/
theorem filter_contains_toLower : ∀ rs ∈ [casedRanges, caseIgnorableRanges, blankRanges], ∀ n < 0x80,
    Ranges.contains (rs.filter (·.1 < 0x80)) (Char.ofNat n).toLower.toNat =
      Ranges.contains (rs.filter (·.1 < 0x80)) (Char.ofNat n).toNat := by decide +kernel

theorem contains_toLower {rs : Ranges} (hrs : rs ∈ [casedRanges, caseIgnorableRanges, blankRanges]) (c : Char) :
    rs.contains c.toLower.toNat = rs.contains c.toNat := by
  refine congr_toLower (f := fun c => rs.contains c.toNat) (fun n hn => ?_) c
  obtain ⟨hlt, hlower, -⟩ := toLower_lt n hn
  simpa only [contains_filter rs hlt, contains_filter rs hlower] using filter_contains_toLower rs hrs n hn

theorem isCased_toLower (c : Char) : isCased c.toLower = isCased c := contains_toLower (by simp) c

theorem isCaseIgnorable_toLower (c : Char) : isCaseIgnorable c.toLower = isCaseIgnorable c :=
  contains_toLower (by simp) c

theorem isBlank_toLower (c : Char) : isBlank c.toLower = isBlank c := contains_toLower (by simp) c

end FeedSieve.Unicode
