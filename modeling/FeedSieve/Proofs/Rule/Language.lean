import FeedSieve.Proofs.Rule.Spelling

/-! Languages in any case. Keywords are compared with a language in lower case, but the code of a language that could
not be found out is recognized only as it stands. So two spellings of one language are judged alike except for those
of that code, of which the others are taken for a language. -/

namespace FeedSieve

open Text (SameLetters)

theorem Keywords.anyIs_undetermined {k : Keywords} {l : String}
    (h : SameLetters l.toList undeterminedLanguage.toList) : k.anyIs l = true ↔ undeterminedLanguage ∈ k.words := by
  have hlower : Text.lower undeterminedLanguage.toList = undeterminedLanguage.toList := by decide +kernel
  rw [anyIs, h.lower_eq, hlower, List.any_eq_true]
  simp only [beq_iff_eq, String.toList_inj]
  constructor
  · rintro ⟨w, hw, rfl⟩
    exact hw
  · intro hmem
    exact ⟨_, hmem, rfl⟩

namespace Condition

variable {k : Keywords} {l m : String}

theorem languageMatches_some_iff : languageMatches k (some l) = true ↔
    l ≠ "" ∧ l ≠ undeterminedLanguage ∧ (k.words = [] ∨ k.anyIs l = true) := by
  simp [languageMatches, and_assoc]

/-- The code itself matches nothing, not even if it is asked for. -/
theorem languageMatches_undetermined (k : Keywords) : languageMatches k (some undeterminedLanguage) = false := by
  rw [Bool.eq_false_iff]
  exact fun h => (languageMatches_some_iff.mp h).2.1 rfl

/-- Another spelling of the code matches as any language would. -/
theorem languageMatches_misspelt_iff (h : SameLetters l.toList undeterminedLanguage.toList)
    (hne : l ≠ undeterminedLanguage) :
    languageMatches k (some l) = true ↔ k.words = [] ∨ undeterminedLanguage ∈ k.words := by
  have hempty : l ≠ "" := by
    rintro rfl
    exact absurd (h.eq_nil_iff.mp rfl) (by decide)
  rw [languageMatches_some_iff, Keywords.anyIs_undetermined h]
  exact ⟨fun hall => hall.2.2, fun hk => ⟨hempty, hne, hk⟩⟩

theorem languageMatches_of_sameLetters (h : SameLetters l.toList m.toList)
    (hund : l = undeterminedLanguage ↔ m = undeterminedLanguage) :
    languageMatches k (some l) = languageMatches k (some m) := by
  have hempty : l = "" ↔ m = "" := by
    rw [← String.toList_eq_nil_iff, ← String.toList_eq_nil_iff]
    exact h.eq_nil_iff
  rw [Bool.eq_iff_iff, languageMatches_some_iff, languageMatches_some_iff, k.anyIs_of_sameLetters h, ne_eq, ne_eq,
    hempty, hund, ne_eq, ne_eq]

/-- Where only one of two spellings is the code itself, they are judged alike just if neither of them is kept. -/
theorem languageMatches_eq_iff_of_misspelt (h : SameLetters l.toList undeterminedLanguage.toList)
    (hne : l ≠ undeterminedLanguage) :
    languageMatches k (some l) = languageMatches k (some undeterminedLanguage) ↔
      k.words ≠ [] ∧ undeterminedLanguage ∉ k.words := by
  rw [languageMatches_undetermined, Bool.eq_false_iff, ne_eq, languageMatches_misspelt_iff h hne, not_or]

theorem languageMatches_eq_iff (h : SameLetters l.toList m.toList) :
    languageMatches k (some l) = languageMatches k (some m) ↔
      (l = undeterminedLanguage ↔ m = undeterminedLanguage) ∨ k.words ≠ [] ∧ undeterminedLanguage ∉ k.words := by
  by_cases hl : l = undeterminedLanguage
  · by_cases hm : m = undeterminedLanguage
    · exact iff_of_true (languageMatches_of_sameLetters h (iff_of_true hl hm)) (.inl (iff_of_true hl hm))
    · subst hl
      rw [eq_comm, languageMatches_eq_iff_of_misspelt h.symm hm]
      simp [hm]
  · by_cases hm : m = undeterminedLanguage
    · subst hm
      rw [languageMatches_eq_iff_of_misspelt h hl]
      simp [hl]
    · exact iff_of_true (languageMatches_of_sameLetters h (iff_of_false hl hm)) (.inl (iff_of_false hl hm))

end Condition

namespace KeywordForm

theorem holds_language (kept : Bool) (k : Keywords) {t : Tweet} {l : String} (h : t.language = .value l) :
    ((language kept).condition k).holds t = (Condition.languageMatches k (some l) == kept) := by
  cases kept <;> simp [condition, Condition.holds, h, Presence.get?]

/-- Two records whose languages differ only in the case of letters get the same verdict from each set of keywords,
unless one of them is the code of an undetermined language and the other is that code in another case. Records with
the code itself are never kept with a language and always without one; of those with another spelling of it, the ones
kept with a language are those for which any language or that code is asked. -/
theorem holds_language_of_sameLetters (k : Keywords) {t u : Tweet} {l m : String} (ht : t.language = .value l)
    (hu : u.language = .value m) (h : SameLetters l.toList m.toList) :
    (∀ kept, ((language kept).condition k).holds t = ((language kept).condition k).holds u ↔
      (l = "und" ↔ m = "und") ∨ k.words ≠ [] ∧ "und" ∉ k.words) ∧
    (l = "und" → ∀ kept, ((language kept).condition k).holds t = !kept) ∧
    (SameLetters l.toList "und".toList → l ≠ "und" →
      ∀ kept, ((language kept).condition k).holds t = kept ↔ k.words = [] ∨ "und" ∈ k.words) := by
  refine ⟨fun kept => ?_, ?_, fun hund hne kept => ?_⟩
  · rw [holds_language kept k ht, holds_language kept k hu]
    have hsame := Condition.languageMatches_eq_iff (k := k) h
    rw [undeterminedLanguage] at hsame
    rw [← hsame]
    cases kept <;> simp
  · rintro rfl kept
    have hnever : Condition.languageMatches k (some "und") = false := Condition.languageMatches_undetermined k
    rw [holds_language kept k ht, hnever]
    cases kept <;> rfl
  · have hmatches := Condition.languageMatches_misspelt_iff (k := k) hund hne
    rw [undeterminedLanguage] at hmatches
    rw [holds_language kept k ht, ← hmatches]
    cases kept <;> simp

/-- Two spellings of a language, and one of the code of an undetermined language, which is asked for. -/
theorem holds_language_of_sameLetters_french : ∃ t u : Tweet, t.language = .value "Fr" ∧ u.language = .value "fR" ∧
    ((language true).condition (.ofList ["FR", "und"])).holds t =
      ((language true).condition (.ofList ["FR", "und"])).holds u ∧
    ∃ v : Tweet, v.language = .value "Und" ∧ ((language true).condition (.ofList ["FR", "und"])).holds v = true := by
  have hfrench : SameLetters "Fr".toList "fR".toList := by simp [SameLetters]
  have hcode : SameLetters "Und".toList "und".toList := by simp [SameLetters]
  refine ⟨{ language := .value "Fr" }, { language := .value "fR" }, rfl, rfl, ?_, { language := .value "Und" }, rfl, ?_⟩
  · exact ((holds_language_of_sameLetters _ rfl rfl hfrench).1 true).mpr (.inl (by decide))
  · refine ((holds_language_of_sameLetters (m := "und") (u := { language := .value "und" }) _ rfl rfl hcode).2.2 hcode
      (by decide) true).mpr (.inr ?_)
    decide +kernel

/-- The code of an undetermined language is not kept though asked for, and in capitals it is, so that two spellings of
one language are judged differently. -/
theorem language_undetermined_capitals :
    SameLetters "UND".toList "und".toList ∧
    ((language true).condition (.ofString "und")).holds { language := .value "UND" } = true ∧
    ((language true).condition (.ofString "und")).holds { language := .value "und" } = false ∧
    ((language false).condition (.ofString "und")).holds { language := .value "UND" } = false ∧
    ((language true).condition .none).holds { language := .value "UND" } = true := by
  refine ⟨by simp [SameLetters], ?_⟩
  decide +kernel

end KeywordForm

end FeedSieve
