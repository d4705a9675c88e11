import FeedSieve.Proofs.Text.Sigma
import FeedSieve.Rule.Catalogue

/-! Sources that have a keyword in them as it is written. The keyword and the source are lower-cased apart, each as a
whole. So the keyword is found again if its capital sigmas become in the source what they become in the keyword, and
it is found in every such source just if the keyword alone tells what they become. -/

namespace FeedSieve

open Text (IsTrimmed KeepsSigmas Settled)

namespace Keywords

theorem anyIn_iff {k : Keywords} {text : String} :
    k.anyIn text = true ↔ ∃ w ∈ k.words, w.toList <:+: Text.lower text.toList := by
  simp only [anyIn, List.any_eq_true, Text.occursIn_iff]

variable {k text : String}

theorem toList_foldWord (htrimmed : IsTrimmed k.toList) : (foldWord k).toList = Text.lower k.toList := by
  rw [foldWord, Text.trim_of_isTrimmed htrimmed, String.toList_ofList]

variable (hne : k ≠ "") (htrimmed : IsTrimmed k.toList)

include hne htrimmed

theorem foldWord_ne_empty : foldWord k ≠ "" := by
  rw [ne_eq, ← String.toList_eq_nil_iff, toList_foldWord htrimmed, Text.lower_eq_nil_iff, String.toList_eq_nil_iff]
  exact hne

theorem mem_words_ofList {ws : List String} (hmem : k ∈ ws) : foldWord k ∈ (ofList ws).words := by
  rw [ofList, List.mem_filter, List.mem_map]
  exact ⟨⟨k, hmem, rfl⟩, by simpa using foldWord_ne_empty hne htrimmed⟩

theorem anyIn_ofList_of_infix {ws : List String} (hmem : k ∈ ws) (h : Text.lower k.toList <:+: Text.lower text.toList) :
    (ofList ws).anyIn text = true := by
  rw [← toList_foldWord htrimmed] at h
  exact anyIn_iff.mpr ⟨_, mem_words_ofList hne htrimmed hmem, h⟩

theorem infix_of_anyIn_ofString (h : (ofString k).anyIn text = true) :
    Text.lower k.toList <:+: Text.lower text.toList := by
  have hwords : (ofString k).words = [foldWord k] := by
    simp [ofString, ofList, foldWord_ne_empty hne htrimmed]
  obtain ⟨w, hw, hinfix⟩ := anyIn_iff.mp h
  rw [hwords, List.mem_singleton] at hw
  rwa [hw, toList_foldWord htrimmed] at hinfix

end Keywords

namespace KeywordForm

theorem holds_source (kept : Bool) (k : Keywords) {t : Tweet} {s : String} (h : t.source = .value s) :
    ((source kept).condition k).holds t = (Condition.sourceMatches k (some s) == kept) := by
  cases kept <;> simp [condition, Condition.holds, h, Presence.get?]

section

variable {k : String} (hne : k ≠ "") (htrimmed : IsTrimmed k.toList)

include hne htrimmed

theorem holds_source_of_keepsSigmas {ws : List String} (hmem : k ∈ ws) {a b : String}
    (hkeeps : KeepsSigmas a.toList k.toList b.toList) {t : Tweet} (ht : t.source = .value (a ++ k ++ b)) (kept : Bool) :
    ((source kept).condition (.ofList ws)).holds t = kept := by
  have hany : (Keywords.ofList ws).anyIn (a ++ k ++ b) = true := by
    apply Keywords.anyIn_ofList_of_infix hne htrimmed hmem
    rw [String.toList_append, String.toList_append]
    exact Text.lower_infix hkeeps
  have hsource : a ++ k ++ b ≠ "" := by simp [hne]
  rw [holds_source kept _ ht, Condition.sourceMatches, hany]
  simp [hsource]

/-- What an unsettled keyword becomes alone it does not become between all texts. -/
theorem exists_source_not_matching (h : ¬Settled k.toList) :
    ∃ a b, Condition.sourceMatches (.ofString k) (some (a ++ k ++ b)) = false := by
  obtain ⟨start, rest, hinfix⟩ := Text.exists_not_infix_of_not_settled h
  refine ⟨String.ofList start, String.ofList rest, ?_⟩
  rw [Condition.sourceMatches, Bool.and_eq_false_iff, Bool.eq_false_iff (b := Keywords.anyIn _ _)]
  refine .inr fun hany => hinfix ?_
  have hlower := Keywords.infix_of_anyIn_ofString hne htrimmed hany
  rwa [String.toList_append, String.toList_append, String.toList_ofList, String.toList_ofList] at hlower

end

/-- A source that has a keyword in it, between any two texts, matches each list with that keyword if the capital sigmas
of the keyword have the same form between those texts as they have in the keyword alone. The keyword matches between
any two texts just if it settles the forms of its capital sigmas itself. -/
theorem holds_source_of_keyword {k : String} (hne : k ≠ "") (htrimmed : IsTrimmed k.toList) :
    (∀ kept ws a b t, k ∈ ws → t.source = .value (a ++ k ++ b) → KeepsSigmas a.toList k.toList b.toList →
      ((source kept).condition (.ofList ws)).holds t = kept) ∧
    ((∀ kept ws a b t, k ∈ ws → t.source = .value (a ++ k ++ b) →
      ((source kept).condition (.ofList ws)).holds t = kept) ↔ Settled k.toList) := by
  refine ⟨fun kept ws a b t hmem ht hkeeps => ?_, fun hall => ?_, fun hsettled kept ws a b t hmem ht => ?_⟩
  · exact holds_source_of_keepsSigmas hne htrimmed hmem hkeeps ht kept
  · refine Decidable.byContradiction fun hnot => ?_
    obtain ⟨a, b, hmatches⟩ := exists_source_not_matching hne htrimmed hnot
    have hholds := hall true [k] a b { source := .value (a ++ k ++ b) } (List.mem_singleton_self k) rfl
    rw [holds_source true _ rfl, ← Keywords.ofString, hmatches] at hholds
    exact absurd hholds (by decide)
  · exact holds_source_of_keepsSigmas hne htrimmed hmem (hsettled.keepsSigmas _ _) ht kept

/-- One keyword ends in a capital sigma and stands at the end of a word, the other has one within. -/
theorem holds_source_of_keyword_greek :
    ((source false).condition (.ofList ["web", "ΟΔΟΣ"])).holds { source := .value "Η ΟΔΟΣ 5" } = false ∧
    ∀ kept a b, ((source kept).condition (.ofList ["ΜΟΥΣΙΚΗ"])).holds { source := .value (a ++ "ΜΟΥΣΙΚΗ" ++ b) } =
      kept := by
  have htrimmed : IsTrimmed "ΟΔΟΣ".toList ∧ IsTrimmed "ΜΟΥΣΙΚΗ".toList := by simp [IsTrimmed]; decide
  have hkeeps : KeepsSigmas "Η ".toList "ΟΔΟΣ".toList " 5".toList := by decide +kernel
  have hsettled : Settled "ΜΟΥΣΙΚΗ".toList := by decide +kernel
  constructor
  · exact (holds_source_of_keyword (by decide) htrimmed.1).1 false _ "Η " " 5" _ (by decide) rfl hkeeps
  · intro kept a b
    exact (holds_source_of_keyword (by decide) htrimmed.2).2.mpr hsettled kept _ a b _ (by decide) rfl

/-- A keyword that ends in a capital sigma, and a source in which the word goes on. -/
theorem source_sigma_within_word :
    "" ++ "ΟΔΟΣ" ++ "Α" = "ΟΔΟΣΑ" ∧ IsTrimmed "ΟΔΟΣ".toList ∧
    ((source true).condition (.ofString "ΟΔΟΣ")).holds { source := .value "ΟΔΟΣΑ" } = false ∧
    ((source false).condition (.ofString "ΟΔΟΣ")).holds { source := .value "ΟΔΟΣΑ" } = true := by
  refine ⟨rfl, by simp [IsTrimmed]; decide, ?_⟩
  decide +kernel

end KeywordForm

end FeedSieve
