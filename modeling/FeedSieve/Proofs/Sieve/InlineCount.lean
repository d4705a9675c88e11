import FeedSieve.Proofs.Rule.HashtagCount
import FeedSieve.Proofs.Sieve.InlineKeyword

/-! A number of hashtags inline. Two readers share the work there: one takes a whole piece for a number if it fits 64
bits, and the other looks for a number at the beginning of a text and cuts it off. Where the first one reads a number
the second reads the same, so it makes no difference which of them a piece goes to. -/

namespace FeedSieve

/-- A text that is trimmed and has no commas asks for the same number of hashtags inline as in a document. -/
theorem Declaration.ofArgument_inlineArgument {text : String} (hne : text.toList ≠ [])
    (htrimmed : Text.IsTrimmed text.toList) (hcomma : ',' ∉ text.toList) :
    HashtagCount.ofArgument (inlineArgument text.toList) = HashtagCount.ofArgument (.string text) := by
  by_cases h : ∃ n, WritesWord n text.toList
  · obtain ⟨n, hn⟩ := h
    rw [inlineArgument_of_word hne htrimmed hcomma hn, HashtagCount.ofArgument_of_writesWord hn]
  · rw [inlineArgument_of_no_word hne htrimmed hcomma (not_exists.mp h), String.ofList_toList]

namespace Sieve

open Declaration (WritesWord)

/-- A demand for hashtags can always be written inline with a text for the number. The text becomes a number if it
writes one within 64 bits and stays a text otherwise; in both cases an open sieve adopts the declaration as it adopts
the one that has the text in a document, which puts the same demand behind the other rules. -/
theorem adopt_inline_count {text : String} (hne : text ≠ "") (htrimmed : Text.IsTrimmed text.toList)
    (hcomma : ',' ∉ text.toList) : ∃ d, Declaration.ofInline ("withHashtags=" ++ text) = .ok d ∧
      (∀ n, WritesWord n text.toList → d.argument = .number (.ofWord n)) ∧
      ((∀ n, ¬WritesWord n text.toList) → d.argument = .string text) ∧
      ∀ s : Sieve, s.isSealed = false →
        s.adopt [.declare ⟨"withHashtags", .string text⟩] =
          (⟨s.rules ++ [hashtagRule (.ofArgument (.string text))], true⟩, ⟨.ok (), true, [s.size + 1]⟩) ∧
        s.adopt [.declare d] = s.adopt [.declare ⟨"withHashtags", .string text⟩] := by
  have hne' : text.toList ≠ [] := by simpa using hne
  have htrimmedName : Text.IsTrimmed "withHashtags".toList := by decide
  have hinline := Declaration.ofInline_of_name (by decide) htrimmedName (by decide) text
  refine ⟨_, hinline, fun n hn => Declaration.inlineArgument_of_word hne' htrimmed hcomma hn, fun hnone => ?_,
    fun s hs => ?_⟩
  · show Declaration.inlineArgument text.toList = .string text
    rw [Declaration.inlineArgument_of_no_word hne' htrimmed hcomma hnone, String.ofList_toList]
  · have hadopt : ∀ argument : Json, s.adopt [.declare ⟨"withHashtags", argument⟩] =
        (⟨s.rules ++ [hashtagRule (.ofArgument argument)], true⟩, ⟨.ok (), true, [s.size + 1]⟩) := by
      intro argument
      have hrule : Declaration.rule ⟨"withHashtags", argument⟩ = .ok (hashtagRule (.ofArgument argument)) :=
        Declaration.rule_form .hashtags argument
      exact adopt_step_of_ok hs (by rw [Step.rule?, hrule, map_ok])
    refine ⟨hadopt _, ?_⟩
    rw [hadopt, hadopt, Declaration.ofArgument_inlineArgument hne' htrimmed hcomma]

/-- A numeral with a plus and zeros, one that is too large by one, and a text that begins with a number. -/
theorem adopt_inline_count_signed :
    (∃ d, Declaration.ofInline "withHashtags=+007" = .ok d ∧ d.argument = .number (.ofWord 7) ∧
      empty.adopt [.declare d] = empty.adopt [.declare ⟨"withHashtags", .string "+007"⟩]) ∧
    (∃ d, Declaration.ofInline "withHashtags=18446744073709551616" = .ok d ∧
      d.argument = .string "18446744073709551616" ∧
      empty.adopt [.declare d] = empty.adopt [.declare ⟨"withHashtags", .string "18446744073709551616"⟩]) ∧
    ∃ d, Declaration.ofInline "withHashtags=2 = x" = .ok d ∧ d.argument = .string "2 = x" ∧
      empty.adopt [.declare d] = empty.adopt [.declare ⟨"withHashtags", .string "2 = x"⟩] := by
  have hsigned : "+007" ≠ "" := by decide
  have hlarge : "18446744073709551616" ≠ "" := by decide
  have hother : "2 = x" ≠ "" := by decide
  obtain ⟨d₁, hread₁, hword₁, -, hadopt₁⟩ := adopt_inline_count hsigned (by decide) (by decide)
  obtain ⟨d₂, hread₂, -, htext₂, hadopt₂⟩ := adopt_inline_count hlarge (by decide) (by decide)
  obtain ⟨d₃, hread₃, -, htext₃, hadopt₃⟩ := adopt_inline_count hother (by decide) (by decide)
  refine ⟨⟨d₁, hread₁, hword₁ 7 (Declaration.wordOf?_eq_some_iff.mp (by decide)), (hadopt₁ empty rfl).2⟩,
    ⟨d₂, hread₂, htext₂ (Declaration.wordOf?_eq_none_iff.mp (by decide)), (hadopt₂ empty rfl).2⟩,
    ⟨d₃, hread₃, htext₃ (Declaration.wordOf?_eq_none_iff.mp (by decide)), (hadopt₃ empty rfl).2⟩⟩

end Sieve

end FeedSieve
