import FeedSieve.Proofs.Rule.Arguments
import FeedSieve.Proofs.Rule.Inline
import FeedSieve.Proofs.Sieve.Draft

/-! One keyword inline. Whether a piece writes a number is decided before it is known which declaration it is for. A
declaration that takes keywords has no use for a number, so it takes each keyword for what it is except for numerals
within 64 bits, which it refuses. -/

namespace FeedSieve

theorem KeywordForm.ne_empty_name (f : KeywordForm) : f.name ≠ "" := by
  rcases f with (_ | _) | (_ | _) <;> decide

theorem KeywordForm.isTrimmed_name (f : KeywordForm) : Text.IsTrimmed f.name.toList := by
  rcases f with (_ | _) | (_ | _) <;> simp [Text.IsTrimmed, KeywordForm.name] <;> decide

theorem KeywordForm.equals_notMem_name (f : KeywordForm) : '=' ∉ f.name.toList := by
  rcases f with (_ | _) | (_ | _) <;> decide

namespace Sieve

variable {s : Sieve} (hs : s.isSealed = false) {step : Step}

include hs

theorem adopt_step_of_ok {r : Rule} (h : step.rule? = .ok (some r)) :
    s.adopt [step] = (⟨s.rules ++ [r], true⟩, ⟨.ok (), true, [s.size + 1]⟩) := by
  have hpasses : ∀ b ∈ [step], b.Passes := List.forall_mem_singleton.mpr ⟨some r, h⟩
  have hdeclared : declaredRules [step] = [r] := by
    rw [declaredRules, List.filterMap_cons, Step.toOption_of_rule? h, List.filterMap_nil]
  rw [adopt_of_passes hs hpasses, hdeclared]
  rfl

theorem adopt_step_of_error {e : RuleError} (h : step.rule? = .error e) :
    s.adopt [step] = (s, ⟨.error e, true, []⟩) := by
  have hpasses : ∀ b ∈ ([] : List Step), b.Passes := List.forall_mem_nil _
  exact adopt_of_fails hs hpasses h []

end Sieve

namespace Declaration

variable (f : KeywordForm)

theorem rule_string (k : String) : rule ⟨f.name, .string k⟩ = .ok (f.rule (.ofString k)) :=
  rule_form (.keywords f) (.string k)

theorem rule_number (n : Json.Number) :
    rule ⟨f.name, .number n⟩ = .error (.invalidArgument f.name (.notKeywords (.number n))) :=
  rule_form (.keywords f) (.number n)

end Declaration

namespace Sieve

open Declaration (WritesWord)

/-- A declaration of one keyword can always be written inline. An open sieve adopts it as it adopts the call with that
keyword, which puts the same rule with the same keyword behind the others, unless the keyword writes a number within
64 bits; then the declaration is refused for its argument, the number, and the sieve stays as it is. -/
theorem adopt_inline_keyword (f : KeywordForm) {k : String} (hne : k ≠ "") (htrimmed : Text.IsTrimmed k.toList)
    (hcomma : ',' ∉ k.toList) : ∃ d, Declaration.ofInline (f.name ++ "=" ++ k) = .ok d ∧
      ∀ s : Sieve, s.isSealed = false →
        s.adopt [.call (.keywords f [k])] =
          (⟨s.rules ++ [f.rule (.ofString k)], true⟩, ⟨.ok (), true, [s.size + 1]⟩) ∧
        (s.adopt [.declare d] = s.adopt [.call (.keywords f [k])] ↔ ∀ n, ¬WritesWord n k.toList) ∧
        ∀ n, WritesWord n k.toList → s.adopt [.declare d] =
          (s, ⟨.error (.invalidArgument f.name (.notKeywords (.number (.ofWord n)))), true, []⟩) := by
  have hne' : k.toList ≠ [] := by simpa using hne
  have hinline := Declaration.ofInline_of_name f.ne_empty_name f.isTrimmed_name f.equals_notMem_name k
  refine ⟨_, hinline, fun s hs => ?_⟩
  have hcall : s.adopt [.call (.keywords f [k])] =
      (⟨s.rules ++ [f.rule (.ofString k)], true⟩, ⟨.ok (), true, [s.size + 1]⟩) := adopt_step_of_ok hs rfl
  have hrefused : ∀ n, WritesWord n k.toList → s.adopt [.declare ⟨f.name, Declaration.inlineArgument k.toList⟩] =
      (s, ⟨.error (.invalidArgument f.name (.notKeywords (.number (.ofWord n)))), true, []⟩) := by
    intro n hn
    rw [Declaration.inlineArgument_of_word hne' htrimmed hcomma hn]
    exact adopt_step_of_error hs (by rw [Step.rule?, Declaration.rule_number, map_error])
  refine ⟨hcall, ⟨fun hsame n hn => ?_, fun hnone => ?_⟩, hrefused⟩
  · rw [hrefused n hn, hcall] at hsame
    have houtcome := congrArg (fun p => p.2.outcome) hsame
    exact absurd houtcome (by simp)
  · rw [Declaration.inlineArgument_of_no_word hne' htrimmed hcomma hnone, String.ofList_toList, hcall]
    exact adopt_step_of_ok hs (by rw [Step.rule?, Declaration.rule_string, map_ok])

/-- One keyword begins with digits and has an equals sign in it, the other is a numeral with a plus and a zero. -/
theorem adopt_inline_keyword_digits :
    (∃ d, Declaration.ofInline "excludeFromSource=2=x" = .ok d ∧
      Sieve.empty.adopt [.declare d] = Sieve.empty.adopt [.call (.keywords (.source false) ["2=x"])]) ∧
    ∃ d, Declaration.ofInline "withLanguage=+07" = .ok d ∧ Sieve.empty.adopt [.declare d] =
      (Sieve.empty, ⟨.error (.invalidArgument "withLanguage" (.notKeywords (.number (.ofWord 7)))), true, []⟩) := by
  have htrimmed : Text.IsTrimmed "2=x".toList ∧ Text.IsTrimmed "+07".toList := by simp [Text.IsTrimmed]; decide
  have hsource : (KeywordForm.source false).name ++ "=" ++ "2=x" = "excludeFromSource=2=x" := rfl
  have hlanguage : (KeywordForm.language true).name ++ "=" ++ "+07" = "withLanguage=+07" := rfl
  obtain ⟨d, hd, hadopts⟩ := adopt_inline_keyword (.source false) (k := "2=x") (by decide) htrimmed.1 (by decide)
  obtain ⟨e, he, hrefuses⟩ := adopt_inline_keyword (.language true) (k := "+07") (by decide) htrimmed.2 (by decide)
  rw [hsource] at hd
  rw [hlanguage] at he
  refine ⟨⟨d, hd, (hadopts Sieve.empty rfl).2.1.mpr ?_⟩, e, he, (hrefuses Sieve.empty rfl).2.2 7 ?_⟩
  · exact Declaration.wordOf?_eq_none_iff.mp (by decide)
  · exact Declaration.wordOf?_eq_some_iff.mp (by decide)

/-- The keyword 360 alone can be called but not declared inline, though with another one it can. -/
theorem inline_numeral_refused :
    Declaration.ofInline "onlyFromSource=360" = .ok ⟨"onlyFromSource", .number (.ofWord 360)⟩ ∧
    (Sieve.empty.adopt [.declare ⟨"onlyFromSource", .number (.ofWord 360)⟩]).2.outcome =
      .error (.invalidArgument "onlyFromSource" (.notKeywords (.number (.ofWord 360)))) ∧
    (Sieve.empty.adopt [.call (.keywords (.source true) ["360"])]).2.outcome = .ok () ∧
    Declaration.ofInline "onlyFromSource=360,web" =
      .ok ⟨"onlyFromSource", .array [.string "360", .string "web"]⟩ := by
  have hrule := Declaration.rule_number (.source true) (.ofWord 360)
  rw [KeywordForm.name] at hrule
  refine ⟨rfl, ?_, rfl, rfl⟩
  rw [adopt_step_of_error rfl (by rw [Step.rule?, hrule, map_error])]

end Sieve

end FeedSieve
