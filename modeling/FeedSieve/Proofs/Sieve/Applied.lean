import FeedSieve.Proofs.Rule.Refusal
import FeedSieve.Proofs.Sieve.Compiled
import FeedSieve.Proofs.Sieve.Judging

/-! What becomes of a config. It is adopted if all its declarations are acceptable, each of them as one rule;
otherwise the first that is refused decides on the error, and nothing is adopted. So configs can be put together,
and the sieve of the whole is made of the sieves of the parts. -/

namespace FeedSieve

namespace Sieve

variable {s : Sieve} {c : Config} {e : RuleError}

theorem outcome_eq_ok_iff (hs : s.isSealed = false) :
    (s.adoptConfig c).2 = .ok () ↔ ∀ d ∈ c.declarations, d.Acceptable := by
  rw [adoptConfig_eq hs, ← forall₂_congr fun d _ => Declaration.exists_rule_iff, ← exists_mapM_eq_ok_iff]
  cases c.declarations.mapM Declaration.rule <;> simp

/-- The first declaration that is refused decides on the error, whatever comes after it. -/
theorem outcome_eq_error_iff (hs : s.isSealed = false) : (s.adoptConfig c).2 = .error e ↔
    ∃ before d after, c.declarations = before ++ d :: after ∧ (∀ b ∈ before, b.Acceptable) ∧ d.Refused e := by
  simp only [← Declaration.exists_rule_iff, ← Declaration.rule_eq_error_iff]
  rw [adoptConfig_eq hs, ← mapM_eq_error_iff]
  cases c.declarations.mapM Declaration.rule <;> simp

theorem adoptConfig_of_error (hs : s.isSealed = false) (h : (s.adoptConfig c).2 = .error e) :
    (s.adoptConfig c).1 = s := by
  rw [adoptConfig_eq hs] at h ⊢
  cases hrules : c.declarations.mapM Declaration.rule with
  | ok rs => exact absurd h (by simp [hrules])
  | error e' => rfl

theorem exists_rules_of_ok (hs : s.isSealed = false) (h : (s.adoptConfig c).2 = .ok ()) :
    ∃ rules, List.Forall₂ (fun d r => d.rule = .ok r) c.declarations rules ∧
      (s.adoptConfig c).1 = ⟨s.rules ++ rules, true⟩ := by
  rw [adoptConfig_eq hs] at h ⊢
  cases hrules : c.declarations.mapM Declaration.rule with
  | ok rs => exact ⟨rs, mapM_eq_ok_iff_forall₂.mp hrules, rfl⟩
  | error e => exact absurd h (by simp [hrules])

/-- In a sieve that has adopted a config there is the rule of each declaration. -/
theorem mem_rules_of_ok (hs : s.isSealed = false) (h : (s.adoptConfig c).2 = .ok ()) {d : Declaration}
    (hd : d ∈ c.declarations) {r : Rule} (hr : d.rule = .ok r) : r ∈ (s.adoptConfig c).1.rules := by
  rw [adoptConfig_eq hs] at h ⊢
  cases hrules : c.declarations.mapM Declaration.rule with
  | error e => exact absurd h (by simp [hrules])
  | ok rs =>
    refine List.mem_append_right _ ?_
    rw [← filterMap_of_mapM_eq_ok hrules]
    exact List.mem_filterMap.mpr ⟨d, hd, by rw [hr]; rfl⟩

theorem names_append (s u : Sieve) (b : Bool) : names ⟨s.rules ++ u.rules, b⟩ = s.names ++ u.names :=
  List.map_append

theorem keeps_append (s u : Sieve) (b : Bool) (t : Tweet) :
    keeps ⟨s.rules ++ u.rules, b⟩ t = (s.keeps t && u.keeps t) := by
  simp only [keeps, verdict, kept_judge, List.all_append]

/-- A config is adopted by an open sieve just if every declaration is published under its name and, if it takes
keywords, has an argument that gives some; the sieve then has its old rules followed by one for each declaration.
Otherwise the error is that of the first declaration that is refused, and the sieve stays as it is. So two configs
that compile do so together: the rules of the whole are named as those of the parts are, a record has to pass both
parts, and it is rejected by the first part that rejects it. -/
theorem applied_or_refused (hs : s.isSealed = false) (c : Config) :
    ((s.adoptConfig c).2 = .ok () ↔ ∀ d ∈ c.declarations, d.Acceptable) ∧
    (∀ e, (s.adoptConfig c).2 = .error e ↔
      ∃ before d after, c.declarations = before ++ d :: after ∧ (∀ b ∈ before, b.Acceptable) ∧ d.Refused e) ∧
    (∀ e, (s.adoptConfig c).2 = .error e → (s.adoptConfig c).1 = s) ∧
    ((s.adoptConfig c).2 = .ok () → ∃ rules, List.Forall₂ (fun d r => d.rule = .ok r) c.declarations rules ∧
      (s.adoptConfig c).1 = ⟨s.rules ++ rules, true⟩) ∧
    ∀ (ds es : List Declaration) (u v : Sieve), Config.compile ⟨ds⟩ = .ok u → Config.compile ⟨es⟩ = .ok v →
      ∃ w, Config.compile ⟨ds ++ es⟩ = .ok w ∧ w.names = u.names ++ v.names ∧
        (∀ t, w.keeps t = (u.keeps t && v.keeps t)) ∧
        ∀ t, w.rejectedBy t = (u.rejectedBy t).or (v.rejectedBy t) := by
  refine ⟨outcome_eq_ok_iff hs, fun e => outcome_eq_error_iff hs, fun e => adoptConfig_of_error hs,
    exists_rules_of_ok hs, ?_⟩
  intro ds es u v hu hv
  exact ⟨_, Config.compile_append hu hv, u.names_append v true, u.keeps_append v true, u.rejectedBy_append v true⟩

/-- A name spelled with an underscore, and an argument that gives no language, before a name that is not
published. -/
def faultyConfig : Config := ⟨[⟨"with_geo", .null⟩, ⟨"with-language", .bool true⟩, ⟨"withCats", .null⟩]⟩

theorem applied_or_refused_faulty :
    (adoptConfig ⟨[Flag.rule .withoutMedia], false⟩ faultyConfig).2 =
      .error (.invalidArgument "withLanguage" (.notKeywords (.bool true))) ∧
    (adoptConfig ⟨[Flag.rule .withoutMedia], false⟩ faultyConfig).1 = ⟨[Flag.rule .withoutMedia], false⟩ := by
  have hgeo : (Declaration.mk "with_geo" .null).Acceptable :=
    ⟨⟨("withGeo", .flag .withGeo), FeedSieve.mem_catalogue (.flag .withGeo), by decide +kernel⟩, fun _ _ => .null⟩
  have hlanguage : (Declaration.mk "with-language" (.bool true)).Refused
      (.invalidArgument "withLanguage" (.notKeywords (.bool true))) :=
    .argument (.language true) (by decide +kernel) (.bool true)
  obtain ⟨-, herror, hunchanged, -⟩ := applied_or_refused (s := ⟨[Flag.rule .withoutMedia], false⟩) rfl faultyConfig
  have houtcome := (herror _).mpr
    ⟨[⟨"with_geo", .null⟩], _, [⟨"withCats", .null⟩], rfl, List.forall_mem_singleton.mpr hgeo, hlanguage⟩
  exact ⟨houtcome, hunchanged _ houtcome⟩

end Sieve

end FeedSieve
