import Mathlib.Data.List.Forall2
import FeedSieve.Proofs.Sieve.Draft

/-! Adopting or compiling a config reads the rule of one declaration after another, up to the first that has none.
So a config that was put together from two compiles to the rules of the first followed by those of the second. -/

namespace FeedSieve

/-- A chain of steps gives a list if each step gives the element in its place. -/
theorem mapM_eq_ok_iff_forall₂ {ε α β : Type} {f : α → Except ε β} {as : List α} {bs : List β} :
    as.mapM f = .ok bs ↔ List.Forall₂ (fun a b => f a = .ok b) as bs := by
  induction as generalizing bs with
  | nil =>
    rw [List.forall₂_nil_left_iff]
    exact ⟨fun h => (Except.ok.inj h).symm, fun h => h ▸ rfl⟩
  | cons a as ih => simp only [mapM_cons_eq_ok, List.forall₂_cons_left_iff, ih, exists_and_left]

/-! ### Adopting declarations -/

theorem passes_declare_iff {d : Declaration} : (Step.declare d).Passes ↔ ∃ r, d.rule = .ok r := by
  cases h : d.rule <;> simp [Step.Passes, Step.rule?, h]

theorem declaredRules_declare (ds : List Declaration) :
    declaredRules (ds.map .declare) = ds.filterMap (·.rule.toOption) := by
  rw [declaredRules, List.filterMap_map]
  rfl

/-- An open sieve takes over the rules of a config and is sealed if each declaration has one; otherwise it stays as it
is, and the error is that of the first declaration that has none. -/
theorem Sieve.adoptConfig_eq {s : Sieve} (hs : s.isSealed = false) (c : Config) :
    s.adoptConfig c = match c.declarations.mapM Declaration.rule with
      | .ok rs => (⟨s.rules ++ rs, true⟩, .ok ())
      | .error e => (s, .error e) := by
  cases hrules : c.declarations.mapM Declaration.rule with
  | ok rs =>
    have hpasses : ∀ step ∈ c.declarations.map Step.declare, step.Passes := by
      rw [List.forall_mem_map]
      exact fun d hd => passes_declare_iff.mpr (exists_mapM_eq_ok_iff.mp ⟨rs, hrules⟩ d hd)
    rw [adoptConfig, adopt_of_passes hs hpasses, declaredRules_declare, filterMap_of_mapM_eq_ok hrules]
  | error e =>
    obtain ⟨before, d, after, hds, hbefore, hd⟩ := mapM_eq_error_iff.mp hrules
    have hpasses : ∀ step ∈ before.map Step.declare, step.Passes := by
      rw [List.forall_mem_map]
      exact fun b hb => passes_declare_iff.mpr (hbefore b hb)
    have hfails : (Step.declare d).rule? = .error e := by rw [Step.rule?, hd, map_error]
    rw [adoptConfig, hds, List.map_append, List.map_cons, adopt_of_fails hs hpasses hfails]

/-! ### Compiling -/

/-- A compiled config has the rules of its declarations and is sealed; one that does not compile fails with the
error of the first declaration that has none. -/
theorem Config.compile_eq (c : Config) :
    c.compile = (c.declarations.mapM Declaration.rule).map fun rs => (⟨rs, true⟩ : Sieve) := by
  rw [compile, Sieve.adoptConfig_eq rfl]
  cases c.declarations.mapM Declaration.rule <;> rfl

theorem Config.compile_eq_ok {c : Config} {s : Sieve} :
    c.compile = .ok s ↔ c.declarations.mapM Declaration.rule = .ok s.rules ∧ s.isSealed = true := by
  rw [compile_eq, map_eq_ok]
  constructor
  · rintro ⟨rs, hrs, rfl⟩
    exact ⟨hrs, rfl⟩
  · rintro ⟨hrs, hsealed⟩
    exact ⟨s.rules, hrs, by rw [← hsealed]⟩

/-- A config that compiles has a rule for each declaration. -/
theorem rules_of_compile {c : Config} {s : Sieve} (h : c.compile = .ok s) :
    (∀ d ∈ c.declarations, ∃ r, d.rule = .ok r) ∧ s.rules = c.declarations.filterMap (·.rule.toOption) := by
  have hrules := (Config.compile_eq_ok.mp h).1
  exact ⟨exists_mapM_eq_ok_iff.mp ⟨s.rules, hrules⟩, (filterMap_of_mapM_eq_ok hrules).symm⟩

theorem form_of_rule {decl : Declaration} {r : Rule} (h : decl.rule = .ok r) :
    ∃ form, Form.ofName? decl.name = some form ∧ form.rule decl.argument = .ok r := by
  rw [Declaration.rule] at h
  cases hform : Form.ofName? decl.name with
  | none => exact absurd h (by simp [hform])
  | some form => exact ⟨form, rfl, by simpa [hform] using h⟩

/-- Each rule of a compiled config is that of a published form, with the argument of some declaration. -/
theorem exists_form_of_compile {c : Config} {s : Sieve} (h : c.compile = .ok s) {r : Rule} (hr : r ∈ s.rules) :
    ∃ decl ∈ c.declarations, ∃ form, Form.ofName? decl.name = some form ∧ form.rule decl.argument = .ok r := by
  obtain ⟨hrule, hrules⟩ := rules_of_compile h
  rw [hrules] at hr
  obtain ⟨decl, hmem, hr⟩ := List.mem_filterMap.mp hr
  obtain ⟨r', hr'⟩ := hrule decl hmem
  obtain rfl : r' = r := by simpa [hr', Except.toOption] using hr
  exact ⟨decl, hmem, form_of_rule hr'⟩

/-- Two configs that compile still do when they are put together. -/
theorem Config.compile_append {ds es : List Declaration} {s u : Sieve} (hs : Config.compile ⟨ds⟩ = .ok s)
    (hu : Config.compile ⟨es⟩ = .ok u) : Config.compile ⟨ds ++ es⟩ = .ok ⟨s.rules ++ u.rules, true⟩ := by
  have hds := (compile_eq_ok.mp hs).1
  have hes := (compile_eq_ok.mp hu).1
  refine compile_eq_ok.mpr ⟨?_, rfl⟩
  rw [List.mapM_append, hds, hes]
  rfl

end FeedSieve
