import FeedSieve.Proofs.Outcome
import FeedSieve.Sieve.Draft

/-! Drafts are all or nothing. While steps are taken the rules only grow at their end, one rule for each
call that succeeds, so cutting them back to their old number restores what there was. -/

namespace FeedSieve

/-! ### Steps -/

/-- What the call of a step gives, whether or not a failure is passed over. -/
def Step.result : Step → Except RuleError Rule
  | .call c => .ok c.rule
  | .custom r => .ok r
  | .declare d => d.rule
  | .attempt d => d.rule
  | .fail e => .error e

def Step.Passes (step : Step) : Prop := ∃ r, step.rule? = .ok r

def declaredRules (steps : List Step) : List Rule := steps.filterMap fun step => step.result.toOption

/-- A call that succeeds declares its rule; one that fails declares none, and ends the draft unless its
failure is passed over. -/
theorem Step.rule?_eq (step : Step) :
    step.rule? = (match step.result, step with
      | .ok r, _ => .ok (some r)
      | .error _, .attempt _ => .ok none
      | .error e, _ => .error e) := by
  cases step with
  | declare d => cases h : d.rule <;> simp [Step.rule?, Step.result, h]
  | attempt d => cases h : d.rule <;> simp [Step.rule?, Step.result, h]
  | _ => rfl

theorem Step.toOption_of_rule? {step : Step} {r : Option Rule} (h : step.rule? = .ok r) :
    step.result.toOption = r := by
  rw [Step.rule?_eq] at h
  cases hs : step.result with
  | ok r' => simpa [hs, Except.toOption] using h
  | error e =>
    rw [hs] at h
    cases step with
    | attempt d => exact Except.ok.inj h
    | _ => exact absurd h (by simp)

/-- A draft goes through, or there is a first step at which it ends. -/
theorem exists_first_failing (steps : List Step) :
    (∀ step ∈ steps, step.Passes) ∨
      ∃ before step after e, steps = before ++ step :: after ∧ (∀ b ∈ before, b.Passes) ∧
        step.rule? = .error e := by
  cases h : steps.mapM Step.rule? with
  | ok rs => exact .inl (exists_mapM_eq_ok_iff.mp ⟨rs, h⟩)
  | error e =>
    obtain ⟨before, step, after, hsteps, hbefore, he⟩ := mapM_eq_error_iff.mp h
    exact .inr ⟨before, step, after, e, hsteps, hbefore, he⟩

namespace Sieve

/-! ### Taking steps -/

/-- The steps that pass add the rules they declare at the end, one after another. -/
theorem takeSteps_of_passes {s : Sieve} {steps : List Step} (h : ∀ step ∈ steps, step.Passes) :
    s.takeSteps steps = ({ s with rules := s.rules ++ declaredRules steps }, .ok (),
      List.range' (s.size + 1) (declaredRules steps).length) := by
  induction steps generalizing s with
  | nil => simp [takeSteps, declaredRules]
  | cons step steps ih =>
    obtain ⟨r, hr⟩ := h step (by simp)
    have hrest := fun s => ih (s := s) fun b hb => h b (by simp [hb])
    have hrules : declaredRules (step :: steps) = r.toList ++ declaredRules steps := by
      rw [declaredRules, List.filterMap_cons, Step.toOption_of_rule? hr]
      cases r <;> rfl
    rw [takeSteps, hr, hrules]
    cases r with
    | none => simpa using hrest s
    | some r => simp [hrest, push, size, List.range'_succ]

/-- Steps after others that pass start from where those have led. -/
theorem takeSteps_append {s : Sieve} {before : List Step} (h : ∀ step ∈ before, step.Passes)
    (after : List Step) :
    s.takeSteps (before ++ after) =
      (((s.takeSteps before).1.takeSteps after).1, ((s.takeSteps before).1.takeSteps after).2.1,
        (s.takeSteps before).2.2 ++ ((s.takeSteps before).1.takeSteps after).2.2) := by
  induction before generalizing s with
  | nil => rfl
  | cons step before ih =>
    obtain ⟨r, hr⟩ := h step (by simp)
    have hrest := fun s => ih (s := s) fun b hb => h b (by simp [hb])
    rw [List.cons_append, takeSteps, takeSteps, hr]
    cases r with
    | none => exact hrest s
    | some r => simp [hrest]

theorem takeSteps_of_fails {s : Sieve} {before : List Step} (h : ∀ step ∈ before, step.Passes) {step : Step}
    {e : RuleError} (he : step.rule? = .error e) (after : List Step) :
    s.takeSteps (before ++ step :: after) = ({ s with rules := s.rules ++ declaredRules before }, .error e,
      List.range' (s.size + 1) (declaredRules before).length) := by
  rw [takeSteps_append h, takeSteps_of_passes h, takeSteps, he]
  simp

theorem rules_takeSteps_concat {s : Sieve} {before : List Step} (h : ∀ step ∈ before, step.Passes)
    (step : Step) :
    (s.takeSteps (before ++ [step])).1.rules =
      (s.takeSteps before).1.rules ++ step.result.toOption.toList := by
  rw [takeSteps_append h, takeSteps, Step.rule?_eq]
  cases step.result with
  | ok r => rfl
  | error e => cases step <;> simp [takeSteps, Except.toOption]

/-! ### Adopting a draft -/

theorem adopt_of_passes {s : Sieve} (hs : s.isSealed = false) {steps : List Step}
    (h : ∀ step ∈ steps, step.Passes) :
    s.adopt steps = (⟨s.rules ++ declaredRules steps, true⟩,
      ⟨.ok (), true, List.range' (s.size + 1) (declaredRules steps).length⟩) := by
  rw [adopt, if_neg (by simp [hs]), takeSteps_of_passes h]
  rfl

theorem adopt_of_fails {s : Sieve} (hs : s.isSealed = false) {before : List Step}
    (h : ∀ step ∈ before, step.Passes) {step : Step} {e : RuleError} (he : step.rule? = .error e)
    (after : List Step) :
    s.adopt (before ++ step :: after) =
      (s, ⟨.error e, true, List.range' (s.size + 1) (declaredRules before).length⟩) := by
  rw [adopt, if_neg (by simp [hs]), takeSteps_of_fails h he]
  simp [truncate, size]

/-- What a draft leaves depends on its outcome alone. -/
theorem adopt_spec (s : Sieve) (steps : List Step) :
    (s.adopt steps).1.rules = s.rules ++ (if (s.adopt steps).2.outcome.isOk then declaredRules steps else []) ∧
      (s.adopt steps).1.isSealed = (s.isSealed || (s.adopt steps).2.outcome.isOk) := by
  cases hs : s.isSealed with
  | true =>
    rw [adopt_of_isSealed hs]
    simp [hs, Except.isOk, Except.toBool]
  | false =>
    obtain hall | ⟨before, step, after, e, rfl, hbefore, he⟩ := exists_first_failing steps
    · rw [adopt_of_passes hs hall]
      simp [Except.isOk, Except.toBool]
    · rw [adopt_of_fails hs hbefore he after]
      simp [hs, Except.isOk, Except.toBool]

/-- A draft that an open sieve adopts is all or nothing. Inside it, each call that succeeds puts exactly one
rule behind the others and each that fails leaves them alone. If a step ends the draft, its error is
returned and the sieve is the old one, so that later drafts do on it what they would have done before; if
none does, the sieve has its old rules followed by those declared, in the order of the calls, and is
sealed. -/
theorem adopt_all_or_nothing {s : Sieve} (hs : s.isSealed = false) (steps : List Step) :
    (∀ before step after, steps = before ++ step :: after → (∀ b ∈ before, b.Passes) →
      match step.result with
      | .ok r =>
        (s.takeSteps (before ++ [step])).1.rules = (s.takeSteps before).1.rules ++ [r] ∧
          (s.takeSteps (before ++ [step])).1.size = (s.takeSteps before).1.size + 1
      | .error _ => (s.takeSteps (before ++ [step])).1.rules = (s.takeSteps before).1.rules) ∧
    (∀ before step after e, steps = before ++ step :: after → (∀ b ∈ before, b.Passes) →
      step.rule? = .error e →
        (s.adopt steps).2.outcome = .error e ∧ (s.adopt steps).1 = s ∧
          (s.adopt steps).2.sizes = List.range' (s.size + 1) (declaredRules before).length ∧
          ∀ later, (s.adopt steps).1.adopt later = s.adopt later) ∧
    ((∀ step ∈ steps, step.Passes) →
      (s.adopt steps).2.outcome = .ok () ∧ (s.adopt steps).1 = ⟨s.rules ++ declaredRules steps, true⟩ ∧
        (s.adopt steps).2.sizes = List.range' (s.size + 1) (declaredRules steps).length) := by
  refine ⟨?_, ?_, ?_⟩
  · rintro before step after - hbefore
    have hrules := rules_takeSteps_concat (s := s) hbefore step
    cases hr : step.result with
    | ok r =>
      rw [hr] at hrules
      exact ⟨hrules, by rw [size, hrules, size]; exact List.length_append⟩
    | error e => simpa [hr, Except.toOption] using hrules
  · rintro before step after e rfl hbefore he
    have hadopt := adopt_of_fails hs hbefore he after
    rw [hadopt]
    exact ⟨rfl, rfl, rfl, fun _ => rfl⟩
  · intro hall
    rw [adopt_of_passes hs hall]
    exact ⟨rfl, rfl, rfl⟩

theorem adopt_given_up :
    (Sieve.adopt ⟨[Flag.rule .withoutMedia], false⟩
      [.call (.flag .withGeo), .fail (.unknownDeclaration "withGeoo")]).1 = ⟨[Flag.rule .withoutMedia], false⟩ := by
  have hpasses : ∀ b ∈ [Step.call (.flag .withGeo)], b.Passes := by simp [Step.Passes, Step.rule?]
  exact ((adopt_all_or_nothing rfl _).2.1 [.call (.flag .withGeo)] (.fail (.unknownDeclaration "withGeoo")) [] _ rfl
    hpasses rfl).2.1

end Sieve

end FeedSieve
