import FeedSieve.Proofs.Outcome
import FeedSieve.Sieve.Basic

/-! What a sieve says about a record. It keeps the record if all its rules hold; otherwise it names the first rule
that fails, the ones before it all holding. -/

namespace FeedSieve.Sieve

variable {s : Sieve} {t : Tweet} {name : String}

theorem keeps_iff_rejectedBy : s.keeps t = true ↔ s.rejectedBy t = none := Option.isNone_iff_eq_none

theorem rejectedBy_eq_none_iff : s.rejectedBy t = none ↔ ∀ r ∈ s.rules, r.condition.holds t = true := by
  rw [← keeps_iff_rejectedBy, keeps, verdict, kept_judge, List.all_eq_true]

theorem rejectedBy_judge_eq_some_iff {rules : List Rule} : (judge t rules).rejectedBy = some name ↔
    ∃ before r after, rules = before ++ r :: after ∧ (∀ q ∈ before, q.condition.holds t = true) ∧
      r.condition.holds t = false ∧ r.name = name := by
  induction rules with
  | nil => simp [judge]
  | cons q rules ih =>
    rw [judge, exists_first_cons_iff, ← ih]
    split
    · next hq => simp [hq]
    · next hq => simp [hq]

/-- The rule that is named is the first one that fails. -/
theorem rejectedBy_eq_some_iff : s.rejectedBy t = some name ↔
    ∃ before r after, s.rules = before ++ r :: after ∧ (∀ q ∈ before, q.condition.holds t = true) ∧
      r.condition.holds t = false ∧ r.name = name := rejectedBy_judge_eq_some_iff

/-- What the rules say depends on what each of them does. -/
theorem judge_congr {u : Tweet} {rules : List Rule}
    (h : ∀ r ∈ rules, r.condition.holds t = r.condition.holds u) : judge t rules = judge u rules := by
  induction rules with
  | nil => rfl
  | cons r rules ih =>
    obtain ⟨hr, hrules⟩ := List.forall_mem_cons.mp h
    rw [judge, judge, hr, ih hrules]

theorem rejectedBy_append (s u : Sieve) (b : Bool) (t : Tweet) :
    rejectedBy ⟨s.rules ++ u.rules, b⟩ t = (s.rejectedBy t).or (u.rejectedBy t) :=
  rejectedBy_judge_append t s.rules u.rules

end FeedSieve.Sieve
